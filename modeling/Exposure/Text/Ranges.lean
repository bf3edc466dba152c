/-!
# Character classes as bounds

A class of characters is written as the increasing list of the code points at which
membership flips: in from the first, out from the second, in again from the third. A code
point belongs to the class exactly when an **odd** number of bounds lies at or below it.
-/

namespace Exposure.Text

/-- Whether a code point lies in the class with the given bounds. -/
def inBounds : List Nat → Nat → Bool
  | [], _ => false
  | bound :: bounds, code => if code < bound then false else !inBounds bounds code

end Exposure.Text
