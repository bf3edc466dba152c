/-!
# Loops in messages

A loop of names is shown as a walk that comes back: every name, an arrow after each, and the
first name again. A loop without names shows as nothing.
-/

namespace Exposure.Text

/-- A loop of names as a closed walk. -/
def loop (names : List String) : String :=
  " -> ".intercalate (names ++ names.take 1)

/-- Texts as a listing separated by commas. -/
def listing (names : List String) : String :=
  ", ".intercalate names

end Exposure.Text
