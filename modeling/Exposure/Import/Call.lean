import Exposure.Text.Blank
import Exposure.Text.Word

/-!
# Import calls in hand-written code

An **import call** is the word `import`, not preceded by a word character, then an opening
parenthesis, a non-empty text between double quotes, and a closing parenthesis, with blanks
allowed around the parentheses' contents and before them. The quoted text is the name of the
imported module; it may hold anything but a double quote.

`Import.calledModules` takes calls from left to right. After a call the search goes on behind
it, so calls never overlap; where no call starts the search moves on by one character. A
module is listed at its first call only.
-/

namespace Exposure.Import

/-- Removes an expected character from the front. -/
def expect (expected : Char) : List Char → Option (List Char)
  | [] => none
  | c :: rest => if c = expected then some rest else none

/-- Removes an expected word from the front. -/
def expectAll : List Char → List Char → Option (List Char)
  | [], chars => some chars
  | expected :: word, chars => (expect expected chars).bind (expectAll word)

/-- The characters behind the blanks at the front. -/
def skipBlanks (chars : List Char) : List Char := chars.dropWhile Text.isBlank

/-- Reads an import call at the front, without looking at what precedes it: the name, and
the characters behind the call. -/
def call? (chars : List Char) : Option (List Char × List Char) := do
  let chars ← expectAll ['i', 'm', 'p', 'o', 'r', 't'] chars
  let chars ← expect '(' (skipBlanks chars)
  let chars ← expect '"' (skipBlanks chars)
  let name := chars.takeWhile (· ≠ '"')
  if name.isEmpty then none
  let chars ← expect '"' (chars.dropWhile (· ≠ '"'))
  let chars ← expect ')' (skipBlanks chars)
  some (name, chars)

/-- The names called for in a text, call by call. `inWord` says whether the character in
front is a word character. A call is longer than nothing, so the number of characters
suffices as the number of steps. -/
def calls : (steps : Nat) → (inWord : Bool) → (chars : List Char) → List (List Char)
  | steps + 1, inWord, c :: rest =>
    match if inWord then none else call? (c :: rest) with
    | some (name, behind) => name :: calls steps false behind
    | none => calls steps (Text.isWord c) rest
  | _, _, _ => []

/-- The modules that hand-written code imports, each at its first call. -/
def calledModules (code : String) : List String :=
  ((calls code.toList.length false code.toList).map String.ofList).eraseDups

end Exposure.Import
