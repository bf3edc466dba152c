/-!
# Kinds of declarations

The front end reports every declaration with one of seven words for five kinds. Three of the
kinds are **bindable**: they produce a binding of their own. A name scope only groups
declarations, and a type alias is bound through whatever it finally names.
-/

namespace Exposure

/-- What a declaration declares. -/
inductive Kind where
  /-- A class or struct. -/
  | record
  /-- A `using` or `typedef` name for another declaration. -/
  | typeAlias
  /-- A free function. -/
  | function
  /-- A namespace. -/
  | scope
  /-- An enumeration. -/
  | enumeration
  deriving DecidableEq, Repr

namespace Kind

/-- The word a kind is written with. -/
def text : Kind → String
  | record => "struct"
  | typeAlias => "alias"
  | function => "function"
  | scope => "namespace"
  | enumeration => "enum"

/-- Reads a kind. Beside the words `text` writes, `class` and `typedef` are understood;
letter case matters. -/
def ofText? : String → Option Kind
  | "struct" | "class" => some record
  | "alias" | "typedef" => some typeAlias
  | "function" => some function
  | "namespace" => some scope
  | "enum" => some enumeration
  | _ => none

/-- What is said of a word that names no kind. -/
def unknownMessage : String := "Unknown declaration kind"

/-- Whether a declaration of this kind gets a binding of its own when it is exposed. -/
def isBindable : Kind → Bool
  | record | function | enumeration => true
  | typeAlias | scope => false

/-- The written word of a kind reads back as that kind. -/
theorem ofText?_text (kind : Kind) : ofText? kind.text = some kind := by
  cases kind <;> rfl

end Kind

end Exposure
