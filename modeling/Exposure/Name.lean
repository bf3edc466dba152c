/-!
# Qualified names

A qualified name is a text whose segments are separated by `::`, outermost first. Two
readings of it matter to a run:

* `Name.withoutGlobal` — the name without the **one** leading `::` that spells the global
  scope; declarations are stored and looked up under this reading;
* `Name.short` — the last segment, which is what a binding is called by default.
-/

namespace Exposure.Name

/-- The characters after one leading `::`, or all of them where there is none. -/
def dropGlobal : List Char → List Char
  | ':' :: ':' :: rest => rest
  | chars => chars

/-- A qualified name without its leading global-scope marker. Only one marker goes: a name
that starts with `::::` still starts with `::` afterwards. -/
def withoutGlobal (name : String) : String :=
  String.ofList (dropGlobal name.toList)

/-- One marker in front is the one that goes. -/
theorem withoutGlobal_append (name : String) : withoutGlobal ("::" ++ name) = name := by
  rw [withoutGlobal, String.toList_append]
  exact String.ofList_toList

/-- The characters in front of the first `::`. -/
def beforeSeparator : List Char → List Char
  | [] => []
  | ':' :: ':' :: _ => []
  | c :: rest => c :: beforeSeparator rest

/-- The last segment of a qualified name: what follows its rightmost `::`. The search runs
from the right, so in `a:::b` the segment is `b`. -/
def short (name : String) : String :=
  String.ofList (beforeSeparator name.toList.reverse).reverse

end Exposure.Name
