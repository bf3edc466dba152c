import Exposure.Directive
import Exposure.Json.Basic

/-!
# Annotations

A **mark** is what the front end found in the source: a tag and perhaps a payload, not yet
judged. An **annotation** is a directive together with what it needs, and the annotations of
one declaration or module scope form an ordered list in which any directive may recur.

What a level of scope says about exposure is its **standing**: `visible`, `encourage` and
`expose_here` all ask for exposure, `hidden` forbids it, and a level that does both is in
conflict (`Annotations.standing`).
-/

namespace Exposure

/-- An annotation as the front end found it. -/
structure Mark where
  tag : String
  payload : Option String
  deriving DecidableEq, Repr

/-- A mark written back, without the payload where there is none. -/
def Mark.toJson (mark : Mark) : Json :=
  .obj (("tag", .str mark.tag) ::
    (mark.payload.map fun payload ↦ ("payload", Json.str payload)).toList)

/-- A directive with its payload. -/
inductive Annotation where
  | visible
  | hidden
  | encourage
  /-- Emit the target in the named module, or without a name in the alias's own. -/
  | exposeHere (module : Option String)
  | manual (code : String)
  | importModule (module : String)
  deriving DecidableEq, Repr

/-- The directive of an annotation. -/
def Annotation.directive : Annotation → Directive
  | visible => .visible
  | hidden => .hidden
  | encourage => .encourage
  | exposeHere _ => .exposeHere
  | manual _ => .manual
  | importModule _ => .importModule

/-- The structured form of an annotation: its directive, then its payload. -/
def Annotation.toJson (item : Annotation) : Json :=
  let payload : List (String × Json) := match item with
    | exposeHere none => [("module", .null)]
    | exposeHere (some module) | importModule module => [("module", .str module)]
    | manual code => [("code", .str code)]
    | visible | hidden | encourage => []
  .obj (("directive", .str item.directive.text) :: payload)

/-- Where an alias wants its target emitted. -/
inductive Destination where
  /-- In the alias's own module. -/
  | ownModule
  /-- In a module given by name. -/
  | named (module : String)
  deriving DecidableEq, Repr

/-- What one level of scope says about exposure. -/
inductive Standing where
  | unset
  | visible
  | hidden
  /-- Both at once. -/
  | conflict
  deriving DecidableEq, Repr

/-- The annotations of one declaration or module scope, in source order. -/
structure Annotations where
  items : List Annotation
  deriving DecidableEq, Repr

namespace Annotations

/-- Whether some annotation gives this directive. -/
def has (annotations : Annotations) (directive : Directive) : Bool :=
  annotations.items.any fun item ↦ item.directive = directive

/-- The emission site asked for; of several the first counts. -/
def destination? (annotations : Annotations) : Option Destination :=
  annotations.items.findSome? fun
    | .exposeHere none => some .ownModule
    | .exposeHere (some module) => some (.named module)
    | _ => none

/-- The hand-written code, block by block. -/
def manualBlocks (annotations : Annotations) : List String :=
  annotations.items.filterMap fun
    | .manual code => some code
    | _ => none

/-- The names of the modules to import. -/
def imports (annotations : Annotations) : List String :=
  annotations.items.filterMap fun
    | .importModule module => some module
    | _ => none

/-- Whether some annotation asks for exposure. -/
def asksExposure (annotations : Annotations) : Bool :=
  annotations.has .visible || annotations.has .encourage || annotations.has .exposeHere

/-- What the annotations say about exposure at their own level. -/
def standing (annotations : Annotations) : Standing :=
  match annotations.asksExposure, annotations.has .hidden with
  | false, false => .unset
  | true, false => .visible
  | false, true => .hidden
  | true, true => .conflict

end Annotations

end Exposure
