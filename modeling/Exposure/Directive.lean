import Exposure.Kind

/-!
# Directives

The vocabulary of exposure: six directives, the sites each may be attached to, and what each
says about its payload.
-/

namespace Exposure

/-- Where an annotation sits: on a declaration of some kind, or at the scope of a module. -/
inductive Site where
  | declaration (kind : Kind)
  | moduleScope
  deriving DecidableEq, Repr

/-- How a site is called in messages. -/
def Site.text : Site → String
  | declaration kind => kind.text
  | moduleScope => "module scope"

/-- Whether a directive takes a payload. -/
inductive PayloadRule where
  | forbidden
  | optional
  | required
  deriving DecidableEq, Repr

/-- An instruction that an annotation can give. -/
inductive Directive where
  /-- Expose the declaration. -/
  | visible
  /-- Do not expose the declaration. -/
  | hidden
  /-- Use this alias's name for its target. -/
  | encourage
  /-- Emit the alias's target in another module. -/
  | exposeHere
  /-- Put hand-written code into the generated module. -/
  | manual
  /-- Import another generated module. -/
  | importModule
  deriving DecidableEq, Repr

namespace Directive

/-- Every directive, in vocabulary order. -/
def all : List Directive :=
  [visible, hidden, encourage, exposeHere, manual, importModule]

/-- The tag a directive is written with. -/
def text : Directive → String
  | visible => "visible"
  | hidden => "hidden"
  | encourage => "encourage"
  | exposeHere => "expose_here"
  | manual => "manual"
  | importModule => "import"

/-- Reads a tag; only the exact words of the vocabulary are directives. -/
def ofText? (tag : String) : Option Directive :=
  all.find? fun directive ↦ directive.text == tag

/-- The sites a directive may be attached to: visibility anywhere, naming and emission only
on aliases, hand-written code on whatever becomes a module, a name scope or a record, and
imports on modules and name scopes. -/
def allowedOn : Directive → Site → Bool
  | visible, _ | hidden, _ => true
  | encourage, site | exposeHere, site => site = .declaration .typeAlias
  | manual, site =>
    site = .moduleScope || site = .declaration .scope || site = .declaration .record
  | importModule, site => site = .moduleScope || site = .declaration .scope

/-- What a directive says about its payload. -/
def payloadRule : Directive → PayloadRule
  | visible | hidden | encourage => .forbidden
  | exposeHere => .optional
  | manual | importModule => .required

/-- The tag of a directive reads back as that directive. -/
theorem ofText?_text (directive : Directive) : ofText? directive.text = some directive := by
  cases directive <;> decide

end Directive

end Exposure
