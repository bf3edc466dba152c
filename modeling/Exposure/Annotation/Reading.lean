import Exposure.Annotation.Basic
import Exposure.Problem
import Exposure.Text.Blank

/-!
# Reading marks

A mark becomes an annotation when its tag is a directive, the directive may stand at the
mark's site, and the payload, trimmed, fits the directive. The checks come in this order and
the first that fails gives the problem: unknown tag, wrong site, empty payload, payload
against the rule.

Reading a list judges every mark on its own: the list reads if all marks do, and otherwise
**all** problems are reported, in order.
-/

namespace Exposure

/-- The annotation of a directive whose payload has been checked; a directive that requires a
payload has one by then. -/
def Directive.withPayload (directive : Directive) (payload : Option String) : Annotation :=
  match directive with
  | .visible => .visible
  | .hidden => .hidden
  | .encourage => .encourage
  | .exposeHere => .exposeHere payload
  | .manual => .manual (payload.getD "")
  | .importModule => .importModule (payload.getD "")

/-- Judges one mark found on `owner` at `site`. -/
def Mark.read (owner : String) (site : Site) (mark : Mark) : Except Problem Annotation :=
  match Directive.ofText? mark.tag with
  | none => .error (.unknownTag owner mark.tag)
  | some directive =>
    let malformed (reason : String) : Except Problem Annotation :=
      .error (.malformedMark owner directive.text reason)
    let payload := mark.payload.map Text.trim
    if directive.allowedOn site then
      if payload = some "" then malformed "payload is empty"
      else match directive.payloadRule, payload with
        | .forbidden, some text => malformed ("takes no payload, got '" ++ text ++ "'")
        | .required, none => malformed "requires a payload"
        | _, _ => .ok (directive.withPayload payload)
    else malformed ("cannot be attached to a " ++ site.text)

namespace Annotations

/-- The problems of a list of marks, in order. -/
def problems (owner : String) (site : Site) (marks : List Mark) : List Problem :=
  marks.filterMap fun mark ↦ match mark.read owner site with
    | .ok _ => none
    | .error problem => some problem

/-- The annotations of those marks that read, in order. -/
def readable (owner : String) (site : Site) (marks : List Mark) : List Annotation :=
  marks.filterMap fun mark ↦ (mark.read owner site).toOption

/-- Reads all marks found on `owner` at `site`, or reports every problem among them. -/
def read (owner : String) (site : Site) (marks : List Mark) :
    Except (List Problem) Annotations :=
  match problems owner site marks with
  | [] => .ok ⟨readable owner site marks⟩
  | found => .error found

end Annotations

end Exposure
