import Exposure.Json.Basic
import Exposure.Text.Loop

/-!
# Problems of a run

Everything that can make an exposure plan invalid. A run collects all its problems before it
fails, so a problem carries the names it is about and nothing of where it was found. Each
cause has a stable code, one wording, advice, and a structured form.
-/

namespace Exposure

/-- A reason why a run has no plan. -/
inductive Problem where
  /-- A directive that its site or its payload does not allow. -/
  | malformedMark (declaration directive reason : String)
  /-- A tag outside the vocabulary. -/
  | unknownTag (declaration tag : String)
  /-- Aliases that name each other in a circle, in walking order. -/
  | cyclicAlias (cycle : List String)
  /-- A chain with more aliases than the limit allows. -/
  | aliasChainTooLong (start : String) (limit : Nat)
  /-- An alias whose target is no declaration of the run. -/
  | unresolvedAlias (aliasName target : String)
  /-- Several aliases that each want to name the same target. -/
  | ambiguousEncouragement (target : String) (aliases : List String)
  /-- A declaration or module that is to be exposed and hidden at once. -/
  | conflictingVisibility (declaration : String)
  /-- Hand-written code that imports a module of the run without an annotation for it. -/
  | missingImportDeclaration (module referenced : String)
  /-- An import annotation for a module outside the run. -/
  | danglingImport (module target : String)
  /-- A target that aliases want to see emitted in several modules. -/
  | duplicateEmission (declaration : String) (sites : List String)
  deriving DecidableEq, Repr

namespace Problem

/-- The stable code of a problem. -/
def code : Problem → String
  | malformedMark .. => "MALFORMED_ANNOTATION"
  | unknownTag .. => "UNKNOWN_ANNOTATION"
  | cyclicAlias .. => "CYCLIC_ALIAS"
  | aliasChainTooLong .. => "ALIAS_CHAIN_TOO_LONG"
  | unresolvedAlias .. => "UNRESOLVED_ALIAS"
  | ambiguousEncouragement .. => "AMBIGUOUS_ENCOURAGEMENT"
  | conflictingVisibility .. => "CONFLICTING_VISIBILITY"
  | missingImportDeclaration .. => "MISSING_IMPORT_DECLARATION"
  | danglingImport .. => "DANGLING_IMPORT"
  | duplicateEmission .. => "DUPLICATE_EMISSION"

/-- The wording of a problem. -/
def message : Problem → String
  | malformedMark declaration directive reason =>
    "Malformed '" ++ directive ++ "' annotation on '" ++ declaration ++ "': " ++ reason
  | unknownTag declaration tag =>
    "Unknown annotation '" ++ tag ++ "' on '" ++ declaration ++ "'"
  | cyclicAlias cycle => "Cyclic alias chain: " ++ Text.loop cycle
  | aliasChainTooLong start limit =>
    "Alias chain starting at '" ++ start ++ "' exceeds the maximum depth of " ++ toString limit
  | unresolvedAlias aliasName target =>
    "Alias '" ++ aliasName ++ "' targets '" ++ target ++ "', which is not a known declaration"
  | ambiguousEncouragement target aliases =>
    "Ambiguous encouragement for '" ++ target ++ "': encouraged by " ++ Text.listing aliases
  | conflictingVisibility declaration =>
    "Conflicting visibility annotations on '" ++ declaration ++ "'"
  | missingImportDeclaration module referenced =>
    "Manual code in module '" ++ module ++ "' imports '" ++ referenced ++
      "' without an import annotation"
  | danglingImport module target =>
    "Module '" ++ module ++ "' imports '" ++ target ++ "', which is not part of this run"
  | duplicateEmission declaration sites =>
    "'" ++ declaration ++ "' would be emitted in more than one module: " ++ Text.listing sites

/-- Advice on how to mend a problem. -/
def suggestions : Problem → List String
  | malformedMark .. =>
    ["Check which declaration kinds accept the directive",
      "'manual' and 'import' belong on a namespace or module scope"]
  | unknownTag .. =>
    ["Recognized directives: visible, hidden, encourage, expose_here, manual, import"]
  | cyclicAlias .. => ["Break the loop by pointing one alias at a concrete type"]
  | aliasChainTooLong .. =>
    ["Point the alias closer to its final target",
      "Raise resolution.max_alias_depth if the chain is intentional"]
  | unresolvedAlias .. => ["Make sure the module defining the target is part of the run"]
  | ambiguousEncouragement .. => ["Keep 'encourage' on exactly one alias per target"]
  | conflictingVisibility .. => ["Remove either 'visible' or 'hidden' from the declaration"]
  | missingImportDeclaration .. => ["Add an 'import' annotation for the referenced module"]
  | danglingImport .. =>
    ["Add the imported module to the run", "Remove the stale 'import' annotation"]
  | duplicateEmission .. => ["Keep 'expose_here' on aliases from a single module per target"]

/-- The structured form of a problem: its cause under `kind` and its parts, with the keys in
alphabetical order. -/
def toJson : Problem → Json
  | malformedMark declaration directive reason =>
    .obj [("declaration", .str declaration), ("directive", .str directive),
      ("kind", .str "malformed_annotation"), ("reason", .str reason)]
  | unknownTag declaration tag =>
    .obj [("declaration", .str declaration), ("kind", .str "unknown_annotation"),
      ("tag", .str tag)]
  | cyclicAlias cycle =>
    .obj [("cycle", .strings cycle), ("kind", .str "cyclic_alias")]
  | aliasChainTooLong start limit =>
    .obj [("alias", .str start), ("kind", .str "alias_chain_too_long"), ("limit", .num limit)]
  | unresolvedAlias aliasName target =>
    .obj [("alias", .str aliasName), ("kind", .str "unresolved_alias"), ("target", .str target)]
  | ambiguousEncouragement target aliases =>
    .obj [("aliases", .strings aliases), ("kind", .str "ambiguous_encouragement"),
      ("target", .str target)]
  | conflictingVisibility declaration =>
    .obj [("declaration", .str declaration), ("kind", .str "conflicting_visibility")]
  | missingImportDeclaration module referenced =>
    .obj [("kind", .str "missing_import_declaration"), ("module", .str module),
      ("referenced", .str referenced)]
  | danglingImport module target =>
    .obj [("kind", .str "dangling_import"), ("module", .str module), ("target", .str target)]
  | duplicateEmission declaration sites =>
    .obj [("declaration", .str declaration), ("kind", .str "duplicate_emission"),
      ("sites", .strings sites)]

/-- The code of a run that fails. -/
def invalidPlanCode : String := "PLAN_INVALID"

/-- The full account of a failed run: a heading, then one line per problem. -/
def account (problems : List Problem) : String :=
  "Exposure plan is invalid (" ++ toString problems.length ++ " error(s)):\n" ++
    String.join (problems.map fun problem ↦
      "  [" ++ problem.code ++ "] " ++ problem.message ++ "\n")

end Problem

end Exposure
