/-!
# Faults of a graph

Why a run has no declaration graph: its document cannot be read or decoded, or its records
do not fit together. A run stops at its first fault.
-/

namespace Exposure.Graph

/-- A reason why there is no graph. -/
inductive Fault where
  | duplicateDeclaration (name : String)
  | duplicateModule (name : String)
  | unknownModule (declaration module : String)
  | unknownParent (declaration parent : String)
  | parentNotScope (declaration parent : String)
  | cyclicParent (declaration parent : String)
  | missingAliasTarget (declaration : String)
  | unexpectedAliasTarget (declaration : String)
  | invalidKind (declaration kind : String)
  /-- The file could not be read as text, for the reason given. -/
  | fileRead (path reason : String)
  /-- The file is no graph document, for the reason given. -/
  | malformedDocument (path reason : String)
  deriving DecidableEq, Repr

namespace Fault

/-- The stable code of a fault. -/
def code : Fault → String
  | duplicateDeclaration .. => "DUPLICATE_DECLARATION"
  | duplicateModule .. => "DUPLICATE_MODULE"
  | unknownModule .. => "UNKNOWN_MODULE"
  | unknownParent .. => "UNKNOWN_PARENT"
  | parentNotScope .. => "PARENT_NOT_NAMESPACE"
  | cyclicParent .. => "CYCLIC_PARENT"
  | missingAliasTarget .. => "MISSING_ALIAS_TARGET"
  | unexpectedAliasTarget .. => "UNEXPECTED_ALIAS_TARGET"
  | invalidKind .. => "INVALID_KIND"
  | fileRead .. => "FILE_READ_ERROR"
  | malformedDocument .. => "GRAPH_PARSE_ERROR"

/-- The wording of a fault. -/
def message : Fault → String
  | duplicateDeclaration name => "Declaration '" ++ name ++ "' is defined more than once"
  | duplicateModule name => "Module '" ++ name ++ "' is listed more than once"
  | unknownModule declaration module =>
    "Declaration '" ++ declaration ++ "' belongs to unknown module '" ++ module ++ "'"
  | unknownParent declaration parent =>
    "Declaration '" ++ declaration ++ "' is nested in unknown namespace '" ++ parent ++ "'"
  | parentNotScope declaration parent =>
    "Declaration '" ++ declaration ++ "' is nested in '" ++ parent ++
      "', which is not a namespace"
  | cyclicParent declaration parent =>
    "Parent chain of '" ++ declaration ++ "' loops back to '" ++ parent ++ "'"
  | missingAliasTarget declaration => "Alias '" ++ declaration ++ "' has no target"
  | unexpectedAliasTarget declaration =>
    "Declaration '" ++ declaration ++ "' is not an alias but names a target"
  | invalidKind declaration kind =>
    "Declaration '" ++ declaration ++ "' has unknown kind '" ++ kind ++ "'"
  | fileRead path reason => "Failed to read graph file '" ++ path ++ "': " ++ reason
  | malformedDocument path reason => "Failed to parse graph file '" ++ path ++ "': " ++ reason

/-- Advice on how to mend a fault. -/
def suggestions : Fault → List String
  | duplicateDeclaration .. | duplicateModule .. =>
    ["Qualified names must be unique across the run"]
  | unknownModule .. => ["List the module in the graph's 'modules' array"]
  | unknownParent .. | parentNotScope .. =>
    ["A parent must be a namespace declared in the same graph"]
  | cyclicParent .. =>
    ["Namespaces must nest as a tree; check the 'parent' fields along the chain"]
  | missingAliasTarget .. | unexpectedAliasTarget .. =>
    ["Only declarations of kind 'alias' carry a 'target'"]
  | invalidKind .. =>
    ["Valid kinds: struct, class, alias, typedef, function, namespace, enum"]
  | fileRead .. => ["Check the file path and permissions"]
  | malformedDocument .. => ["Validate the graph file against the documented JSON layout"]

end Fault

end Exposure.Graph
