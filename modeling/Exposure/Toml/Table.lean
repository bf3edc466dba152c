import Exposure.Settings.Value

/-!
# Tables that are written piece by piece

A TOML table need not be written in one place: headers and dotted keys go through tables and
create those that are missing. So that nothing is defined twice, every table under construction
remembers its **origin**: a header or the document itself, the path of a header that went through
it, or a dotted key. Each origin allows other additions:

* a header may define a table that was only gone through, once;
* a dotted key may extend only what dotted keys have made, or what headers went through on its
  way;
* a value is never extended, not even a table written as a value.

An array of tables stands for its last table wherever a path goes through it.
-/

namespace Exposure.Toml

open Settings (Value)

/-- How a table came to be. -/
inductive Origin where
  /-- By a header of its own, or as the document. -/
  | defined
  /-- A header went through it. -/
  | passed
  /-- By a dotted key. -/
  | dotted
  deriving DecidableEq, Repr

/-- What is under a key of a table under construction. -/
inductive Node where
  | value (value : Value)
  | table (origin : Origin) (body : List (String × Node))
  /-- An array of tables, the last one apart. -/
  | tables (earlier : List (List (String × Node))) (last : List (String × Node))

/-- The entries of a table under construction. -/
abbrev Body := List (String × Node)

namespace Body

/-- The node under a key. -/
def get? : Body → String → Option Node
  | [], _ => none
  | (other, node) :: rest, key => if other = key then some node else get? rest key

/-- Puts a node under a key, in the place of the one that was there. -/
def put : Body → String → Node → Body
  | [], key, node => [(key, node)]
  | (other, old) :: rest, key, node =>
    if other = key then (key, node) :: rest else (other, old) :: put rest key node

/-- Changes the table that a path leads to from a table of the given origin; tables that are
missing on the way are created as `made`. -/
def within (made : Origin) (change : Origin → Body → Option Body) :
    (path : List String) → Origin → Body → Option Body
  | [], origin, body => change origin body
  | key :: path, _, body =>
    match get? body key with
    | none => (within made change path made []).map fun inner ↦ put body key (.table made inner)
    | some (.value _) => none
    | some (.tables earlier last) =>
      (within made change path .defined last).map fun inner ↦ put body key (.tables earlier inner)
    | some (.table origin inner) =>
      if made = .dotted ∧ origin = .defined then none
      else (within made change path origin inner).map fun inner ↦
        put body key (.table origin inner)

/-- Adds a value under a dotted key, given as the way to its table and the last part. -/
def addValue (body : Body) (path : List String) (key : String) (value : Value) : Option Body :=
  within .dotted
    (fun origin inner ↦
      -- Only the table at hand and tables of dotted keys take values.
      if (origin = .dotted) = (path ≠ []) ∧ (get? inner key).isNone then
        some (put inner key (.value value))
      else none)
    path .defined body

/-- A key with its value, the key given as the way to its table and the last part. -/
structure Assignment where
  path : List String
  key : String
  value : Value

/-- Adds values one by one. -/
def addValues (body : Body) : List Assignment → Option Body
  | [] => some body
  | assignment :: rest =>
    (addValue body assignment.path assignment.key assignment.value).bind fun body ↦
      addValues body rest

/-- Defines a table by a header and adds its values. -/
def addTable (body : Body) (path : List String) (key : String) (values : List Assignment) :
    Option Body :=
  within .passed
    (fun _ parent ↦
      match get? parent key with
      | none => (addValues [] values).map fun inner ↦ put parent key (.table .defined inner)
      | some (.table .passed inner) =>
        (addValues inner values).map fun inner ↦ put parent key (.table .defined inner)
      | some _ => none)
    path .defined body

/-- Adds a table with its values to an array of tables, by a header. -/
def addElement (body : Body) (path : List String) (key : String) (values : List Assignment) :
    Option Body :=
  within .passed
    (fun _ parent ↦
      match get? parent key with
      | none => (addValues [] values).map fun inner ↦ put parent key (.tables [] inner)
      | some (.tables earlier last) =>
        (addValues [] values).map fun inner ↦ put parent key (.tables (earlier ++ [last]) inner)
      | some _ => none)
    path .defined body

end Body

mutual

/-- The value of a finished node. -/
def Node.toValue : Node → Value
  | .value value => value
  | .table _ body => .table (entriesOf body)
  | .tables earlier last => .list (tablesOf earlier ++ [.table (entriesOf last)])

/-- The entries of a finished table. -/
def entriesOf : List (String × Node) → List (String × Value)
  | [] => []
  | (key, node) :: rest => (key, node.toValue) :: entriesOf rest

/-- The values of finished tables. -/
def tablesOf : List (List (String × Node)) → List Value
  | [] => []
  | body :: rest => .table (entriesOf body) :: tablesOf rest

end

end Exposure.Toml
