/-!
# Values that settings are read from

Settings come in layers, and every layer is a table of values. Laying one table over another
(`Value.over`) replaces what both have, except that two tables under one key are themselves laid
over each other.

Files hold signed whole numbers, the environment and the defaults unsigned ones; the two are kept
apart because messages tell them apart.
-/

namespace Exposure.Settings

/-- A value in a layer of settings. -/
inductive Value where
  | text (value : String)
  /-- A single character between single quotes, which only the environment can hold. -/
  | letter (value : Char)
  | bool (value : Bool)
  /-- A whole number that may have a sign. -/
  | integer (value : Int)
  /-- A whole number that has no sign. -/
  | count (value : Nat)
  | float (value : Float)
  | list (items : List Value)
  | table (entries : List (String × Value))

/-- The entries of a table, in the order in which their keys came up. -/
abbrev Entries := List (String × Value)

namespace Entries

/-- The value under a key. -/
def get? : Entries → String → Option Value
  | [], _ => none
  | (other, value) :: rest, key => if other = key then some value else get? rest key

/-- Puts a value under a key, in the place of the one that was there. -/
def put : Entries → String → Value → Entries
  | [], key, value => [(key, value)]
  | (other, old) :: rest, key, value =>
    if other = key then (key, value) :: rest else (other, old) :: put rest key value

end Entries

mutual

/-- A value laid over what is under the same key. -/
def Value.over (below : Option Value) : Value → Value
  | .table entries =>
    match below with
    | some (.table old) => .table (entriesOver old entries)
    | _ => .table entries
  | value => value

/-- Entries laid over others, one by one. -/
def entriesOver (below : Entries) : List (String × Value) → Entries
  | [] => below
  | (key, value) :: rest =>
    entriesOver (below.put key (Value.over (below.get? key) value)) rest

end

/-- The value that a key of a table leads to, or a position of a list written as a number. -/
def Value.child? : Value → String → Option Value
  | .table entries, key => Entries.get? entries key
  | .list items, key =>
    ((List.range items.length).find? fun index ↦ toString index = key).bind fun index ↦
      items[index]?
  | _, _ => none

/-- The value that a path of keys leads to. -/
def Value.at? (value : Value) : List String → Option Value
  | [] => some value
  | key :: rest => (value.child? key).bind fun child ↦ child.at? rest

end Exposure.Settings
