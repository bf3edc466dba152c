import Exposure.Settings.Value

/-!
# Tables that stand for a value

Two keys are reserved below the top level of a settings file. A table with the **content key**
stands for the value under it, whatever else the table holds. The **identity key** is for values
in memory, where it says which layer a value came from; a file that has it is refused.

Both rules hold at every depth, in lists too, and also in what a content key leads to
(`Value.unwrapped`). On a value that uses neither key nothing changes.
-/

namespace Exposure.Settings

/-- The key of the value that a table stands for. -/
def contentKey : String := "___figment_value_value"

/-- The key that no table of a file may have. -/
def identityKey : String := "___figment_value_id"

/-- What a table with these entries stands for: the value under the content key, or itself. -/
def Entries.content? (entries : Entries) : Option Value :=
  if (entries.get? identityKey).isSome then none
  else some ((entries.get? contentKey).getD (.table entries))

mutual

/-- What a value stands for, unless a key in it is refused. -/
def Value.unwrapped : Value → Option Value
  | .table entries => (entriesUnwrapped entries).bind Entries.content?
  | .list items => (itemsUnwrapped items).map .list
  | value => some value

/-- What the values of entries stand for. -/
def entriesUnwrapped : List (String × Value) → Option Entries
  | [] => some []
  | (key, value) :: rest =>
    value.unwrapped.bind fun value ↦ (entriesUnwrapped rest).map ((key, value) :: ·)

/-- What the items of a list stand for. -/
def itemsUnwrapped : List Value → Option (List Value)
  | [] => some []
  | item :: rest => item.unwrapped.bind fun item ↦ (itemsUnwrapped rest).map (item :: ·)

end

end Exposure.Settings
