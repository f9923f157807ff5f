/-!
# Values for exchange

Settings and reports can be handed on as plain values: numbers, texts, lists, and objects with
named fields. A record is an object in which fields that it does not have are ignored, or a list of
all its fields in order. One of several alternatives is its name alone, or an object with the name
as its only field.
-/

namespace Reflash.Interchange

/-- A plain value. -/
inductive Value where
  | null
  | bool (b : Bool)
  | int (n : Int)
  /-- A number that is not written as an integer. -/
  | fraction
  | text (s : String)
  | list (items : List Value)
  | object (fields : List (String × Value))
  deriving Inhabited

namespace Value

/-- The fields of a record with the given field names: for each name its value, if it is there. -/
def fields? (names : List String) : Value → Option (List (Option Value))
  | .object fields => some (names.map fun name => fields.lookup name)
  | .list items => if items.length = names.length then some (items.map some) else none
  | _ => none

/-- The name of an alternative, and what comes with it. -/
def alternative? : Value → Option (String × Option Value)
  | .text name => some (name, none)
  | .object [(name, content)] => some (name, some content)
  | _ => none

/-- Whether nothing comes with the name of an alternative. -/
def isBare : Option Value → Bool
  | none => true
  | some .null => true
  | some _ => false

end Value

end Reflash.Interchange
