import QueryArtifacts.Toml.Datetime
import QueryArtifacts.Toml.Number

/-!
# Values

The values that a TOML document denotes.

* `Value.inRange` — what a value must satisfy where it is read past.
* `Value.toJson?` — the free value that it stands for: the members of its tables
  are sorted by name, and a date or a time stands as `Json.ofDatetime` says.
-/

namespace QueryArtifacts
namespace Toml

/-- A TOML value. -/
inductive Value where
  | string (text : String)
  | number (number : Number)
  | boolean (value : Bool)
  | datetime (datetime : Datetime)
  | array (items : List Value)
  | table (members : List (String × Value))
  deriving Repr, Inhabited

namespace Value

mutual

/-- Whether all numbers of a value can be read past. -/
def inRange : Value → Bool
  | .number n => n.inRange
  | .array items => itemsInRange items
  | .table members => membersInRange members
  | _ => true

/-- Whether all numbers of some items can be read past. -/
def itemsInRange : List Value → Bool
  | [] => true
  | item :: rest => inRange item && itemsInRange rest

/-- Whether all numbers of some members can be read past. -/
def membersInRange : List (String × Value) → Bool
  | [] => true
  | (_, value) :: rest => inRange value && membersInRange rest

end

mutual

/-- The free value that a value stands for. -/
def toJson? : Value → Option Json
  | .string text => some (.str text)
  | .number n => n.toJson?
  | .boolean b => some (.bool b)
  | .datetime d => some (Json.ofDatetime d.text)
  | .array items => (itemsToJson? items).map Json.arr
  | .table members => (membersToJson? members).map fun free => .obj (Json.sortMembers free)

/-- The free values of some items. -/
def itemsToJson? : List Value → Option (List Json)
  | [] => some []
  | item :: rest => do
      let value ← toJson? item
      return value :: (← itemsToJson? rest)

/-- The free values of some members, in their order. -/
def membersToJson? : List (String × Value) → Option (List (String × Json))
  | [] => some []
  | (name, member) :: rest => do
      let value ← toJson? member
      return (name, value) :: (← membersToJson? rest)

end

example : toJson? (.table [("b", .boolean true), ("a", .array [])]) =
    some (.obj [("a", .arr []), ("b", .bool true)]) := rfl

end Value
end Toml
end QueryArtifacts
