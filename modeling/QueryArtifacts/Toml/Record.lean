import QueryArtifacts.Record.Basic
import QueryArtifacts.Toml.Value

/-!
# Records in TOML

A TOML value as a record: a table, or an array, whose items past the last field
are never looked at.  A member of a table that is no field is read past, so its
numbers must be in range.  A date or a time is a table of its text, which no record
knows.  No value is absent, and a variant that carries nothing is its name or a
table that maps its name to an empty array or table.
-/

namespace QueryArtifacts
namespace Toml
namespace Value

/-- The fields of a record whose field names are `names`, in order. -/
def fields? (names : List String) : Value → Option (List (String × Value))
  | .table members =>
      let isField := fun member : String × Value => names.contains member.1
      if membersInRange (members.filter fun member => !isField member) then
        some (members.filter isField)
      else
        none
  | .array items => some (names.zip items)
  | .datetime _ => some []
  | _ => none

/-- The members of a table. -/
def members? : Value → Option (List (String × Value))
  | .table members => some members
  | _ => none

/-- The items of an array. -/
def items? : Value → Option (List Value)
  | .array items => some items
  | _ => none

/-- A string. -/
def string? : Value → Option String
  | .string text => some text
  | _ => none

/-- A truth value. -/
def bool? : Value → Option Bool
  | .boolean b => some b
  | _ => none

/-- An integer. -/
def int? : Value → Option Int
  | .number (.integer n) => some n
  | _ => none

/-- The name of a variant that carries nothing. -/
def variant? : Value → Option String
  | .string name => some name
  | .table [(name, .array [])] => some name
  | .table [(name, .table [])] => some name
  | _ => none

instance : RecordValue Value where
  fields? := fields?
  members? := members?
  items? := items?
  string? := string?
  bool? := bool?
  int? := int?
  isAbsent := fun _ => false
  variant? := variant?
  free? := toJson?

end Value
end Toml
end QueryArtifacts
