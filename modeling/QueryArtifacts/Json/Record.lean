import QueryArtifacts.Record.Basic

/-!
# Records in JSON

A JSON value as a record: an object, or an array without items past the last
field.  An absent value is `null`, and a variant that carries nothing is its name
or an object that maps its name to `null`.

`Json.ofNameMap` writes the object of a map.
-/

namespace QueryArtifacts
namespace Json

/-- The fields of a record whose field names are `names`, in order. -/
def fields? (names : List String) : Json → Option (List (String × Json))
  | .obj members => some members
  | .arr items => if items.length ≤ names.length then some (names.zip items) else none
  | _ => none

/-- The members of an object. -/
def members? : Json → Option (List (String × Json))
  | .obj members => some members
  | _ => none

/-- The items of an array. -/
def items? : Json → Option (List Json)
  | .arr items => some items
  | _ => none

/-- A string. -/
def string? : Json → Option String
  | .str s => some s
  | _ => none

/-- A truth value. -/
def bool? : Json → Option Bool
  | .bool b => some b
  | _ => none

/-- An integer. -/
def int? : Json → Option Int
  | .int n => some n
  | _ => none

/-- Whether a value is `null`. -/
def isNull : Json → Bool
  | .null => true
  | _ => false

/-- The name of a variant that carries nothing. -/
def variant? : Json → Option String
  | .str name => some name
  | .obj [(name, .null)] => some name
  | _ => none

instance : RecordValue Json where
  fields? := fields?
  members? := members?
  items? := items?
  string? := string?
  bool? := bool?
  int? := int?
  isAbsent := isNull
  variant? := variant?
  free? := some

/-- The object of a map, its members in the order of the map. -/
def ofNameMap {α : Type} (toJson : α → Json) (map : NameMap α) : Json :=
  .obj (map.toList.map fun (name, value) => (name, toJson value))

end Json
end QueryArtifacts
