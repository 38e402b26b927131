import QueryArtifacts.Decimal.Binary64

/-!
# JSON values

A `Json` value keeps integers apart from other numbers, and an object keeps the
order of its members: the members of a definition stand in the order of its
fields.

* `Json.sortMembers` — the order of members inside a free value, such as a
  default.
* `Json.isInt64`, `Json.isUInt64` — the integers of 64 bits.
* `Json.ofDatetime` — how a date or a time stands in a value.
-/

namespace QueryArtifacts

/-- A JSON value. -/
inductive Json where
  | null
  | bool (value : Bool)
  | int (value : Int)
  | float (value : Binary64)
  | str (value : String)
  | arr (items : List Json)
  | obj (members : List (String × Json))
  deriving BEq, Repr, Inhabited

namespace Json

/-- Put a member into a list sorted by name, replacing a member of that name. -/
def insertMember (name : String) (value : Json) :
    List (String × Json) → List (String × Json)
  | [] => [(name, value)]
  | (other, old) :: rest =>
      if name = other then
        (name, value) :: rest
      else if name < other then
        (name, value) :: (other, old) :: rest
      else
        (other, old) :: insertMember name value rest

/-- Sort members by name; the last member of a name is kept. -/
def sortMembers (members : List (String × Json)) : List (String × Json) :=
  members.foldl (fun sorted member => insertMember member.1 member.2 sorted) []

/-- Whether an integer fits 64 bits with sign. -/
def isInt64 (n : Int) : Bool :=
  -9223372036854775808 ≤ n && n < 9223372036854775808

/-- Whether an integer fits 64 bits without sign. -/
def isUInt64 (n : Int) : Bool :=
  0 ≤ n && n < 18446744073709551616

/-- The name of the one member of an object that stands for a date or a time. -/
def datetimeMember : String :=
  "$__toml_private_datetime"

/-- The object that stands for a date or a time of the given text. -/
def ofDatetime (text : String) : Json :=
  .obj [(datetimeMember, .str text)]

example : sortMembers [("b", .null), ("a", .null), ("b", .bool true)] =
    [("a", .null), ("b", .bool true)] := rfl

end Json
end QueryArtifacts
