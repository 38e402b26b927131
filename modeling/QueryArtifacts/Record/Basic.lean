import QueryArtifacts.Json.Basic
import QueryArtifacts.NameMap

/-!
# Reading records

A definition is written as a record of JSON or of TOML: either a table that names
its fields, or an array that lists them in their order.  Unknown names are
ignored, and fields at the end of an array may be missing.

* `RecordValue` — what each of the two kinds of value answers about itself.
* `required?`, `optional?` — one field, which must or need not be present.
* `orAbsent?`, `strings?`, `uint32?`, `nameMap?` — what the value of a field can
  be.

Definitions are read through this class alone, so that one reader serves both
kinds of value.
-/

namespace QueryArtifacts

/-- A kind of value in which records are written. -/
class RecordValue (α : Type) where
  /-- The fields of a record whose field names are `names`, in order. -/
  fields? (names : List String) : α → Option (List (String × α))
  /-- The members of a table whose names are free. -/
  members? : α → Option (List (String × α))
  /-- The items of an array. -/
  items? : α → Option (List α)
  /-- A string. -/
  string? : α → Option String
  /-- A truth value. -/
  bool? : α → Option Bool
  /-- An integer. -/
  int? : α → Option Int
  /-- Whether the value says that there is none. -/
  isAbsent : α → Bool
  /-- The name of a variant that carries nothing. -/
  variant? : α → Option String
  /-- A value of any form. -/
  free? : α → Option Json

namespace RecordValue

variable {α β : Type}

/-- A field that must be present. -/
def required? (fields : List (String × α)) (name : String) (read? : α → Option β) :
    Option β :=
  (fields.lookup name).bind read?

/-- A field that has a default. -/
def optional? (fields : List (String × α)) (name : String) (default : β)
    (read? : α → Option β) : Option β :=
  match fields.lookup name with
  | none => some default
  | some value => read? value

variable [RecordValue α]

/-- A value that may be absent. -/
def orAbsent? (read? : α → Option β) (value : α) : Option (Option β) :=
  if isAbsent value then some none else (read? value).map some

/-- An array of strings. -/
def strings? (value : α) : Option (List String) := do
  (← items? value).mapM string?

/-- A natural number of 32 bits. -/
def uint32? (value : α) : Option Nat := do
  let n ← int? value
  if 0 ≤ n ∧ n < 4294967296 then some n.toNat else none

/-- A table whose members are all read in the same way. -/
def nameMap? (read? : α → Option β) (value : α) : Option (NameMap β) := do
  let entries ← (← members? value).mapM fun (name, member) => do
    return (name, ← read? member)
  return NameMap.ofList entries

end RecordValue
end QueryArtifacts
