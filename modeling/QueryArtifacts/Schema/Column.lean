import QueryArtifacts.Decimal.Digits
import QueryArtifacts.Json.Record

/-!
# Columns

A column of a table: its type, where its value is found in an incoming JSON
document, whether it may be missing, and a comment.

* `Column.renderedType` — the type as it is declared.
* `Column.resolvedPath` — the JSON path, by default the member of that name.
* `Column.toJson`, `Column.ofRecord?` — the record form of a column.
-/

namespace QueryArtifacts

/-- A column of a table. -/
structure Column where
  type : String
  jsonPath : Option String := none
  nullable : Bool := false
  comment : Option String := none
  deriving DecidableEq, Repr, Inhabited

namespace Column

open RecordValue

/-- A column of strings. -/
def string : Column where
  type := "String"

/-- A column of integers of 32 bits. -/
def int32 : Column where
  type := "Int32"

/-- A column of integers of 64 bits. -/
def int64 : Column where
  type := "Int64"

/-- A column of natural numbers of 64 bits. -/
def uint64 : Column where
  type := "UInt64"

/-- A column of double-precision numbers. -/
def float64 : Column where
  type := "Float64"

/-- A column of truth values. -/
def boolean : Column where
  type := "Bool"

/-- A column of days. -/
def date : Column where
  type := "Date"

/-- A column of points in time to the second. -/
def dateTime : Column where
  type := "DateTime"

/-- A column of strings with few distinct values. -/
def lowCardinalityString : Column where
  type := "LowCardinality(String)"

/-- A column of points in time with the given number of decimals of a second. -/
def dateTime64 (precision : Nat) : Column where
  type := "DateTime64(" ++ Decimal.natText precision ++ ")"

/-- A column of arrays whose items have the given type. -/
def array (item : String) : Column where
  type := "Array(" ++ item ++ ")"

/-- The opening of a type that says itself that values may be missing. -/
def nullableOpening : String :=
  "Nullable("

/-- The type as it is declared: a nullable column is wrapped once. -/
def renderedType (column : Column) : String :=
  if column.nullable ∧ ¬ nullableOpening.toList.isPrefixOf column.type.toList then
    nullableOpening ++ column.type ++ ")"
  else
    column.type

/-- The JSON path of the column called `name`. -/
def resolvedPath (column : Column) (name : String) : String :=
  column.jsonPath.getD ("$." ++ name)

/-- The record of a column, without the fields that are not set. -/
def toJson (column : Column) : Json :=
  .obj <|
    [("type", .str column.type)] ++
    column.jsonPath.toList.map (fun path => ("json_path", .str path)) ++
    [("nullable", .bool column.nullable)] ++
    column.comment.toList.map (fun comment => ("comment", .str comment))

/-- Read the record of a column. -/
def ofRecord? {α : Type} [RecordValue α] (record : α) : Option Column := do
  let fields ← fields? ["type", "json_path", "nullable", "comment"] record
  let type ← required? fields "type" string?
  let jsonPath ← optional? fields "json_path" none (orAbsent? string?)
  let nullable ← optional? fields "nullable" false bool?
  let comment ← optional? fields "comment" none (orAbsent? string?)
  return { type, jsonPath, nullable, comment }

example : renderedType { type := "Nullable(Int64)", nullable := true } = "Nullable(Int64)" := by
  decide
example : renderedType { type := "Date", nullable := true } = "Nullable(Date)" := by decide

end Column
end QueryArtifacts
