import QueryArtifacts.Schema.Column

/-!
# Schemas

A schema names the columns of a table, in the order of their definition.
-/

namespace QueryArtifacts

/-- The columns of a table by name. -/
abbrev Schema := NameMap Column

namespace Schema

/-- The object that maps the names to the records of their columns. -/
def toJson (schema : Schema) : Json :=
  Json.ofNameMap Column.toJson schema

/-- Read a table of columns. -/
def ofRecord? {α : Type} [RecordValue α] : α → Option Schema :=
  RecordValue.nameMap? Column.ofRecord?

end Schema
end QueryArtifacts
