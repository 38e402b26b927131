import QueryArtifacts.Artifact.Writer
import QueryArtifacts.Schema.Basic

/-!
# Datasources

A datasource is a table with an engine that stores it.

* `Datasource.text` — its definition text: the heads, the columns one a line,
  and the directives of the engine.
* `Engine.toJson`, `Datasource.toJson` and the readers — their record forms.
-/

namespace QueryArtifacts

/-- The engine of a table. -/
structure Engine where
  kind : String := "MergeTree"
  sortingKey : List String := []
  partitionBy : Option String := none
  ttl : Option String := none
  version : Option String := none
  deriving DecidableEq, Repr, Inhabited

namespace Engine

open RecordValue

/-- The engine that keeps every row. -/
def mergeTree : Engine := {}

/-- The engine that keeps the last of the rows with equal sorting keys. -/
def replacingMergeTree : Engine where
  kind := "ReplacingMergeTree"

/-- The engine that adds up the rows with equal sorting keys. -/
def summingMergeTree : Engine where
  kind := "SummingMergeTree"

/-- The engine that merges the aggregation states of the rows with equal sorting
keys. -/
def aggregatingMergeTree : Engine where
  kind := "AggregatingMergeTree"

/-- Write the directives of an engine. -/
def write (engine : Engine) (writer : Writer) : Writer :=
  let sortingKey :=
    if engine.sortingKey.isEmpty then none else some (",".intercalate engine.sortingKey)
  ((((writer.directive "ENGINE" engine.kind).directive? "ENGINE_SORTING_KEY" sortingKey
    ).directive? "ENGINE_PARTITION_KEY" engine.partitionBy
    ).directive? "ENGINE_TTL" engine.ttl
    ).directive? "ENGINE_VER" engine.version

/-- The record of an engine, without the fields that are not set. -/
def toJson (engine : Engine) : Json :=
  .obj <|
    [("kind", .str engine.kind)] ++
    (if engine.sortingKey.isEmpty then []
      else [("sorting_key", .arr (engine.sortingKey.map .str))]) ++
    engine.partitionBy.toList.map (fun text => ("partition_by", .str text)) ++
    engine.ttl.toList.map (fun text => ("ttl", .str text)) ++
    engine.version.toList.map (fun text => ("ver", .str text))

/-- Read the record of an engine. -/
def ofRecord? {α : Type} [RecordValue α] (record : α) : Option Engine := do
  let fields ← fields? ["kind", "sorting_key", "partition_by", "ttl", "ver"] record
  let kind ← optional? fields "kind" "MergeTree" string?
  let sortingKey ← optional? fields "sorting_key" [] strings?
  let partitionBy ← optional? fields "partition_by" none (orAbsent? string?)
  let ttl ← optional? fields "ttl" none (orAbsent? string?)
  let version ← optional? fields "ver" none (orAbsent? string?)
  return { kind, sortingKey, partitionBy, ttl, version }

end Engine

/-- The definition of a datasource. -/
structure Datasource where
  version : Option Nat := none
  description : Option String := none
  columns : Schema := .empty
  engine : Engine := {}
  deriving DecidableEq, Inhabited

namespace Datasource

open RecordValue

/-- The declaration of a column. -/
def columnText (name : String) (column : Column) : String :=
  "`" ++ name ++ "` " ++ column.renderedType ++ " `json:" ++ column.resolvedPath name ++ "`"

/-- Write the columns.  Every declaration but the last ends in a comma, and a
comment follows the declaration of its column. -/
def writeColumns (writer : Writer) : List (String × Column) → Writer
  | [] => writer
  | (name, column) :: rest =>
      let ending := if rest.isEmpty then "" else ","
      let declared := writer.line (columnText name column ++ ending)
      let commented :=
        match column.comment with
        | some comment => declared.comment comment
        | none => declared
      writeColumns commented rest

/-- The definition text of a datasource. -/
def text (datasource : Datasource) : String :=
  let heads := (Writer.version {} datasource.version).description datasource.description
  let schema :=
    (writeColumns (heads.line "SCHEMA >").indent datasource.columns.toList).dedent.blank
  (datasource.engine.write schema).text

/-- The record of a datasource, without the heads that are not set. -/
def toJson (datasource : Datasource) : Json :=
  .obj <|
    datasource.version.toList.map (fun n => ("version", .int n)) ++
    datasource.description.toList.map (fun text => ("description", .str text)) ++
    [("columns", datasource.columns.toJson), ("engine", datasource.engine.toJson)]

/-- Read the record of a datasource. -/
def ofRecord? {α : Type} [RecordValue α] (record : α) : Option Datasource := do
  let fields ← fields? ["version", "description", "columns", "engine"] record
  let version ← optional? fields "version" none (orAbsent? uint32?)
  let description ← optional? fields "description" none (orAbsent? string?)
  let columns ← optional? fields "columns" .empty Schema.ofRecord?
  let engine ← optional? fields "engine" {} Engine.ofRecord?
  return { version, description, columns, engine }

end Datasource
end QueryArtifacts
