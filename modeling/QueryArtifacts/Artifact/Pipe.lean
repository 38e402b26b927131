import QueryArtifacts.Artifact.Writer
import QueryArtifacts.Parameter.Placeholder
import QueryArtifacts.Query.Text
import QueryArtifacts.Template.Conditional

/-!
# Pipes

A pipe publishes a query with parameters.  Its query is written by an *author*,
who is handed a fresh query and the placeholders of the parameters, and answers
with the query to publish.

* `Pipe.body` — the text of the query with conditional tokens wrapped.
* `Pipe.text` — the definition text of a pipe.
* `Pipe.declaredText` — the definition text of a pipe that declares its own SQL.
-/

namespace QueryArtifacts

/-- The definition of a pipe. -/
structure Pipe where
  version : Option Nat := none
  description : Option String := none
  parameters : Parameters := .empty
  sql : Option String := none
  deriving Inhabited

/-- How a query is written: from the tokens of the parameters and a fresh query
of a store to the query to publish and the store it is in. -/
abbrev QueryAuthor := Placeholders → QueryId → Store → QueryId × Store

namespace Pipe

open RecordValue

/-- The name of the only node of a pipe. -/
def nodeName : String :=
  "endpoint"

/-- The query that an author writes, with its store. -/
def authored (parameters : Parameters) (author : QueryAuthor) : QueryId × Store :=
  let (fresh, store) := Store.empty.create
  author parameters.placeholders fresh store

/-- The template body that an author's query gives. -/
def body (parameters : Parameters) (author : QueryAuthor) : Except TemplateError String :=
  let (query, store) := authored parameters author
  match store.text query with
  | .error error => .error (.query error)
  | .ok sql => Template.wrap parameters sql

/-- The definition text of a pipe with a given body. -/
def textOfBody (version : Option Nat) (description : Option String) (body : String) : String :=
  let heads := (Writer.version {} version).description description
  let node := ((heads.line ("NODE " ++ nodeName)).line "SQL >").indent
  ((node.line "%").block body).dedent.text

/-- The definition text of a pipe whose query an author writes. -/
def text (pipe : Pipe) (author : QueryAuthor) : Except TemplateError String :=
  (body pipe.parameters author).map (textOfBody pipe.version pipe.description)

/-- The author that takes the declared SQL as it is. -/
def declaredAuthor (sql : Option String) : QueryAuthor := fun _ fresh store =>
  match sql with
  | some text => (fresh, store.call fresh (.raw text))
  | none => (fresh, store)

/-- The definition text of a pipe with the SQL that it declares. -/
def declaredText (pipe : Pipe) : Except TemplateError String :=
  pipe.text (declaredAuthor pipe.sql)

/-- The record of a pipe, without the fields that are not set. -/
def toJson (pipe : Pipe) : Json :=
  .obj <|
    pipe.version.toList.map (fun n => ("version", .int n)) ++
    pipe.description.toList.map (fun text => ("description", .str text)) ++
    [("params", pipe.parameters.toJson)] ++
    pipe.sql.toList.map (fun text => ("sql", .str text))

/-- Read the record of a pipe. -/
def ofRecord? {α : Type} [RecordValue α] (record : α) : Option Pipe := do
  let fields ← fields? ["version", "description", "params", "sql"] record
  let version ← optional? fields "version" none (orAbsent? uint32?)
  let description ← optional? fields "description" none (orAbsent? string?)
  let parameters ← optional? fields "params" .empty Parameters.ofRecord?
  let sql ← optional? fields "sql" none (orAbsent? string?)
  return { version, description, parameters, sql }

end Pipe
end QueryArtifacts
