import QueryArtifacts.Artifact.Basic

/-!
# Projects

A project declares datasources and pipes.

* `Project.defects` — the datasources without a column and the pipes without SQL.
* `Project.artifacts` — the artifacts of all definitions, datasources first.
* `Project.artifact` — the artifact of one definition by its name.
-/

namespace QueryArtifacts

/-- The definitions of a project. -/
structure Project where
  datasources : NameMap Datasource := .empty
  pipes : NameMap Pipe := .empty
  deriving Inhabited

/-- What a definition can lack. -/
inductive Defect where
  | noColumns
  | noSql
  deriving DecidableEq, Repr

/-- The wording of a defect. -/
def Defect.message : Defect → String
  | .noColumns => "datasource has no columns"
  | .noSql => "pipe has no sql body"

/-- The defect of a datasource, if it has one. -/
def Datasource.defect? (datasource : Datasource) : Option Defect :=
  if datasource.columns.isEmpty then some .noColumns else none

/-- The defect of a pipe, if it has one. -/
def Pipe.defect? (pipe : Pipe) : Option Defect :=
  match pipe.sql with
  | none => some .noSql
  | some sql => if Text.allBlank sql.toList then some .noSql else none

namespace Project

open RecordValue

/-- Whether a project declares nothing. -/
def isEmpty (project : Project) : Bool :=
  project.datasources.isEmpty && project.pipes.isEmpty

/-- The defects of all definitions with their names, datasources first. -/
def defects (project : Project) : List (String × Defect) :=
  project.datasources.toList.filterMap (fun (name, datasource) =>
    datasource.defect?.map fun defect => (name, defect)) ++
  project.pipes.toList.filterMap (fun (name, pipe) =>
    pipe.defect?.map fun defect => (name, defect))

/-- The artifacts of all definitions, or the error of the first pipe that has
no text. -/
def artifacts (project : Project) : Except GenerateError (List Artifact) := do
  let datasources := project.datasources.toList.map fun (name, datasource) =>
    datasource.artifact name
  let pipes ← project.pipes.toList.mapM fun (name, pipe) => pipe.declaredArtifact name
  return datasources ++ pipes

/-- The artifact of the definition called `name`; a datasource comes before a
pipe of the same name. -/
def artifact (project : Project) (name : String) : Except GenerateError Artifact :=
  match project.datasources.get? name with
  | some datasource => .ok (datasource.artifact name)
  | none =>
      match project.pipes.get? name with
      | some pipe => pipe.declaredArtifact name
      | none => .error (.notFound name)

/-- The record of a project. -/
def toJson (project : Project) : Json :=
  .obj [
    ("datasources", Json.ofNameMap Datasource.toJson project.datasources),
    ("pipes", Json.ofNameMap Pipe.toJson project.pipes)]

/-- Read the record of a project. -/
def ofRecord? {α : Type} [RecordValue α] (record : α) : Option Project := do
  let fields ← fields? ["datasources", "pipes"] record
  let datasources ← optional? fields "datasources" .empty (nameMap? Datasource.ofRecord?)
  let pipes ← optional? fields "pipes" .empty (nameMap? Pipe.ofRecord?)
  return { datasources, pipes }

end Project
end QueryArtifacts
