import QueryArtifacts.Artifact.Datasource
import QueryArtifacts.Artifact.Pipe

/-!
# Artifacts

An artifact is the definition text of one datasource or pipe under its name.
-/

namespace QueryArtifacts

/-- The kinds of artifacts. -/
inductive ArtifactKind where
  | datasource
  | pipe
  deriving DecidableEq, Repr

/-- The name of a kind, which is also the extension of its files. -/
def ArtifactKind.extension : ArtifactKind → String
  | .datasource => "datasource"
  | .pipe => "pipe"

/-- A generated definition. -/
structure Artifact where
  name : String
  kind : ArtifactKind
  contents : String
  deriving DecidableEq, Repr

/-- The name of the file that an artifact belongs in. -/
def Artifact.fileName (artifact : Artifact) : String :=
  artifact.name ++ "." ++ artifact.kind.extension

/-- Why an artifact is not generated. -/
inductive GenerateError where
  | pipe (name : String) (cause : TemplateError)
  | notFound (name : String)
  deriving DecidableEq, Repr

/-- The wording of an error. -/
def GenerateError.message : GenerateError → String
  | .pipe name cause => "Pipe `" ++ name ++ "`: " ++ cause.message
  | .notFound name => "Definition not found: " ++ name

/-- The artifact of a datasource. -/
def Datasource.artifact (datasource : Datasource) (name : String) : Artifact where
  name := name
  kind := .datasource
  contents := datasource.text

/-- The artifact of the pipe called `name` with the given definition text. -/
def Pipe.artifactOf (name : String) :
    Except TemplateError String → Except GenerateError Artifact
  | .ok contents => .ok { name, kind := .pipe, contents }
  | .error cause => .error (.pipe name cause)

/-- The artifact of a pipe whose query an author writes. -/
def Pipe.artifact (pipe : Pipe) (name : String) (author : QueryAuthor) :
    Except GenerateError Artifact :=
  artifactOf name (pipe.text author)

/-- The artifact of a pipe with the SQL that it declares. -/
def Pipe.declaredArtifact (pipe : Pipe) (name : String) : Except GenerateError Artifact :=
  artifactOf name pipe.declaredText

end QueryArtifacts
