import QueryArtifacts.Project.Basic
import QueryArtifacts.Project.Environment
import QueryArtifacts.Toml.Document
import QueryArtifacts.Toml.Record

/-!
# Loading projects

A project is written as a TOML text with references to environment variables.

* `Project.parseWith` — expand, read, and refuse a project with a defect, in this
  order.
* `Project.loadFrom` — the project in the file at a path.
* `Project.loadWith` — the project in the file that `PIPEQL_CONFIG` names, or else
  in `pipeql.toml`.
* `Project.parse`, `Project.load` — the same for TOML texts.

The file system is a function from paths to entries, and what reads an expanded
text is a parameter.
-/

namespace QueryArtifacts

/-- What stands at a path. -/
inductive FileEntry where
  | missing
  /-- Something whose bytes cannot be read, such as a directory. -/
  | unreadable (reason : String)
  | file (bytes : ByteArray)

/-- Why a file has no text. -/
inductive ReadFailure where
  | unreadable (reason : String)
  | notUtf8
  deriving DecidableEq, Repr

/-- The wording of a failure to read. -/
def ReadFailure.message : ReadFailure → String
  | .unreadable reason => reason
  | .notUtf8 => "stream did not contain valid UTF-8"

/-- Why a text declares no project. -/
inductive ParseFailure where
  | notToml
  | notProject
  deriving DecidableEq, Repr

/-- The wording of a failure to parse. -/
def ParseFailure.message : ParseFailure → String
  | .notToml => "invalid TOML document"
  | .notProject => "document does not describe datasources and pipes"

/-- Why a project is not loaded. -/
inductive LoadError where
  | fileNotFound (path : String)
  | unreadable (failure : ReadFailure)
  | malformed (failure : ParseFailure)
  | unexpanded (error : ExpandError)
  | defective (name : String) (defect : Defect)
  deriving DecidableEq, Repr

/-- The wording of an error. -/
def LoadError.message : LoadError → String
  | .fileNotFound path => "Config file not found: " ++ path
  | .unreadable failure => "Failed to read config file: " ++ failure.message
  | .malformed failure => "Failed to parse config file: " ++ failure.message
  | .unexpanded error => error.message
  | .defective name defect => "Invalid definition `" ++ name ++ "`: " ++ defect.message

namespace Project

/-- The variable that names the project file. -/
def fileVariable : String :=
  "PIPEQL_CONFIG"

/-- The project file when no other is named. -/
def defaultFile : String :=
  "pipeql.toml"

/-- What reads an expanded text as a project. -/
abbrev Reader := String → Except ParseFailure Project

/-- Refuse a project with a defect; the first one is named. -/
def check (project : Project) : Except LoadError Project :=
  match project.defects with
  | [] => .ok project
  | (name, defect) :: _ => .error (.defective name defect)

/-- The path of the project file. -/
def filePath (environment : Environment) (path : Option String) : String :=
  path.getD ((environment fileVariable).getD defaultFile)

section Loading

variable (reader : Reader)

/-- The project that a text declares. -/
def parseWith (environment : Environment) (text : String) : Except LoadError Project := do
  let expanded ← (expand environment text).mapError LoadError.unexpanded
  let project ← (reader expanded).mapError LoadError.malformed
  project.check

/-- The project in the file at a path. -/
def loadFrom (files : String → FileEntry) (environment : Environment) (path : String) :
    Except LoadError Project :=
  match files path with
  | .missing => .error (.fileNotFound path)
  | .unreadable reason => .error (.unreadable (.unreadable reason))
  | .file bytes =>
      match String.fromUTF8? bytes with
      | none => .error (.unreadable .notUtf8)
      | some text => parseWith reader environment text

/-- The project in the file at a path, or else in the file that the environment
names. -/
def loadWith (files : String → FileEntry) (environment : Environment)
    (path : Option String := none) : Except LoadError Project :=
  loadFrom reader files environment (filePath environment path)

end Loading

/-! ## TOML -/

/-- The project that an expanded TOML text declares. -/
def read (text : String) : Except ParseFailure Project :=
  match Toml.read? text with
  | none => .error .notToml
  | some record =>
      match ofRecord? record with
      | none => .error .notProject
      | some project => .ok project

/-- The project that a TOML text declares. -/
def parse (environment : Environment) (text : String) : Except LoadError Project :=
  parseWith read environment text

/-- The project in a TOML file. -/
def load (files : String → FileEntry) (environment : Environment)
    (path : Option String := none) : Except LoadError Project :=
  loadWith read files environment path

end Project
end QueryArtifacts
