import QueryArtifacts.CommandLine.Arguments
import QueryArtifacts.Project.Load

/-!
# Running a command

What the program prints and how it ends, as a function of its arguments, the file
system and the environment.

* `CommandLine.renderedText` — artifacts as a stream: each under a header line,
  with an empty line between two of them.
* `CommandLine.listing` — a line for every definition.
* `CommandLine.perform` — the outcome of a request, with any reader of project files.
* `CommandLine.run` — the outcome of the program.

A failure prints nothing on the output.
-/

namespace QueryArtifacts
namespace CommandLine

/-- The exit code and the texts on the output and on the error output. -/
structure Outcome where
  code : Nat
  output : String := ""
  errors : String := ""
  deriving DecidableEq, Repr

/-- A success with the given output. -/
def Outcome.success (output : String) : Outcome where
  code := 0
  output := output

/-- A failure with one line of explanation. -/
def Outcome.failure (explanation : String) : Outcome where
  code := 1
  errors := explanation ++ "\n"

/-- The name and the version of the program. -/
def versionLine : String :=
  "pipeql 0.1.0\n"

/-- How the program is called. -/
def usage : String :=
  "Usage: pipeql <COMMAND>\n"

/-- What the program tells about itself and its commands. -/
def helpText : Topic → String
  | .program =>
      "pipeql - render datasource and pipe definitions\n\n" ++ usage ++
      "\nCommands:\n" ++
      "  render  Render artifacts to stdout\n" ++
      "  list    List datasources and pipes in a project\n" ++
      "  help    Print this message or the help of the given subcommand(s)\n" ++
      "\nOptions:\n" ++
      "  -h, --help     Print help\n" ++
      "  -V, --version  Print version\n"
  | .command .render =>
      "Render artifacts to stdout\n\n" ++
      "Usage: pipeql render [OPTIONS] [FILE]\n" ++
      "\nArguments:\n" ++
      "  [FILE]  Path to the project file\n" ++
      "\nOptions:\n" ++
      "  -o, --only <ONLY>  Render only the named datasource or pipe\n" ++
      "  -h, --help         Print help\n"
  | .command .list =>
      "List datasources and pipes in a project\n\n" ++
      "Usage: pipeql list [FILE]\n" ++
      "\nArguments:\n" ++
      "  [FILE]  Path to the project file\n" ++
      "\nOptions:\n" ++
      "  -h, --help  Print help\n"
  | .help =>
      "Print this message or the help of the given subcommand(s)\n\n" ++
      "Usage: pipeql help [COMMAND]...\n" ++
      "\nArguments:\n" ++
      "  [COMMAND]...  Print help for the subcommand(s)\n"

/-- The outcome of arguments that do not fit. -/
def Outcome.badUsage : Outcome where
  code := 2
  errors := usage

/-- An artifact under its header line. -/
def artifactText (artifact : Artifact) : String :=
  "-- " ++ artifact.fileName ++ "\n" ++ artifact.contents

/-- Artifacts in a row, an empty line between two of them. -/
def renderedText (artifacts : List Artifact) : String :=
  "\n".intercalate (artifacts.map artifactText)

/-- The line of a definition: its kind in a column of its own, its name, and its
version if it has one. -/
def listingLine (kind name : String) (version : Option Nat) : String :=
  let padding := String.ofList (List.replicate (12 - kind.length) ' ')
  let suffix :=
    match version with
    | some n => " (v" ++ Decimal.natText n ++ ")"
    | none => ""
  kind ++ padding ++ name ++ suffix ++ "\n"

/-- A line for every definition of a project, datasources first. -/
def listing (project : Project) : String :=
  if project.isEmpty then
    "No definitions found.\n"
  else
    String.join <|
      project.datasources.toList.map (fun (name, datasource) =>
        listingLine ArtifactKind.datasource.extension name datasource.version) ++
      project.pipes.toList.map (fun (name, pipe) =>
        listingLine ArtifactKind.pipe.extension name pipe.version)

/-- Load the project and go on with it. -/
def withProject (reader : Project.Reader) (files : String → FileEntry)
    (environment : Environment) (file : Option String) (next : Project → Outcome) : Outcome :=
  match Project.loadWith reader files environment file with
  | .error error => .failure ("Error loading project: " ++ error.message)
  | .ok project => next project

/-- The artifacts that a rendering asks for. -/
def requestedArtifacts (project : Project) : Option String → Except GenerateError (List Artifact)
  | some name => (project.artifact name).map ([·])
  | none => project.artifacts

/-- The outcome of a rendering of a project. -/
def render (only : Option String) (project : Project) : Outcome :=
  match requestedArtifacts project only with
  | .error error => .failure ("Generation error: " ++ error.message)
  | .ok artifacts => .success (renderedText artifacts)

/-- The outcome of a request. -/
def perform (reader : Project.Reader) (files : String → FileEntry) (environment : Environment) :
    Request → Outcome
  | .render file only => withProject reader files environment file (render only)
  | .list file =>
      withProject reader files environment file fun project => .success (listing project)
  | .help topic => .success (helpText topic)
  | .version => .success versionLine

/-- The project file that a request asks for, if it asks for one. -/
def Request.filePath? (environment : Environment) : Request → Option String
  | .render file _ | .list file => some (Project.filePath environment file)
  | .help _ | .version => none

/-- The outcome of the program, which reads project files as TOML texts. -/
def run (files : String → FileEntry) (environment : Environment) (arguments : List String) :
    Outcome :=
  match Request.read? arguments with
  | none => .badUsage
  | some request => perform Project.read files environment request

end CommandLine
end QueryArtifacts
