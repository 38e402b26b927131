import QueryArtifacts.CommandLine.Run

/-!
# The program

Reads the file and the environment variables that the arguments and the file
call for, and prints the outcome of `CommandLine.run`.
-/

namespace QueryArtifacts
namespace CommandLine

/-- What stands at a path.  A path that goes on behind a file leads nowhere; the
system reports it under its name. -/
def entryAt (path : String) : IO FileEntry := do
  try
    return .file (← IO.FS.readBinFile path)
  catch
    | .noFileOrDirectory .. => return .missing
    | .inappropriateType (some _) .. => return .missing
    | .inappropriateType none _ reason => return .unreadable reason
    | error => return .unreadable (toString error)

/-- The variables with the given names, as far as they are set. -/
def variablesNamed (names : List String) : IO Environment := do
  let found ← names.filterMapM fun name => do
    return (← IO.getEnv name).map fun value => (name, value)
  return fun name => found.lookup name

/-- The names of variables that the file at a path refers to. -/
def namesIn : FileEntry → List String
  | .file bytes =>
      match String.fromUTF8? bytes with
      | some text => referencedNames text.toList
      | none => []
  | _ => []

/-- Print the outcome and answer with the exit code. -/
def report (outcome : Outcome) : IO UInt32 := do
  IO.print outcome.output
  IO.eprint outcome.errors
  return outcome.code.toUInt32

end CommandLine
end QueryArtifacts

open QueryArtifacts CommandLine in
/-- Run the program. -/
def main (arguments : List String) : IO UInt32 := do
  let environment ← variablesNamed [Project.fileVariable]
  let asked := (Request.read? arguments).bind (Request.filePath? environment)
  let entry ← (asked.map entryAt).getD (pure .missing)
  let environment ← variablesNamed (Project.fileVariable :: namesIn entry)
  let files := fun path => if some path = asked then entry else .missing
  report (run files environment arguments)
