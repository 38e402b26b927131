/-!
# Command-line arguments

The commands and their arguments:

* `render [FILE] [-o NAME | --only NAME]` — the artifacts of a project, or one.
* `list [FILE]` — the definitions of a project.
* `help [COMMAND]`, `-h`, `--help`, `-V`, `--version`.

The value of `--only` may follow an equals sign or, for `-o`, stand right behind
the letter.  A value or a file that starts with a hyphen and is longer than that
needs an equals sign or `--` before it, and a file has a name.  Arguments are
read from the left, and the first that asks for help or does not fit decides.
-/

namespace QueryArtifacts
namespace CommandLine

/-- The commands that take a project file. -/
inductive Command where
  | render
  | list
  deriving DecidableEq, Repr

/-- What help can be asked about. -/
inductive Topic where
  | program
  | command (command : Command)
  | help
  deriving DecidableEq, Repr

/-- What the program is asked to do. -/
inductive Request where
  | render (file : Option String) (only : Option String)
  | list (file : Option String)
  | help (topic : Topic)
  | version
  deriving DecidableEq, Repr

/-- The arguments of a command read so far. -/
structure Arguments where
  file : Option String := none
  only : Option String := none
  deriving DecidableEq, Repr

/-- The request of a command with its arguments. -/
def Command.request (command : Command) (arguments : Arguments) : Request :=
  match command with
  | .render => .render arguments.file arguments.only
  | .list => .list arguments.file

/-- Add the file, if there is none yet and it has a name. -/
def Arguments.addFile? (arguments : Arguments) (file : String) : Option Arguments :=
  if arguments.file.isSome ∨ file.isEmpty then none
  else some { arguments with file := some file }

/-- Add the name of the one definition, if there is none yet. -/
def Arguments.addOnly? (arguments : Arguments) (name : String) : Option Arguments :=
  if arguments.only.isSome then none else some { arguments with only := some name }

/-- Whether an argument has the form of an option. -/
def looksLikeOption (argument : String) : Bool :=
  match argument.toList with
  | '-' :: _ :: _ => true
  | _ => false

/-- Read arguments that can only be files. -/
def readFiles? (arguments : Arguments) : List String → Option Arguments
  | [] => some arguments
  | file :: rest => do readFiles? (← arguments.addFile? file) rest

/-- How one argument is to be taken. -/
inductive Reading where
  | endOfOptions
  | help
  /-- The definition to render is named in the next argument. -/
  | onlyNext
  | only (name : String)
  | file (path : String)
  | unknown
  deriving DecidableEq, Repr

/-- The reading of one argument of a command. -/
def Command.readArgument (command : Command) (argument : String) : Reading :=
  match command, argument.toList with
  | _, ['-', '-'] => .endOfOptions
  | _, '-' :: '-' :: option =>
      if option = "help".toList then .help
      else
        match command with
        | .list => .unknown
        | .render =>
            if option = "only".toList then .onlyNext
            else if "only=".toList.isPrefixOf option then
              .only (String.ofList (option.drop "only=".length))
            else .unknown
  | _, '-' :: 'h' :: _ => .help
  | .render, ['-', 'o'] => .onlyNext
  | .render, '-' :: 'o' :: '=' :: name => .only (String.ofList name)
  | .render, '-' :: 'o' :: name => .only (String.ofList name)
  | _, '-' :: _ :: _ => .unknown
  | _, _ => .file argument

/-- Read the arguments of a command; `none` if they do not fit. -/
def Command.read? (command : Command) (arguments : Arguments) : List String → Option Request
  | [] => some (command.request arguments)
  | argument :: rest =>
      match command.readArgument argument with
      | .endOfOptions => (readFiles? arguments rest).map command.request
      | .help => some (.help (.command command))
      | .onlyNext =>
          match rest with
          | [] => none
          | name :: rest =>
              if looksLikeOption name then none
              else do command.read? (← arguments.addOnly? name) rest
      | .only name => do command.read? (← arguments.addOnly? name) rest
      | .file path => do command.read? (← arguments.addFile? path) rest
      | .unknown => none

/-- The command of a given name. -/
def Command.ofName? (name : String) : Option Command :=
  if name = "render" then some .render
  else if name = "list" then some .list
  else none

/-- Read what follows the `help` command: at most the name of a command. -/
def readHelp? : List String → Option Request
  | [] => some (.help .program)
  | [name] =>
      if name = "help" then some (.help .help)
      else (Command.ofName? name).map fun command => .help (.command command)
  | _ => none

/-- What the arguments ask for; `none` if they do not fit. -/
def Request.read? : List String → Option Request
  | [] => none
  | first :: rest =>
      match first.toList with
      | '-' :: 'h' :: _ => some (.help .program)
      | '-' :: 'V' :: _ => some .version
      | _ =>
          if first = "--help" then some (.help .program)
          else if first = "--version" then some .version
          else if first = "help" then readHelp? rest
          else do (← Command.ofName? first).read? {} rest

example :
    Request.read? ["render", "-oa", "p.toml"] = some (.render (some "p.toml") (some "a")) := by
  decide
example : Request.read? ["render", "--only", "-x"] = none := by decide

end CommandLine
end QueryArtifacts
