import QueryArtifacts.Decimal.Digits
import QueryArtifacts.Text.Blank
import QueryArtifacts.Text.Lines
import QueryArtifacts.Text.Quoted

/-!
# Writing lines

A `Writer` collects the lines of a definition text and knows how deep the next
line is indented.

* `Writer.line` — one line, indented; a blank line carries no blanks.
* `Writer.block`, `Writer.comment` — every line of a text.
* `Writer.directive` — a key and a quoted value.
* `Writer.version`, `Writer.description` — the heads of a definition, when set.
-/

namespace QueryArtifacts

/-- The text so far and the present depth. -/
structure Writer where
  text : String := ""
  depth : Nat := 0
  deriving DecidableEq, Repr, Inhabited

namespace Writer

/-- One step of indentation. -/
def indentation : String :=
  "    "

/-- What stands before a line at a depth. -/
def margin (depth : Nat) : String :=
  String.join (List.replicate depth indentation)

/-- Indent the following lines one step more. -/
def indent (writer : Writer) : Writer :=
  { writer with depth := writer.depth + 1 }

/-- Indent the following lines one step less, if they are indented. -/
def dedent (writer : Writer) : Writer :=
  { writer with depth := writer.depth - 1 }

/-- Add a text to what has been written. -/
def append (writer : Writer) (s : String) : Writer :=
  { writer with text := writer.text ++ s }

/-- How a line stands at a depth; a line of blanks becomes empty. -/
def lineText (depth : Nat) (s : String) : String :=
  if Text.allBlank s.toList then "\n" else margin depth ++ s ++ "\n"

/-- Write one line. -/
def line (writer : Writer) (s : String) : Writer :=
  writer.append (lineText writer.depth s)

/-- Write an empty line. -/
def blank (writer : Writer) : Writer :=
  writer.append "\n"

/-- Write several lines. -/
def lines (writer : Writer) (texts : List String) : Writer :=
  texts.foldl line writer

/-- Write the lines of a text. -/
def block (writer : Writer) (s : String) : Writer :=
  writer.lines (Text.linesOf s)

/-- A line of a comment. -/
def commentLine (s : String) : String :=
  if s.isEmpty then "#" else "# " ++ s

/-- Write the lines of a text as a comment. -/
def comment (writer : Writer) (s : String) : Writer :=
  writer.lines ((Text.linesOf s).map commentLine)

/-- A value between double quotes. -/
def quoted (value : String) : String :=
  Text.quoteEscaped '"' value

/-- Write a key and its quoted value. -/
def directive (writer : Writer) (key value : String) : Writer :=
  writer.line (key ++ " " ++ quoted value)

/-- Write a directive that may be absent. -/
def directive? (writer : Writer) (key : String) (value : Option String) : Writer :=
  match value with
  | some value => writer.directive key value
  | none => writer

/-- Write the version of a definition, if it has one. -/
def version (writer : Writer) (version : Option Nat) : Writer :=
  match version with
  | some n => (writer.line ("VERSION " ++ Decimal.natText n)).blank
  | none => writer

/-- Write the description of a definition, if it has one. -/
def description (writer : Writer) (description : Option String) : Writer :=
  match description with
  | some text => (((writer.line "DESCRIPTION >").indent.block text).dedent).blank
  | none => writer

@[simp] theorem depth_append (writer : Writer) (s : String) :
    (writer.append s).depth = writer.depth := rfl

@[simp] theorem depth_line (writer : Writer) (s : String) :
    (writer.line s).depth = writer.depth := rfl

@[simp] theorem depth_lines (writer : Writer) (texts : List String) :
    (writer.lines texts).depth = writer.depth := by
  induction texts generalizing writer with
  | nil => rfl
  | cons s rest ih => exact ih (writer.line s)

end Writer
end QueryArtifacts
