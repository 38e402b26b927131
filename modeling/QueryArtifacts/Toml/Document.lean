import QueryArtifacts.Toml.Reader

/-!
# Documents

A TOML document is a list of lines: keys with values, and headers that open a
table or one more element of an array of tables.  `Toml.read?` answers with the
table of all its entries, in the order of the document; a table that was only
implied so far moves to the place of its own header.
-/

namespace QueryArtifacts
namespace Toml

/-- The header of a table, or of an element of an array of tables. -/
structure Header where
  path : List String
  name : String
  isElement : Bool
  deriving DecidableEq, Repr

/-- A document while it is read: the finished tables, and the table whose keys
are being read. -/
structure Document where
  root : Entries := []
  header : Option Header := none
  current : Entries := []
  deriving Inhabited

namespace Document

/-- The entries of a document, the present table put in its place. -/
def finish? (document : Document) : Option Entries :=
  match document.header with
  | none => some document.current
  | some header =>
      if header.isElement then
        closeElement? header.path header.name document.current document.root
      else
        closeTable? header.path header.name document.current document.root

/-- Go on with the table of a header. -/
def enter? (document : Document) (header : Header) : Option Document := do
  let root ← document.finish?
  if header.isElement then
    return { root, header := some header, current := [] }
  else
    let (current, root) ← openTable? header.path header.name root
    return { root, header := some header, current }

/-- Add a value to the present table. -/
def insert? (document : Document) (path : List String) (name : String) (value : Value) :
    Option Document := do
  let current ← insertValue? path name value document.current
  return { document with current }

end Document

/-- The text behind the end of a line, which may hold blanks and a comment. -/
def endLine? (inComment : Bool) : List Char → Option (List Char)
  | [] => some []
  | '\n' :: rest => some rest
  | '\r' :: '\n' :: rest => some rest
  | c :: rest =>
      if inComment then
        if isText c then endLine? true rest else none
      else if isSpace c then
        endLine? false rest
      else if c = '#' then
        endLine? true rest
      else
        none

/-- The header behind its opening brackets, and the text behind its line. -/
def readHeader? (isElement : Bool) (cs : List Char) : Option (Header × List Char) := do
  let ((path, name), rest) ← readKey? cs
  match isElement, rest with
  | false, ']' :: rest => return (⟨path, name, false⟩, ← endLine? false rest)
  | true, ']' :: ']' :: rest => return (⟨path, name, true⟩, ← endLine? false rest)
  | _, _ => none

/-- A key and its value, and the text behind their line. -/
def readEntry? (cs : List Char) : Option ((List String × String × Value) × List Char) := do
  let ((path, name), rest) ← readKey? cs
  match rest with
  | '=' :: rest =>
      let cs := rest.dropWhile isSpace
      let (value, rest) ← readValue? (2 * cs.length + 2) maxDepth cs
      return ((path, name, value), ← endLine? false rest)
  | _ => none

/-- The lines of a document.  The fuel bounds their number. -/
def readLines? : Nat → Document → List Char → Option Document
  | 0, _, _ => none
  | fuel + 1, document, cs => do
      match ← skipTrivia? false cs with
      | [] => return document
      | '[' :: '[' :: cs =>
          let (header, rest) ← readHeader? true cs
          readLines? fuel (← document.enter? header) rest
      | '[' :: cs =>
          let (header, rest) ← readHeader? false cs
          readLines? fuel (← document.enter? header) rest
      | cs =>
          let ((path, name, value), rest) ← readEntry? cs
          readLines? fuel (← document.insert? path name value) rest

/-- The table that a document denotes.  A byte order mark in front is
skipped. -/
def read? (text : String) : Option Value := do
  let cs :=
    match text.toList with
    | '\uFEFF' :: rest => rest
    | cs => cs
  let document ← readLines? (cs.length + 1) {} cs
  let entries ← document.finish?
  return .table (entriesToMembers entries)

example : (read? "[b.c]\nx = [1, ]\n[b]\ny.z = true # end").isSome = true := by decide +kernel
example : (read? "[a.b]\n[a]\nb = 1").isSome = false := by decide +kernel

end Toml
end QueryArtifacts
