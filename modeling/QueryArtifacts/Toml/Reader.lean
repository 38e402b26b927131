import QueryArtifacts.Toml.Quoted
import QueryArtifacts.Toml.Table

/-!
# Reading keys and values

* `readKey?` — a dotted key of at most `maxKeyParts` parts.
* `readScalar?` — a truth value, a number, a date or a time, written in words.
* `readValue?` — any value.  Arrays and inline tables may span lines, hold
  comments and end in a comma, and nest to a depth of `maxDepth`.  The `=` of an
  inline table may stand on a line of its own, but a key stands on one line.

Each reader answers with what follows.
-/

namespace QueryArtifacts
namespace Toml

/-- How deep arrays and inline tables may nest. -/
def maxDepth : Nat := 80

/-- How many parts a dotted key may have. -/
def maxKeyParts : Nat := 80

/-- Skip spaces, tabs, line breaks and comments; a comment holds text only. -/
def skipTrivia? (inComment : Bool) : List Char → Option (List Char)
  | [] => some []
  | '\n' :: rest => skipTrivia? false rest
  | '\r' :: '\n' :: rest => skipTrivia? false rest
  | c :: rest =>
      if inComment then
        if isText c then skipTrivia? true rest else none
      else if isSpace c then
        skipTrivia? false rest
      else if c = '#' then
        skipTrivia? true rest
      else
        some (c :: rest)

/-- The characters of bare keys. -/
def isBareKeyChar (c : Char) : Bool :=
  c.isAlphanum || c = '_' || c = '-'

/-- One part of a key. -/
def readKeyPart? (cs : List Char) : Option (String × List Char) := do
  let (part, rest) ←
    match cs with
    | '"' :: rest => readBasic? (rest.length + 1) rest
    | '\'' :: rest => readLiteral? rest
    | cs =>
        match cs.takeWhile isBareKeyChar with
        | [] => none
        | part => some (part, cs.dropWhile isBareKeyChar)
  return (String.ofList part, rest)

/-- The parts of a dotted key, at most as many as the first argument says. -/
def readKeyParts? : Nat → List Char → Option (List String × List Char)
  | 0, _ => none
  | bound + 1, cs => do
      let (part, rest) ← readKeyPart? (cs.dropWhile isSpace)
      match rest.dropWhile isSpace with
      | '.' :: rest =>
          let (parts, rest) ← readKeyParts? bound rest
          return (part :: parts, rest)
      | rest => return ([part], rest)

/-- A dotted key: the path to its table and the name in that table. -/
def readKey? (cs : List Char) : Option ((List String × String) × List Char) := do
  let (parts, rest) ← readKeyParts? maxKeyParts cs
  let name ← parts.getLast?
  return ((parts.dropLast, name), rest)

/-- The characters of words: all but blanks, line ends and what parts or encloses
values. -/
def isWordChar (c : Char) : Bool :=
  !"=,[]\x7b\x7d# \t\r\n".toList.contains c

/-- The value that words denote. -/
def wordsValue? (words : List Char) : Option Value :=
  if words = "true".toList then some (.boolean true)
  else if words = "false".toList then some (.boolean false)
  else
    ((Number.read? words).map Value.number).orElse fun _ =>
      (Datetime.read? words).map Value.datetime

/-- Whether one more word follows after blanks; a point or a quote begins none. -/
def startsWord (cs : List Char) : Bool :=
  match cs.dropWhile isSpace with
  | c :: _ => isWordChar c && c ≠ '.' && c ≠ '"' && c ≠ '\''
  | [] => false

/-- The words in front with the blanks between them, and what follows. -/
def takeWords : List Char → List Char × List Char
  | [] => ([], [])
  | c :: rest =>
      if isWordChar c || (isSpace c && startsWord rest) then
        let (words, after) := takeWords rest
        (c :: words, after)
      else
        ([], c :: rest)

/-- A value written in words: all that stand together denote one value, such as a
date and a time. -/
def readScalar? (cs : List Char) : Option (Value × List Char) :=
  let (words, rest) := takeWords cs
  (wordsValue? words).map (·, rest)

mutual

/-- A value.  The fuel bounds the length of the text, `depth` the nesting. -/
def readValue? : Nat → Nat → List Char → Option (Value × List Char)
  | 0, _, _ => none
  | fuel + 1, depth, cs =>
      match cs with
      | '"' :: '"' :: '"' :: rest => do
          let (inside, after) ← readMultilineBasic? (rest.length + 1) (dropBreak rest)
          return (.string (String.ofList inside), after)
      | '"' :: rest => do
          let (inside, after) ← readBasic? (rest.length + 1) rest
          return (.string (String.ofList inside), after)
      | '\'' :: '\'' :: '\'' :: rest => do
          let (inside, after) ← readMultilineLiteral? (dropBreak rest)
          return (.string (String.ofList inside), after)
      | '\'' :: rest => do
          let (inside, after) ← readLiteral? rest
          return (.string (String.ofList inside), after)
      | '[' :: rest =>
          if depth = 0 then none
          else do
            let (items, after) ← readItems? fuel (depth - 1) rest
            return (.array items, after)
      | '\x7b' :: rest =>
          if depth = 0 then none
          else do
            let (entries, after) ← readEntries? fuel (depth - 1) [] rest
            return (.table (entriesToMembers entries), after)
      | cs => readScalar? cs

/-- The items of an array up to its closing bracket. -/
def readItems? : Nat → Nat → List Char → Option (List Value × List Char)
  | 0, _, _ => none
  | fuel + 1, depth, cs => do
      match ← skipTrivia? false cs with
      | ']' :: after => return ([], after)
      | cs =>
          let (item, rest) ← readValue? fuel depth cs
          match ← skipTrivia? false rest with
          | ',' :: rest =>
              let (items, after) ← readItems? fuel depth rest
              return (item :: items, after)
          | ']' :: after => return ([item], after)
          | _ => none

/-- The entries of an inline table up to its closing brace, added to those read
so far. -/
def readEntries? : Nat → Nat → Entries → List Char → Option (Entries × List Char)
  | 0, _, _, _ => none
  | fuel + 1, depth, entries, cs => do
      match ← skipTrivia? false cs with
      | '\x7d' :: after => return (entries, after)
      | cs =>
          let ((path, name), rest) ← readKey? cs
          match ← skipTrivia? false rest with
          | '=' :: rest =>
              let (value, rest) ← readValue? fuel depth (← skipTrivia? false rest)
              let entries ← insertValue? path name value entries
              match ← skipTrivia? false rest with
              | ',' :: rest => readEntries? fuel depth entries rest
              | '\x7d' :: after => return (entries, after)
              | _ => none
          | _ => none

end

end Toml
end QueryArtifacts
