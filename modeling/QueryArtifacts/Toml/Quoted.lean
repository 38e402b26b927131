import QueryArtifacts.Decimal.Digits

/-!
# Quoted strings

The four string forms of TOML.  Each reader starts behind the opening quotes and
answers with the characters of the string and the text behind the closing
quotes.

* `readBasic?`, `readLiteral?` — on one line, with and without escapes.
* `readMultilineBasic?`, `readMultilineLiteral?` — over several lines.  Line
  breaks are kept as they are, a break right behind the opening is dropped, and
  up to two quotes may stand right before the closing ones.
-/

namespace QueryArtifacts
namespace Toml

/-- The characters that may stand in a string or a comment: no control character
but the tab. -/
def isText (c : Char) : Bool :=
  c = '\t' || (' ' ≤ c && c ≠ '\x7f')

/-- The characters between words of a line. -/
def isSpace (c : Char) : Bool :=
  c = ' ' || c = '\t'

/-- The character of an escape of one letter. -/
def shortEscape? : Char → Option Char
  | 'b' => some '\x08'
  | 't' => some '\t'
  | 'n' => some '\n'
  | 'f' => some '\x0c'
  | 'r' => some '\r'
  | 'e' => some '\x1b'
  | '"' => some '"'
  | '\\' => some '\\'
  | _ => none

/-- The character of a code point in hexadecimal digits. -/
def codePoint? (ds : List Char) : Option Char := do
  let n ← Decimal.readDigits? 16 ds
  if n.isValidChar then some (Char.ofNat n) else none

/-- The character of the escape behind a backslash, and what follows. -/
def readEscape? : List Char → Option (Char × List Char)
  | 'x' :: a :: b :: rest => (codePoint? [a, b]).map (·, rest)
  | 'u' :: a :: b :: c :: d :: rest => (codePoint? [a, b, c, d]).map (·, rest)
  | 'U' :: a :: b :: c :: d :: e :: f :: g :: h :: rest =>
      (codePoint? [a, b, c, d, e, f, g, h]).map (·, rest)
  | letter :: rest => (shortEscape? letter).map (·, rest)
  | [] => none

/-- A string of one line with escapes.  The fuel bounds the length of the text. -/
def readBasic? : Nat → List Char → Option (List Char × List Char)
  | 0, _ => none
  | _ + 1, [] => none
  | _ + 1, '"' :: rest => some ([], rest)
  | fuel + 1, '\\' :: rest => do
      let (c, rest) ← readEscape? rest
      let (inside, after) ← readBasic? fuel rest
      return (c :: inside, after)
  | fuel + 1, c :: rest =>
      if isText c then do
        let (inside, after) ← readBasic? fuel rest
        return (c :: inside, after)
      else
        none

/-- A string of one line without escapes. -/
def readLiteral? : List Char → Option (List Char × List Char)
  | [] => none
  | '\'' :: rest => some ([], rest)
  | c :: rest =>
      if isText c then do
        let (inside, after) ← readLiteral? rest
        return (c :: inside, after)
      else
        none

/-- The text behind a line break in front, if there is one. -/
def takeBreak? : List Char → Option (List Char)
  | '\n' :: rest => some rest
  | '\r' :: '\n' :: rest => some rest
  | _ => none

/-- Drop the line break in front, if there is one. -/
def dropBreak (cs : List Char) : List Char :=
  (takeBreak? cs).getD cs

/-- Drop spaces, tabs and line breaks in front. -/
def dropBreaks : List Char → List Char
  | '\r' :: '\n' :: rest => dropBreaks rest
  | c :: rest => if isSpace c || c = '\n' then dropBreaks rest else c :: rest
  | [] => []

/-- Behind a backslash at the end of a line: the text after the blanks and line
breaks that it joins. -/
def joinLines? (cs : List Char) : Option (List Char) :=
  (takeBreak? (cs.dropWhile isSpace)).map dropBreaks

/-- A string of several lines with escapes, behind its opening break.  The fuel
bounds the length of the text. -/
def readMultilineBasic? : Nat → List Char → Option (List Char × List Char)
  | 0, _ => none
  | _ + 1, [] => none
  | _ + 1, '"' :: '"' :: '"' :: '"' :: '"' :: rest => some (['"', '"'], rest)
  | _ + 1, '"' :: '"' :: '"' :: '"' :: rest => some (['"'], rest)
  | _ + 1, '"' :: '"' :: '"' :: rest => some ([], rest)
  | fuel + 1, '\\' :: rest =>
      match joinLines? rest with
      | some rest => readMultilineBasic? fuel rest
      | none => do
          let (c, rest) ← readEscape? rest
          let (inside, after) ← readMultilineBasic? fuel rest
          return (c :: inside, after)
  | fuel + 1, '\r' :: '\n' :: rest => do
      let (inside, after) ← readMultilineBasic? fuel rest
      return ('\r' :: '\n' :: inside, after)
  | fuel + 1, c :: rest =>
      if isText c || c = '\n' then do
        let (inside, after) ← readMultilineBasic? fuel rest
        return (c :: inside, after)
      else
        none

/-- A string of several lines without escapes, behind its opening break. -/
def readMultilineLiteral? : List Char → Option (List Char × List Char)
  | [] => none
  | '\'' :: '\'' :: '\'' :: '\'' :: '\'' :: rest => some (['\'', '\''], rest)
  | '\'' :: '\'' :: '\'' :: '\'' :: rest => some (['\''], rest)
  | '\'' :: '\'' :: '\'' :: rest => some ([], rest)
  | '\r' :: '\n' :: rest => do
      let (inside, after) ← readMultilineLiteral? rest
      return ('\r' :: '\n' :: inside, after)
  | c :: rest =>
      if isText c || c = '\n' then do
        let (inside, after) ← readMultilineLiteral? rest
        return (c :: inside, after)
      else
        none

end Toml
end QueryArtifacts
