import QueryArtifacts.Json.Basic

/-!
# Reading JSON text

`Json.read?` reads one value and nothing after it but white space.

* An integer literal that fits 64 bits, with or without sign, is an integer;
  `-0`, a literal with a fraction or an exponent and a longer integer are
  double-precision numbers.  A literal past their range is refused.
* The members of an object are sorted by name, and the last of equal names is
  kept.
* Half a surrogate pair is refused.
-/

namespace QueryArtifacts
namespace Json

/-- Drop the white space of JSON in front. -/
def skipSpace (cs : List Char) : List Char :=
  cs.dropWhile fun c => c = ' ' || c = '\t' || c = '\n' || c = '\r'

/-- The character of an escape of one letter. -/
def shortEscape? : Char → Option Char
  | '"' => some '"'
  | '\\' => some '\\'
  | '/' => some '/'
  | 'b' => some '\x08'
  | 'f' => some '\x0c'
  | 'n' => some '\n'
  | 'r' => some '\r'
  | 't' => some '\t'
  | _ => none

/-- The character with a code point, unless that is half a surrogate pair or out
of range. -/
def charOf? (n : Nat) : Option Char :=
  if n.isValidChar then some (Char.ofNat n) else none

/-- The inside of a string up to its closing quote, and what follows. -/
def readString? : List Char → Option (List Char × List Char)
  | [] => none
  | '"' :: rest => some ([], rest)
  | '\\' :: 'u' :: a :: b :: c :: d :: rest => do
      let unit ← Decimal.readDigits? 16 [a, b, c, d]
      if 0xD800 ≤ unit ∧ unit < 0xDC00 then
        match rest with
        | '\\' :: 'u' :: e :: f :: g :: h :: rest => do
            let low ← Decimal.readDigits? 16 [e, f, g, h]
            if 0xDC00 ≤ low ∧ low < 0xE000 then
              let c ← charOf? (0x10000 + (unit - 0xD800) * 0x400 + (low - 0xDC00))
              let (inside, after) ← readString? rest
              return (c :: inside, after)
            else
              none
        | _ => none
      else
        let c ← charOf? unit
        let (inside, after) ← readString? rest
        return (c :: inside, after)
  | '\\' :: letter :: rest => do
      let c ← shortEscape? letter
      let (inside, after) ← readString? rest
      return (c :: inside, after)
  | c :: rest =>
      if c < ' ' ∨ c = '\\' then none
      else do
        let (inside, after) ← readString? rest
        return (c :: inside, after)

/-- The leading decimal digits, at least one, and what follows. -/
def takeDigits? (cs : List Char) : Option (List Char × List Char) :=
  match cs.takeWhile Char.isDigit with
  | [] => none
  | ds => some (ds, cs.dropWhile Char.isDigit)

/-- The fraction digits of a number, none without a point. -/
def readFraction? : List Char → Option (List Char × List Char)
  | '.' :: rest => takeDigits? rest
  | cs => some ([], cs)

/-- The exponent of a number; `none` inside stands for a missing one. -/
def readExponent? : List Char → Option (Option Int × List Char)
  | c :: rest =>
      if c = 'e' ∨ c = 'E' then do
        let (negative, rest) :=
          match rest with
          | '-' :: rest => (true, rest)
          | '+' :: rest => (false, rest)
          | rest => (false, rest)
        let (ds, rest) ← takeDigits? rest
        let n ← Decimal.readDigits? 10 ds
        return (some (if negative then -(n : Int) else n), rest)
      else
        some (none, c :: rest)
  | [] => some (none, [])

/-- A double-precision value, unless it is past the range. -/
def finite? (x : Binary64) : Option Json :=
  if x.isFinite then some (.float x) else none

/-- A number without its sign. -/
def readNumber? (negative : Bool) (cs : List Char) : Option (Json × List Char) := do
  let (whole, rest) ← takeDigits? cs
  if whole.length ≠ 1 ∧ whole.head? = some '0' then none
  let (fraction, rest) ← readFraction? rest
  let (exponent, rest) ← readExponent? rest
  let n ← Decimal.readDigits? 10 (whole ++ fraction)
  let signed : Int := if negative then -(n : Int) else n
  let isInteger := fraction.isEmpty && exponent.isNone && (isInt64 signed || isUInt64 signed)
  if isInteger ∧ ¬ (negative ∧ n = 0) then
    return (.int signed, rest)
  else
    let value ← finite? (.ofDecimal negative n (exponent.getD 0 - fraction.length))
    return (value, rest)

mutual

/-- A value after optional space.  The fuel bounds the length of the text. -/
def readValue? : Nat → List Char → Option (Json × List Char)
  | 0, _ => none
  | fuel + 1, cs =>
      match skipSpace cs with
      | 'n' :: 'u' :: 'l' :: 'l' :: rest => some (.null, rest)
      | 't' :: 'r' :: 'u' :: 'e' :: rest => some (.bool true, rest)
      | 'f' :: 'a' :: 'l' :: 's' :: 'e' :: rest => some (.bool false, rest)
      | '"' :: rest => do
          let (inside, after) ← readString? rest
          return (.str (String.ofList inside), after)
      | '-' :: rest => readNumber? true rest
      | '[' :: rest =>
          match skipSpace rest with
          | ']' :: after => some (.arr [], after)
          | _ => do
              let (items, after) ← readItems? fuel rest
              return (.arr items, after)
      | '\x7b' :: rest =>
          match skipSpace rest with
          | '\x7d' :: after => some (.obj [], after)
          | _ => do
              let (members, after) ← readMembers? fuel rest
              return (.obj (sortMembers members), after)
      | cs => readNumber? false cs

/-- The items of an array up to its closing bracket. -/
def readItems? : Nat → List Char → Option (List Json × List Char)
  | 0, _ => none
  | fuel + 1, cs => do
      let (item, rest) ← readValue? fuel cs
      match skipSpace rest with
      | ',' :: rest =>
          let (items, after) ← readItems? fuel rest
          return (item :: items, after)
      | ']' :: after => return ([item], after)
      | _ => none

/-- The members of an object up to its closing brace. -/
def readMembers? : Nat → List Char → Option (List (String × Json) × List Char)
  | 0, _ => none
  | fuel + 1, cs => do
      match skipSpace cs with
      | '"' :: rest =>
          let (name, rest) ← readString? rest
          match skipSpace rest with
          | ':' :: rest =>
              let (value, rest) ← readValue? fuel rest
              let member := (String.ofList name, value)
              match skipSpace rest with
              | ',' :: rest =>
                  let (members, after) ← readMembers? fuel rest
                  return (member :: members, after)
              | '\x7d' :: after => return ([member], after)
              | _ => none
          | _ => none
      | _ => none

end

/-- The value that a JSON text denotes. -/
def read? (s : String) : Option Json := do
  let cs := s.toList
  let (value, rest) ← readValue? (2 * cs.length + 2) cs
  if (skipSpace rest).isEmpty then some value else none

example : read? "[1, \"\\ud83d\\ude00\"]" = some (.arr [.int 1, .str "😀"]) := by cbv

end Json
end QueryArtifacts
