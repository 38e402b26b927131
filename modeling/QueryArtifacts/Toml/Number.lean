import QueryArtifacts.Json.Basic

/-!
# Numbers

The number literals of TOML.

* `readInteger?` — decimal, or with `0x`, `0o` or `0b` and no sign; of any size.
* `readFloat?` — a fraction, an exponent or both; also `inf` and `nan`.
* `Number.inRange` — what a number must satisfy wherever it is read past.
* `Number.toJson?` — what it must satisfy, and gives, as a free value.

A literal is checked for its form where it stands, and for its meaning only where
it is used.  In a number a single underscore may stand between two digits, and a
decimal number has no leading zero.  The form of an integer asks for less: there
may be no digit behind `0x`, `0o` or `0b`; and behind the first underscore of a
decimal integer any characters but spaces may stand, as long as each underscore is
between two hexadecimal digits and nothing makes it a number with a fraction or an
exponent.  Such a literal is `Number.unusable`.
-/

namespace QueryArtifacts
namespace Toml

/-- What a number literal denotes. -/
inductive Number where
  | integer (value : Int)
  | float (value : Binary64)
  /-- A literal of good form that denotes no number that could be used: past every
  range, or not made of digits. -/
  | unusable
  deriving DecidableEq, Repr

namespace Number

/-- Whether a number can be read past: an integer of 128 bits, with or without
sign, or a number of double precision. -/
def inRange : Number → Bool
  | .integer n =>
      -170141183460469231731687303715884105728 ≤ n &&
        n < 340282366920938463463374607431768211456
  | .float _ => true
  | .unusable => false

/-- A number as a free value: an integer of 64 bits, with or without sign, or a
number of double precision, `null` when that is not finite. -/
def toJson? : Number → Option Json
  | .integer n => if Json.isInt64 n || Json.isUInt64 n then some (.int n) else none
  | .float x => some (if x.isFinite then .float x else .null)
  | .unusable => none

end Number

/-- Digits with single underscores between them; the answer holds the digits. -/
def groupedDigits? (isDigit : Char → Bool) : List Char → Option (List Char)
  | [] => none
  | [c] => if isDigit c then some [c] else none
  | c :: '_' :: rest =>
      if isDigit c then (groupedDigits? isDigit rest).map (c :: ·) else none
  | c :: rest =>
      if isDigit c then (groupedDigits? isDigit rest).map (c :: ·) else none

/-- Whether a character is a digit of the given base. -/
def isDigitOf (base : Nat) (c : Char) : Bool :=
  match Decimal.readDigits?.digit? c with
  | some d => d < base
  | none => false

/-- Grouped decimal digits without a leading zero. -/
def wholeDigits? (cs : List Char) : Option (List Char) := do
  let ds ← groupedDigits? Char.isDigit cs
  if ds.length ≠ 1 ∧ ds.head? = some '0' then none else some ds

/-- The sign in front, true for a minus, and what follows. -/
def takeSign : List Char → Bool × List Char
  | '-' :: rest => (true, rest)
  | '+' :: rest => (false, rest)
  | cs => (false, cs)

/-- Whether each underscore stands between two hexadecimal digits; `behindDigit`
tells whether the text stands behind one. -/
def underscoresBetweenDigits (behindDigit : Bool) : List Char → Bool
  | [] => true
  | ['_'] => false
  | '_' :: c :: rest =>
      behindDigit && isDigitOf 16 c && underscoresBetweenDigits true rest
  | c :: rest => underscoresBetweenDigits (isDigitOf 16 c) rest

/-- Whether a text has the form of the digits of a base. -/
def hasBasedForm (base : Nat) (cs : List Char) : Bool :=
  cs.all (fun c => isDigitOf base c || c = '_') && underscoresBetweenDigits false cs

/-- Whether a text has the form of a decimal integer without sign. -/
def hasDecimalForm (cs : List Char) : Bool :=
  match cs.takeWhile Char.isDigit, cs.dropWhile Char.isDigit with
  | [], _ => false
  | first :: more, [] => first ≠ '0' || more.isEmpty
  | first :: _, '_' :: rest =>
      first ≠ '0' && !rest.any ([' ', '.', 'e', 'E'].contains ·) &&
        underscoresBetweenDigits true ('_' :: rest)
  | _, _ => false

/-- The number that the digits of a base spell, underscores left out.  With more than
128 significant digits it is past 128 bits in every base. -/
def integerOf (negative : Bool) (base : Nat) (cs : List Char) : Number :=
  let ds := cs.filter (· ≠ '_')
  if ds.isEmpty ∨ 128 < (ds.dropWhile (· = '0')).length then
    .unusable
  else
    match Decimal.readDigits? base ds with
    | some n => .integer (if negative then -(n : Int) else n)
    | none => .unusable

/-- The number that a literal with the form of an integer denotes. -/
def readInteger? : List Char → Option Number
  | '0' :: 'x' :: rest => if hasBasedForm 16 rest then some (integerOf false 16 rest) else none
  | '0' :: 'o' :: rest => if hasBasedForm 8 rest then some (integerOf false 8 rest) else none
  | '0' :: 'b' :: rest => if hasBasedForm 2 rest then some (integerOf false 2 rest) else none
  | cs =>
      let (negative, rest) := takeSign cs
      if hasDecimalForm rest then some (integerOf negative 10 rest) else none

/-- The digits of the fraction in front, none without a point, and what
follows. -/
def takeFraction? : List Char → Option (List Char × List Char)
  | '.' :: rest => do
      let isPart := fun c : Char => c.isDigit || c = '_'
      let ds ← groupedDigits? Char.isDigit (rest.takeWhile isPart)
      return (ds, rest.dropWhile isPart)
  | cs => some ([], cs)

/-- The exponent that a whole text denotes, zero for an empty one. -/
def readExponent? : List Char → Option Int
  | [] => some 0
  | c :: rest =>
      if c = 'e' ∨ c = 'E' then do
        let (negative, rest) := takeSign rest
        let n ← Decimal.readPower? (← groupedDigits? Char.isDigit rest)
        return if negative then -(n : Int) else n
      else
        none

/-- The number with a fraction or an exponent that a literal denotes. -/
def readFloat? (cs : List Char) : Option Number := do
  let (negative, rest) := takeSign cs
  if rest = "inf".toList then
    return .float (.infinite negative)
  if rest = "nan".toList then
    return .float .nan
  let isPart := fun c : Char => c.isDigit || c = '_'
  let whole ← wholeDigits? (rest.takeWhile isPart)
  let ending := rest.dropWhile isPart
  if ending.isEmpty then none
  let (fraction, exponent) ← takeFraction? ending
  let power ← readExponent? exponent
  let value ← Binary64.ofDigits? negative (whole ++ fraction) (power - fraction.length)
  return if value.isFinite then .float value else .unusable

/-- The number that a literal denotes. -/
def Number.read? (cs : List Char) : Option Number :=
  (readInteger? cs).orElse fun _ => readFloat? cs

example : Number.read? "-1_000".toList = some (.integer (-1000)) := by decide +kernel
example : (Number.integer 18446744073709551616).toJson? = none := rfl
example : Number.read? "1__0".toList = none := by decide +kernel
example : Number.read? "0x".toList = some .unusable := by decide +kernel
example : Number.read? "+1_f-2".toList = some .unusable := by decide +kernel
example : Number.read? "1_e0".toList = none := by decide +kernel
example : readFloat? "1".toList = none := by decide +kernel
example : Number.read? "1e999".toList = some .unusable := by decide +kernel
example : Number.read? "1_0.5_0e0".toList = some (.float (.ofDecimal false 105 (-1))) := by
  decide +kernel

end Toml
end QueryArtifacts
