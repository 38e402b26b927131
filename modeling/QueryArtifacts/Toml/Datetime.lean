import QueryArtifacts.Decimal.Digits

/-!
# Dates and times

The dates and times of TOML: a date, a time, or both with an optional offset
from UTC.

* `Datetime.read?` — the value of a literal.  Month, day, hour, minute and second
  are checked, a second of 60 being a leap second; seconds may be missing.
* `Datetime.text` — the normal text: `T` between date and time, seconds always,
  a fraction of at most nine digits without zeros at its end, `Z` or a signed
  offset.
-/

namespace QueryArtifacts
namespace Toml

/-- A calendar date. -/
structure Date where
  year : Nat
  month : Nat
  day : Nat
  deriving DecidableEq, Repr

/-- A time of day. -/
structure Time where
  hour : Nat
  minute : Nat
  second : Nat
  nanosecond : Nat
  deriving DecidableEq, Repr

/-- The distance from UTC. -/
inductive UtcOffset where
  | zulu
  | minutes (count : Int)
  deriving DecidableEq, Repr

/-- A date, a time, or both. -/
inductive Datetime where
  | date (date : Date)
  | time (time : Time)
  | both (date : Date) (time : Time) (offset : Option UtcOffset)
  deriving DecidableEq, Repr

/-- The days of a month. -/
def daysIn (year month : Nat) : Nat :=
  if month = 2 then
    if year % 4 = 0 ∧ (year % 100 ≠ 0 ∨ year % 400 = 0) then 29 else 28
  else if month = 4 ∨ month = 6 ∨ month = 9 ∨ month = 11 then 30
  else 31

/-- The value of decimal digits that is at least `low` and at most `high`. -/
def numberIn? (low high : Nat) (cs : List Char) : Option Nat := do
  let n ← Decimal.readDigits? 10 cs
  if low ≤ n ∧ n ≤ high then some n else none

/-- The date in front and what follows. -/
def readDate? : List Char → Option (Date × List Char)
  | y₁ :: y₂ :: y₃ :: y₄ :: '-' :: m₁ :: m₂ :: '-' :: d₁ :: d₂ :: rest => do
      let year ← Decimal.readDigits? 10 [y₁, y₂, y₃, y₄]
      let month ← numberIn? 1 12 [m₁, m₂]
      let day ← numberIn? 1 (daysIn year month) [d₁, d₂]
      return (⟨year, month, day⟩, rest)
  | _ => none

/-- The nanoseconds of a fraction in front, digits past the ninth dropped. -/
def readFraction? : List Char → Option (Nat × List Char)
  | '.' :: rest => do
      let ds := rest.takeWhile Char.isDigit
      let nine := (ds ++ List.replicate 9 '0').take 9
      let n ← Decimal.readDigits? 10 nine
      if ds.isEmpty then none else some (n, rest.dropWhile Char.isDigit)
  | cs => some (0, cs)

/-- The time in front and what follows. -/
def readTime? : List Char → Option (Time × List Char)
  | h₁ :: h₂ :: ':' :: m₁ :: m₂ :: rest => do
      let hour ← numberIn? 0 23 [h₁, h₂]
      let minute ← numberIn? 0 59 [m₁, m₂]
      match rest with
      | ':' :: s₁ :: s₂ :: rest =>
          let second ← numberIn? 0 60 [s₁, s₂]
          let (nanosecond, rest) ← readFraction? rest
          return (⟨hour, minute, second, nanosecond⟩, rest)
      | rest => return (⟨hour, minute, 0, 0⟩, rest)
  | _ => none

/-- The offset that a whole text denotes; an empty text denotes none. -/
def readOffset? : List Char → Option (Option UtcOffset)
  | [] => some none
  | ['Z'] => some (some .zulu)
  | ['z'] => some (some .zulu)
  | [sign, h₁, h₂, ':', m₁, m₂] => do
      let hours ← numberIn? 0 23 [h₁, h₂]
      let minutes ← numberIn? 0 59 [m₁, m₂]
      let total : Int := hours * 60 + minutes
      if sign = '+' then some (some (.minutes total))
      else if sign = '-' then some (some (.minutes (-total)))
      else none
  | _ => none

/-- The date or time that a literal denotes. -/
def Datetime.read? (cs : List Char) : Option Datetime :=
  match readTime? cs with
  | some (t, []) => some (.time t)
  | _ =>
      match readDate? cs with
      | some (d, []) => some (.date d)
      | some (d, separator :: rest) =>
          if separator = 'T' ∨ separator = 't' ∨ separator = ' ' then do
            let (t, rest) ← readTime? rest
            let offset ← readOffset? rest
            return .both d t offset
          else
            none
      | none => none

/-- The normal text of a date. -/
def Date.text (date : Date) : String :=
  Decimal.padded 4 date.year ++ "-" ++ Decimal.padded 2 date.month ++ "-" ++
    Decimal.padded 2 date.day

/-- The normal text of a time. -/
def Time.text (time : Time) : String :=
  let fraction := (Decimal.padded 9 time.nanosecond).toList
  let shown := (fraction.reverse.dropWhile (· = '0')).reverse
  Decimal.padded 2 time.hour ++ ":" ++ Decimal.padded 2 time.minute ++ ":" ++
    Decimal.padded 2 time.second ++
    (if shown.isEmpty then "" else "." ++ String.ofList shown)

/-- The normal text of an offset. -/
def UtcOffset.text : UtcOffset → String
  | .zulu => "Z"
  | .minutes count =>
      (if count < 0 then "-" else "+") ++ Decimal.padded 2 (count.natAbs / 60) ++ ":" ++
        Decimal.padded 2 (count.natAbs % 60)

/-- The normal text of a date or time. -/
def Datetime.text : Datetime → String
  | .date d => d.text
  | .time t => t.text
  | .both d t offset =>
      d.text ++ "T" ++ t.text ++
        match offset with
        | some o => o.text
        | none => ""

example : (Datetime.read? "2024-01-01t01:02:03.500z".toList).map Datetime.text =
    some "2024-01-01T01:02:03.5Z" := by decide +kernel
example : Datetime.read? "2023-02-29".toList = none := by decide +kernel

end Toml
end QueryArtifacts
