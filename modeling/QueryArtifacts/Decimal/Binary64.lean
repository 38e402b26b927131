import QueryArtifacts.Decimal.Digits

/-!
# Double-precision numbers

A double-precision number is described by what it denotes, not by its bits: it
is no number, infinite, or `± significand · 2 ^ exponent`.  All arithmetic on it
is exact arithmetic on natural numbers.

* `Binary64.ofFraction` — the double nearest to a fraction, ties to the even
  significand; it is the one source of finite doubles.
* `Binary64.ofDecimal` — the double nearest to `digits · 10 ^ power`.
* `Binary64.ofDigits?` — the same for digits as they are written.
* `Binary64.ofInt` — the double nearest to an integer.
-/

namespace QueryArtifacts

/-- A double-precision number.  A finite one has its significand below `2 ^ 53`
and its exponent from `-1074` to `971`; the significand is at least `2 ^ 52`
unless the exponent is `-1074`. -/
inductive Binary64 where
  | nan
  | infinite (negative : Bool)
  | finite (negative : Bool) (significand : Nat) (exponent : Int)
  deriving DecidableEq, Repr

namespace Binary64

open Decimal (twoPow tenPow)

/-- Whether the number is finite. -/
def isFinite : Binary64 → Bool
  | .finite .. => true
  | _ => false

/-- The least exponent of a finite double. -/
def minExponent : Int := -1074

/-- The greatest exponent of a finite double. -/
def maxExponent : Int := 971

/-- The least significand that uses all 53 bits, `2 ^ 52`. -/
def leastFull : Nat := 4503599627370496

/-- The zero of the given sign. -/
def zero (negative : Bool) : Binary64 :=
  .finite negative 0 minExponent

/-- The integer nearest to `num / den`, a half going to the even neighbour. -/
def roundHalfEven (num den : Nat) : Nat :=
  let q := num / den
  let r := 2 * (num % den)
  if r < den ∨ (r = den ∧ q % 2 = 0) then q else q + 1

/-- The greatest `e` with `2 ^ e ≤ num / den`, for positive arguments. -/
def floorLog2 (num den : Nat) : Int :=
  let e : Int := (num.log2 : Int) - den.log2
  if den * twoPow e.toNat ≤ num * twoPow (-e).toNat then e else e - 1

/-- The double of the given significand and exponent, infinite past the range.
A significand of `2 ^ 53`, which rounding up can give, moves one bit over. -/
def pack (negative : Bool) (significand : Nat) (exponent : Int) : Binary64 :=
  let (m, q) :=
    if significand = 2 * leastFull then (leastFull, exponent + 1) else (significand, exponent)
  if maxExponent < q then .infinite negative else .finite negative m q

/-- The double nearest to `num / den`, ties to the even significand. -/
def ofFraction (negative : Bool) (num den : Nat) : Binary64 :=
  if num = 0 then
    zero negative
  else
    let q := max (floorLog2 num den - 52) minExponent
    pack negative (roundHalfEven (num * twoPow (-q).toNat) (den * twoPow q.toNat)) q

/-- The double nearest to `± digits · 10 ^ power`.  A value that is out of range
by its number of digits alone is not computed. -/
def ofDecimal (negative : Bool) (digits : Nat) (power : Int) : Binary64 :=
  let size : Int := (Decimal.digits digits).length
  if digits = 0 ∨ size + power < -330 then
    zero negative
  else if 310 < size + power then
    .infinite negative
  else
    ofFraction negative (digits * tenPow power.toNat) (tenPow (-power).toNat)

/-- How many digits of a decimal are looked at one by one.  A double and the
midpoint of two neighbours have fewer, so of the digits behind these it matters only
whether one is not zero. -/
def decisiveDigits : Nat := 800

/-- The double nearest to `± digits · 10 ^ power`, the digits as they are written. -/
def ofDigits? (negative : Bool) (digits : List Char) (power : Int) : Option Binary64 := do
  let significant := digits.dropWhile (· = '0')
  let tail := significant.drop decisiveDigits
  let rest := if tail.all (· = '0') then [] else ['1']
  let kept := significant.take decisiveDigits ++ rest
  let n ← Decimal.readDigits? 10 kept
  return ofDecimal negative n (power + (significant.length - kept.length : Nat))

/-- The double nearest to an integer. -/
def ofInt (n : Int) : Binary64 :=
  ofFraction (n < 0) n.natAbs 1

example : ofInt (2 ^ 53 + 1) = .finite false (2 ^ 52) 1 := by decide +kernel
example : ofDecimal false 1 400 = .infinite false := by decide +kernel
example : ofDecimal true 0 0 = zero true := by decide +kernel
example : ofDigits? false "0150".toList (-2) = some (ofDecimal false 15 (-1)) := by
  decide +kernel

end Binary64
end QueryArtifacts
