import QueryArtifacts.Decimal.Binary64

/-!
# Shortest decimals

The shortest decimal that reads back as a given finite double: of all decimals
in the interval of reals that round to the double, one with the fewest digits,
and of those the one nearest to the double.

For each count of digits the two neighbours of the double on that decimal grid
are tested against the interval in exact arithmetic.  The ends of the interval
belong to it when the significand is even.
-/

namespace QueryArtifacts
namespace Decimal

/-- The decimal number `digits · 10 ^ power`. -/
structure Scaled where
  digits : Nat
  power : Int
  deriving DecidableEq, Repr

/-- Which of two equally near decimals is taken. -/
inductive Tie where
  | toEven
  | up
  deriving DecidableEq, Repr

/-- The interval of reals that round to `significand · 2 ^ exponent`, and that
value itself, all in units of a quarter of `2 ^ exponent`. -/
structure Interval where
  low : Nat
  value : Nat
  high : Nat
  closed : Bool

/-- The interval of a significand and its exponent.  Below a power of two the
neighbour is half as far away as above it. -/
def Interval.of (significand : Nat) (exponent : Int) : Interval where
  low :=
    if significand = Binary64.leastFull ∧ Binary64.minExponent < exponent then
      4 * significand - 1
    else
      4 * significand - 2
  value := 4 * significand
  high := 4 * significand + 2
  closed := significand % 2 = 0

/-- Whether `x` lies in the interval `i` scaled by `unit`. -/
def Interval.has (i : Interval) (unit x : Nat) : Bool :=
  if i.closed then
    i.low * unit ≤ x && x ≤ i.high * unit
  else
    i.low * unit < x && x < i.high * unit

/-- The exponent `k` with `10 ^ k ≤ value < 10 ^ (k + 1)`, for a positive
`value = significand · 2 ^ exponent` of double precision. -/
def magnitude (significand : Nat) (exponent : Int) : Int :=
  let shifted := significand * twoPow exponent.toNat * tenPow 330 / twoPow (-exponent).toNat
  (Decimal.digits shifted).length - 331

/-- The decimal on the grid `10 ^ power` that is nearest to the double, if one
of its two neighbours there lies in the interval. -/
def onGrid? (tie : Tie) (i : Interval) (exponent power : Int) : Option Nat :=
  let quarter := exponent - 2
  -- one quarter unit and one grid step, over a common denominator
  let unit := twoPow quarter.toNat * tenPow (-power).toNat
  let step := tenPow power.toNat * twoPow (-quarter).toNat
  let value := i.value * unit
  let below := value / step
  let rest := value % step
  let upFits := i.has unit ((below + 1) * step)
  if i.has unit (below * step) then
    if upFits ∧ (step < 2 * rest ∨ (step = 2 * rest ∧ (tie = .up ∨ below % 2 = 1))) then
      some (below + 1)
    else
      some below
  else if upFits then
    some (below + 1)
  else
    none

/-- Remove the zeros at the end of the digits; at most `fuel` of them. -/
def Scaled.normal : Nat → Scaled → Scaled
  | 0, s => s
  | fuel + 1, s =>
      if s.digits % 10 = 0 then normal fuel ⟨s.digits / 10, s.power + 1⟩ else s

/-- The shortest decimal that reads back as `significand · 2 ^ exponent`, for a
positive significand.  Seventeen digits always suffice. -/
def shortest (tie : Tie) (significand : Nat) (exponent : Int) : Scaled :=
  let i := Interval.of significand exponent
  let k := magnitude significand exponent
  let found := (List.range 17).findSome? fun (n : Nat) =>
    (onGrid? tie i exponent (k - n)).map fun d => Scaled.mk d (k - n)
  match found with
  | some s => s.normal 17
  | none => ⟨0, 0⟩

example : shortest .toEven 1 (-1074) = ⟨5, -324⟩ := by decide +kernel
example : shortest .up (2 ^ 52) (-52) = ⟨1, 0⟩ := by decide +kernel

end Decimal
end QueryArtifacts
