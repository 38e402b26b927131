import Mathlib.Tactic.SplitIfs
import QueryArtifacts.Proofs.Decimal.Digits
import QueryArtifacts.Query.Literal

/-!
# Large whole doubles

A double from `2 ^ 54` on is a whole number.  Its shortest decimal is one too, but it need not be
the number that the double stands for: it is only known to lie in the interval that rounds to the
double.

* `Interval.has_neighbour`, `isSome_onGrid?` — the search on one decimal grid.
* `Interval.whole` — the interval of a whole double.
* `exists_shortest_has` — seventeen digits suffice, and what is found lies in the interval.
* `exists_floatText_has` — the text is the text of an integer in the interval.
-/

namespace QueryArtifacts
namespace Decimal

open Binary64 (leastFull)

/-! ## Text and magnitude -/

theorem positionalText_natCast {n : Nat} (hn : 0 < n) (power : Nat) :
    positionalText "" (digits n) power = natText (n * tenPow power) := by
  rw [positionalText, if_pos (Int.natCast_nonneg power), Int.toNat_natCast, String.append_empty,
    natText, digits_mul_tenPow hn]

/-- The magnitude of a whole double is one less than the count of its digits. -/
theorem magnitude_natCast {significand : Nat} (hpos : 0 < significand) (exponent : Nat) :
    magnitude significand exponent =
      ((digits (significand * twoPow exponent)).length : Int) - 1 := by
  have hvalue : 0 < significand * twoPow exponent := Nat.mul_pos hpos (twoPow_pos exponent)
  have hunit : twoPow (-(exponent : Int)).toNat = 1 := by
    rw [Int.toNat_of_nonpos (by omega)]
    rfl
  rw [magnitude, hunit, Nat.div_one, Int.toNat_natCast, digits_mul_tenPow hvalue,
    List.length_append, List.length_replicate]
  omega

/-! ## One grid -/

theorem Interval.has_of_lt {i : Interval} {unit x : Nat} (hlow : i.low * unit < x)
    (hhigh : x < i.high * unit) : i.has unit x = true := by
  unfold Interval.has
  split
  · simp [Nat.le_of_lt hlow, Nat.le_of_lt hhigh]
  · simp [hlow, hhigh]

theorem Interval.bounds_of_has {i : Interval} {unit x : Nat} (hhas : i.has unit x = true) :
    i.low * unit ≤ x ∧ x ≤ i.high * unit ∧
      (i.closed = false → i.low * unit < x ∧ x < i.high * unit) := by
  unfold Interval.has at hhas
  split at hhas
  · rename_i hclosed
    simp only [Bool.and_eq_true, decide_eq_true_eq] at hhas
    exact ⟨hhas.1, hhas.2, fun hopen => absurd (hclosed.symm.trans hopen) (by decide)⟩
  · simp only [Bool.and_eq_true, decide_eq_true_eq] at hhas
    exact ⟨Nat.le_of_lt hhas.1, Nat.le_of_lt hhas.2, fun _ => hhas⟩

/-- An interval that is wider than a step of a grid holds one of the two neighbours there. -/
theorem Interval.has_neighbour {i : Interval} {unit step : Nat} (hunit : 0 < unit)
    (hstep : 0 < step) (hlow : i.low ≤ i.value) (hhigh : i.value < i.high)
    (hwide : i.low * unit + step < i.high * unit) :
    i.has unit (i.value * unit / step * step) = true ∨
      i.has unit ((i.value * unit / step + 1) * step) = true := by
  have hbelow : i.value * unit / step * step ≤ i.value * unit := Nat.div_mul_le_self ..
  have habove : i.value * unit < (i.value * unit / step + 1) * step := by
    rw [Nat.mul_comm (_ + 1)]
    exact Nat.lt_mul_div_succ _ hstep
  have hlow' : i.low * unit ≤ i.value * unit := Nat.mul_le_mul_right unit hlow
  have hhigh' : i.value * unit < i.high * unit := Nat.mul_lt_mul_of_pos_right hhigh hunit
  by_cases hleft : i.low * unit < i.value * unit / step * step
  · exact Or.inl (has_of_lt hleft (Nat.lt_of_le_of_lt hbelow hhigh'))
  · refine Or.inr (has_of_lt (Nat.lt_of_le_of_lt hlow' habove) ?_)
    rw [Nat.succ_mul]
    omega

/-- A quarter of `2 ^ exponent`, over a common denominator with the steps of a grid. -/
def gridUnit (exponent power : Int) : Nat :=
  twoPow (exponent - 2).toNat * tenPow (-power).toNat

/-- A step of the grid of `10 ^ power`, over the same denominator. -/
def gridStep (exponent power : Int) : Nat :=
  tenPow power.toNat * twoPow (-(exponent - 2)).toNat

section Grid

variable {tie : Tie} {i : Interval} {exponent power : Int}

/-- A decimal that is found lies in the interval. -/
theorem onGrid?_has {found : Nat} (hfound : onGrid? tie i exponent power = some found) :
    i.has (gridUnit exponent power) (found * gridStep exponent power) = true := by
  unfold onGrid? at hfound
  dsimp only at hfound
  split_ifs at hfound with hbelow hup hup
  · cases hfound
    exact hup.1
  · cases hfound
    exact hbelow
  · cases hfound
    exact hup

/-- The search finds a neighbour of the double that lies in the interval. -/
theorem isSome_onGrid? (hlow : i.low ≤ i.value) (hhigh : i.value < i.high)
    (hwide : i.low * gridUnit exponent power + gridStep exponent power <
      i.high * gridUnit exponent power) :
    (onGrid? tie i exponent power).isSome = true := by
  have hunit : 0 < gridUnit exponent power := Nat.mul_pos (twoPow_pos _) (tenPow_pos _)
  have hstep : 0 < gridStep exponent power := Nat.mul_pos (tenPow_pos _) (twoPow_pos _)
  have hfits := Interval.has_neighbour hunit hstep hlow hhigh hwide
  unfold onGrid?
  dsimp only
  split_ifs with hfirst hup hup
  · rfl
  · rfl
  · rfl
  · exact absurd hfits (not_or.mpr ⟨hfirst, hup⟩)

end Grid

theorem gridUnit_natCast (exponent power : Nat) :
    gridUnit ((exponent + 2 : Nat) : Int) power = twoPow exponent := by
  have hquarter : (((exponent + 2 : Nat) : Int) - 2).toNat = exponent := by omega
  have hpower : (-(power : Int)).toNat = 0 := by omega
  rw [gridUnit, hquarter, hpower]
  exact Nat.mul_one _

theorem gridStep_natCast (exponent power : Nat) :
    gridStep ((exponent + 2 : Nat) : Int) power = tenPow power := by
  have hquarter : (-(((exponent + 2 : Nat) : Int) - 2)).toNat = 0 := by omega
  rw [gridStep, hquarter, Int.toNat_natCast]
  exact Nat.mul_one _

/-! ## Intervals of whole doubles -/

/-- The interval of `significand · 2 ^ (exponent + 2)`.  It is told in units of `2 ^ exponent`. -/
def Interval.whole (significand exponent : Nat) : Interval :=
  Interval.of significand ((exponent + 2 : Nat) : Int)

namespace Interval

theorem value_whole (significand exponent : Nat) :
    (whole significand exponent).value = 4 * significand :=
  rfl

theorem high_whole (significand exponent : Nat) :
    (whole significand exponent).high = 4 * significand + 2 :=
  rfl

theorem closed_whole (significand exponent : Nat) :
    (whole significand exponent).closed = decide (significand % 2 = 0) :=
  rfl

/-- The interval of a power of two reaches half as far down. -/
theorem low_whole_leastFull (exponent : Nat) :
    (whole leastFull exponent).low = 4 * leastFull - 1 := by
  have hexponent : Binary64.minExponent < ((exponent + 2 : Nat) : Int) := by
    unfold Binary64.minExponent
    omega
  dsimp only [whole, Interval.of]
  rw [if_pos (And.intro rfl hexponent)]

theorem low_whole_of_ne {significand : Nat} (hne : significand ≠ leastFull) (exponent : Nat) :
    (whole significand exponent).low = 4 * significand - 2 :=
  if_neg fun hpower => hne hpower.1

theorem low_whole_bounds (significand exponent : Nat) :
    4 * significand - 2 ≤ (whole significand exponent).low ∧
      (whole significand exponent).low ≤ 4 * significand := by
  unfold whole Interval.of
  dsimp only
  split <;> omega

end Interval

/-! ## The decimal that is found -/

/-- Zeros at the end move from the digits to the power. -/
theorem exists_normal_eq (fuel found power : Nat) :
    ∃ found' power' : Nat, Scaled.normal fuel ⟨found, power⟩ = ⟨found', power'⟩ ∧
      found' * tenPow power' = found * tenPow power := by
  induction fuel generalizing found power with
  | zero => exact ⟨found, power, rfl, rfl⟩
  | succ fuel ih =>
      rw [Scaled.normal]
      dsimp only
      split_ifs with hzero
      · obtain ⟨found', power', hnormal, hvalue⟩ := ih (found / 10) (power + 1)
        refine ⟨found', power', hnormal, ?_⟩
        rw [hvalue, tenPow_succ, ← Nat.mul_assoc, Nat.div_mul_cancel (Nat.dvd_of_mod_eq_zero hzero)]
      · exact ⟨found, power, rfl, rfl⟩

section Whole

variable {significand : Nat} (hfull : leastFull ≤ significand)
  (hbound : significand < 2 * leastFull)
include hfull hbound

omit hbound in
/-- There are seventeen digits or more, so that no grid of the search is finer than the integers. -/
theorem exists_magnitude_eq (exponent : Nat) : ∃ least : Nat,
    magnitude significand ((exponent + 2 : Nat) : Int) = ((least + 16 : Nat) : Int) ∧
      tenPow (least + 16) ≤ significand * twoPow (exponent + 2) := by
  have hpos : 0 < significand := Nat.lt_of_lt_of_le (by decide) hfull
  have hvalue : 0 < significand * twoPow (exponent + 2) := Nat.mul_pos hpos (twoPow_pos _)
  have hlarge : tenPow 16 ≤ significand * twoPow (exponent + 2) := by
    have hunit := twoPow_pos exponent
    have hmore := Nat.mul_le_mul_right (twoPow exponent) hfull
    rw [mul_twoPow_add_two]
    unfold leastFull at hmore
    change 10000000000000000 ≤ _
    omega
  obtain ⟨least, hlength⟩ := Nat.exists_eq_add_of_lt ((tenPow_le_iff hvalue 16).mp hlarge)
  refine ⟨least, ?_, ?_⟩
  · rw [magnitude_natCast hpos, hlength]
    omega
  · rw [tenPow_le_iff hvalue, hlength]
    omega

/-- Seventeen digits suffice: the steps of their grid are narrower than the interval. -/
theorem isSome_onGrid?_of_tenPow_le (tie : Tie) {exponent power : Nat}
    (hpower : tenPow (power + 16) ≤ significand * twoPow (exponent + 2)) :
    (onGrid? tie (.whole significand exponent) ((exponent + 2 : Nat) : Int) power).isSome =
      true := by
  have hunit := twoPow_pos exponent
  rw [tenPow_add_sixteen, mul_twoPow_add_two] at hpower
  refine isSome_onGrid? (Interval.low_whole_bounds significand exponent).2 ?_ ?_
  · rw [Interval.value_whole, Interval.high_whole]
    omega
  · rw [gridUnit_natCast, gridStep_natCast, Interval.high_whole, Nat.add_mul, Nat.mul_assoc]
    by_cases hpow : significand = leastFull
    · subst hpow
      rw [Interval.low_whole_leastFull, Nat.sub_mul, Nat.mul_assoc]
      unfold leastFull at hpower ⊢
      omega
    · have hmost : (significand + 1) * twoPow exponent ≤ 2 * leastFull * twoPow exponent :=
        Nat.mul_le_mul_right _ hbound
      rw [Nat.succ_mul] at hmost
      rw [Interval.low_whole_of_ne hpow, Nat.sub_mul, Nat.mul_assoc]
      unfold leastFull at hmost
      omega

/-- The decimal that is found lies in the interval of the double. -/
theorem exists_shortest_has (tie : Tie) (exponent : Nat) : ∃ found power : Nat,
    shortest tie significand ((exponent + 2 : Nat) : Int) = ⟨found, power⟩ ∧
      (Interval.whole significand exponent).has (twoPow exponent) (found * tenPow power) =
        true := by
  obtain ⟨least, hmagnitude, hleast⟩ := exists_magnitude_eq hfull exponent
  have hsearch : ((List.range 17).findSome? fun (n : Nat) =>
      (onGrid? tie (.whole significand exponent) ((exponent + 2 : Nat) : Int)
        (((least + 16 : Nat) : Int) - n)).map fun found =>
          Scaled.mk found (((least + 16 : Nat) : Int) - n)).isSome = true := by
    rw [List.findSome?_isSome_iff]
    refine ⟨16, by decide, ?_⟩
    have hpower : ((least + 16 : Nat) : Int) - (16 : Nat) = least := by omega
    rw [hpower, Option.isSome_map]
    exact isSome_onGrid?_of_tenPow_le hfull hbound tie hleast
  obtain ⟨scaled, hscaled⟩ := Option.isSome_iff_exists.mp hsearch
  obtain ⟨n, hn, hfound⟩ := List.exists_of_findSome?_eq_some hscaled
  have hpower : ((least + 16 : Nat) : Int) - n = ((least + 16 - n : Nat) : Int) := by
    rw [List.mem_range] at hn
    omega
  rw [hpower, Option.map_eq_some_iff] at hfound
  obtain ⟨found, hgrid, rfl⟩ := hfound
  have hhas := onGrid?_has hgrid
  rw [gridUnit_natCast, gridStep_natCast] at hhas
  obtain ⟨found', power', hnormal, hvalue⟩ := exists_normal_eq 17 found (least + 16 - n)
  refine ⟨found', power', ?_, ?_⟩
  · unfold shortest
    dsimp only
    unfold Interval.whole at hscaled
    rw [hmagnitude, hscaled]
    exact hnormal
  · rw [hvalue]
    exact hhas

/-- A whole double is written as an integer of its interval. -/
theorem exists_floatText_has (exponent : Nat) : ∃ n : Nat,
    Literal.floatText (.finite false significand ((exponent + 2 : Nat) : Int)) = natText n ∧
      (Interval.whole significand exponent).has (twoPow exponent) n = true := by
  obtain ⟨found, power, hshortest, hhas⟩ :=
    exists_shortest_has hfull hbound Literal.floatLayout.tie exponent
  refine ⟨found * tenPow power, ?_, hhas⟩
  have hsome : 0 < significand := Nat.lt_of_lt_of_le (by decide) hfull
  have hpos : 0 < found := by
    have hlow := (Interval.low_whole_bounds significand exponent).1
    refine Nat.pos_of_mul_pos_right (Nat.lt_of_lt_of_le ?_ (Interval.bounds_of_has hhas).1)
    exact Nat.mul_pos (by omega) (twoPow_pos exponent)
  change "" ++ Literal.floatLayout.magnitudeText significand _ = _
  rw [Layout.magnitudeText, if_neg (Nat.ne_of_gt hsome), hshortest]
  change "" ++ positionalText "" (digits found) power = _
  rw [positionalText_natCast hpos, String.empty_append]

end Whole

end Decimal
end QueryArtifacts
