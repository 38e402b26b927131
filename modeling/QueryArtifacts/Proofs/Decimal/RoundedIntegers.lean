import QueryArtifacts.Proofs.Decimal.WholeDoubles

/-!
# Integers as doubles

An integer from `2 ^ 54` on is rounded to a whole double, and the integer that the double is written
as is rounded to the same one.

* `ofInt_eq_pack` — an integer is rounded to a multiple of a power of two.
* `exists_ofInt_eq` — the double that comes out has all 53 bits.
* `ofInt_of_has` — every integer of the interval of a double is rounded to it.
-/

namespace QueryArtifacts
namespace Binary64

open Decimal (Interval twoPow twoPow_pos twoPow_succ mul_twoPow_add_two)

/-- The integer `m` is nearest, and even if there is another one as near. -/
theorem roundHalfEven_eq {num den m : Nat} (hden : 0 < den)
    (hlow : 2 * (m * den) ≤ 2 * num + den) (hhigh : 2 * num ≤ 2 * (m * den) + den)
    (hodd : m % 2 = 1 → 2 * (m * den) < 2 * num + den ∧ 2 * num < 2 * (m * den) + den) :
    roundHalfEven num den = m := by
  have hdiv : den * (num / den) + num % den = num := Nat.div_add_mod num den
  have hmod : num % den < den := Nat.mod_lt _ hden
  unfold roundHalfEven
  dsimp only
  by_cases habove : m * den ≤ num
  · -- The quotient is `m`, and at most a half is left.
    have hquotient : num / den = m := by
      refine Nat.div_eq_of_lt_le habove ?_
      rw [Nat.succ_mul]
      omega
    rw [hquotient, Nat.mul_comm] at hdiv
    rw [hquotient, if_pos (by omega)]
  · -- The quotient is one less, and at least a half is left.
    have hpos : 0 < m := by
      rcases Nat.eq_zero_or_pos m with rfl | hpos
      · omega
      · exact hpos
    obtain ⟨less, rfl⟩ := Nat.exists_eq_add_one_of_ne_zero (Nat.ne_of_gt hpos)
    have hsucc : (less + 1) * den = less * den + den := Nat.succ_mul ..
    have hquotient : num / den = less := Nat.div_eq_of_lt_le (by omega) (by omega)
    rw [hquotient, Nat.mul_comm] at hdiv
    rw [hquotient, if_neg (by omega)]

theorem floorLog2_one {n : Nat} (hn : 0 < n) : floorLog2 n 1 = n.log2 := by
  unfold floorLog2
  dsimp only
  have hone : (Nat.log2 1 : Int) = 0 := by decide
  rw [hone, Int.sub_zero, if_pos]
  have hpow : twoPow (-(n.log2 : Int)).toNat = 1 := by
    rw [Int.toNat_of_nonpos (by omega)]
    rfl
  rw [hpow, Nat.one_mul, Nat.mul_one, Int.toNat_natCast]
  exact Nat.log2_self_le (Nat.ne_of_gt hn)

/-- An integer with 53 bits in front of `exponent` others is rounded behind those. -/
theorem ofInt_eq_pack {n exponent : Nat} (hlow : leastFull * twoPow exponent ≤ n)
    (hhigh : n < 2 * leastFull * twoPow exponent) :
    ofInt n = pack false (roundHalfEven n (twoPow exponent)) exponent := by
  have hpos : 0 < n :=
    Nat.lt_of_lt_of_le (Nat.mul_pos (by decide) (twoPow_pos exponent)) hlow
  have hlog : n.log2 = 52 + exponent := by
    rw [Nat.log2_eq_iff (Nat.ne_of_gt hpos)]
    constructor
    · calc 2 ^ (52 + exponent) = leastFull * twoPow exponent := Nat.pow_add 2 52 exponent
        _ ≤ n := hlow
    · calc n < 2 * leastFull * twoPow exponent := hhigh
        _ = 2 ^ (52 + exponent + 1) := by
          rw [Nat.pow_succ, Nat.pow_add, Nat.mul_comm _ 2, ← Nat.mul_assoc]
          rfl
  have hexponent : max (floorLog2 n 1 - 52) minExponent = (exponent : Int) := by
    rw [floorLog2_one hpos, hlog]
    unfold minExponent
    omega
  have hunit : twoPow (-(exponent : Int)).toNat = 1 := by
    rw [Int.toNat_of_nonpos (by omega)]
    rfl
  have hsign : decide ((n : Int) < 0) = false := by
    rw [decide_eq_false_iff_not]
    omega
  unfold ofInt ofFraction
  rw [Int.natAbs_natCast, if_neg (Nat.ne_of_gt hpos)]
  dsimp only
  rw [hexponent, hunit, hsign, Nat.mul_one, Nat.one_mul, Int.toNat_natCast]

theorem pack_eq {significand : Nat} {exponent : Int} (negative : Bool)
    (hbound : significand < 2 * leastFull) (hexponent : exponent ≤ maxExponent) :
    pack negative significand exponent = .finite negative significand exponent := by
  unfold pack
  rw [if_neg (Nat.ne_of_lt hbound)]
  exact if_neg (Int.not_lt.mpr hexponent)

theorem pack_two_mul_leastFull {exponent : Int} (negative : Bool)
    (hexponent : exponent + 1 ≤ maxExponent) :
    pack negative (2 * leastFull) exponent = .finite negative leastFull (exponent + 1) := by
  unfold pack
  rw [if_pos rfl]
  exact if_neg (Int.not_lt.mpr hexponent)

/-- An integer becomes a double of 53 bits, which is the next power of two if they are carried
over. -/
theorem exists_ofInt_eq {n exponent : Nat} (hlow : leastFull * twoPow (exponent + 2) ≤ n)
    (hhigh : n < 2 * leastFull * twoPow (exponent + 2))
    (hexponent : ((exponent + 3 : Nat) : Int) ≤ maxExponent) :
    ∃ significand exponent' : Nat,
      ofInt n = .finite false significand ((exponent' + 2 : Nat) : Int) ∧
        leastFull ≤ significand ∧ significand < 2 * leastFull ∧
          (exponent' = exponent ∨ significand = leastFull ∧ exponent' = exponent + 1) := by
  have hunit := twoPow_pos (exponent + 2)
  have hleast : leastFull ≤ n / twoPow (exponent + 2) := (Nat.le_div_iff_mul_le hunit).mpr hlow
  have hmost : n / twoPow (exponent + 2) < 2 * leastFull := (Nat.div_lt_iff_lt_mul hunit).mpr hhigh
  have hbounds : leastFull ≤ roundHalfEven n (twoPow (exponent + 2)) ∧
      roundHalfEven n (twoPow (exponent + 2)) ≤ 2 * leastFull := by
    unfold roundHalfEven
    dsimp only
    split <;> omega
  rw [ofInt_eq_pack hlow hhigh]
  rcases Nat.lt_or_eq_of_le hbounds.2 with hless | hcarry
  · exact ⟨_, exponent, pack_eq false hless (by omega), hbounds.1, hless, Or.inl rfl⟩
  · refine ⟨leastFull, exponent + 1, ?_, Nat.le_refl _, by decide, Or.inr ⟨rfl, rfl⟩⟩
    rw [hcarry]
    exact pack_two_mul_leastFull false hexponent

/-- Below a power of two the doubles are closer to each other, and the last ones are carried
over. -/
theorem ofInt_eq_leastFull {n exponent : Nat} (hnear : (4 * leastFull - 1) * twoPow exponent ≤ n)
    (hbelow : n < leastFull * twoPow (exponent + 2))
    (hexponent : ((exponent + 2 : Nat) : Int) ≤ maxExponent) :
    ofInt n = .finite false leastFull ((exponent + 2 : Nat) : Int) := by
  have hmany : twoPow exponent ≤ leastFull * twoPow exponent :=
    Nat.le_mul_of_pos_left _ (by decide)
  have hhalf (m : Nat) : m * twoPow (exponent + 1) = 2 * (m * twoPow exponent) := by
    rw [twoPow_succ, Nat.mul_left_comm]
  rw [Nat.sub_mul, Nat.mul_assoc] at hnear
  rw [mul_twoPow_add_two] at hbelow
  have hfrom : leastFull * twoPow (exponent + 1) ≤ n := by
    rw [hhalf]
    omega
  have hto : n < 2 * leastFull * twoPow (exponent + 1) := by
    rw [Nat.mul_assoc, hhalf]
    omega
  have hround : roundHalfEven n (twoPow (exponent + 1)) = 2 * leastFull := by
    apply roundHalfEven_eq (twoPow_pos _)
    all_goals
      rw [Nat.mul_assoc 2, hhalf, twoPow_succ]
      omega
  rw [ofInt_eq_pack hfrom hto, hround]
  exact pack_two_mul_leastFull false hexponent

section Interval

variable {significand exponent n : Nat} (hfull : leastFull ≤ significand)
  (hhas : (Interval.whole significand exponent).has (twoPow exponent) n = true)

include hhas in
/-- The interval reaches no further than half way to the next doubles. -/
theorem bounds_of_has :
    4 * (significand * twoPow exponent) ≤ n + 2 * twoPow exponent ∧
      n ≤ 4 * (significand * twoPow exponent) + 2 * twoPow exponent ∧
      (significand % 2 = 1 → 4 * (significand * twoPow exponent) < n + 2 * twoPow exponent ∧
        n < 4 * (significand * twoPow exponent) + 2 * twoPow exponent) := by
  obtain ⟨hlow, hhigh, hopen⟩ := Interval.bounds_of_has hhas
  have hleft := Nat.mul_le_mul_right (twoPow exponent)
    (Interval.low_whole_bounds significand exponent).1
  rw [Nat.sub_mul, Nat.mul_assoc] at hleft
  rw [Interval.closed_whole, decide_eq_false_iff_not, Interval.high_whole] at hopen
  rw [Interval.high_whole] at hhigh
  rw [Nat.add_mul, Nat.mul_assoc] at hhigh hopen
  refine ⟨by omega, hhigh, fun hodd => ?_⟩
  have hstrict := hopen (by omega)
  omega

include hfull hhas

/-- An integer in the interval of a whole double is rounded to it. -/
theorem ofInt_of_has (hbound : significand < 2 * leastFull)
    (hexponent : ((exponent + 2 : Nat) : Int) ≤ maxExponent) :
    ofInt n = .finite false significand ((exponent + 2 : Nat) : Int) := by
  obtain ⟨hlow, hhigh, hopen⟩ := bounds_of_has hhas
  have hunit := twoPow_pos exponent
  have hquarter : twoPow (exponent + 2) = 4 * twoPow exponent := by
    rw [twoPow_succ, twoPow_succ, ← Nat.mul_assoc]
  by_cases habove : leastFull * twoPow (exponent + 2) ≤ n
  · have hless : (significand + 1) * twoPow exponent ≤ 2 * leastFull * twoPow exponent :=
      Nat.mul_le_mul_right _ hbound
    have hbelow : n < 2 * leastFull * twoPow (exponent + 2) := by
      rw [Nat.succ_mul] at hless
      rw [mul_twoPow_add_two]
      omega
    have hround : roundHalfEven n (twoPow (exponent + 2)) = significand := by
      apply roundHalfEven_eq (twoPow_pos _)
      all_goals
        rw [mul_twoPow_add_two, hquarter]
        omega
    rw [ofInt_eq_pack habove hbelow, hround, pack_eq false hbound hexponent]
  · rcases Nat.lt_or_eq_of_le hfull with hmore | hpower
    · have hmore' : (leastFull + 1) * twoPow exponent ≤ significand * twoPow exponent :=
        Nat.mul_le_mul_right _ hmore
      rw [Nat.succ_mul] at hmore'
      rw [mul_twoPow_add_two] at habove
      omega
    · subst hpower
      have hnear := (Interval.bounds_of_has hhas).1
      rw [Interval.low_whole_leastFull] at hnear
      exact ofInt_eq_leastFull hnear (Nat.not_le.mp habove) hexponent

end Interval

end Binary64
end QueryArtifacts
