import QueryArtifacts.Decimal.Digits

/-!
# Digits and powers of ten

* `intText_injective`, `intText_eq_toString` — the texts of integers.
* `digits_mul_tenPow` — a power of ten puts zeros behind the digits.
* `tenPow_le_iff` — the count of the digits is the size of a number.
-/

namespace QueryArtifacts
namespace Decimal

/-! ## Powers -/

theorem tenPow_succ (power : Nat) : tenPow (power + 1) = 10 * tenPow power :=
  Nat.mul_comm ..

theorem twoPow_succ (power : Nat) : twoPow (power + 1) = 2 * twoPow power :=
  Nat.mul_comm ..

theorem tenPow_add_sixteen (power : Nat) :
    tenPow (power + 16) = 10000000000000000 * tenPow power := by
  rw [Nat.mul_comm]
  exact Nat.pow_add 10 power 16

theorem mul_twoPow_add_two (significand exponent : Nat) :
    significand * twoPow (exponent + 2) = 4 * (significand * twoPow exponent) := by
  rw [twoPow_succ, twoPow_succ, ← Nat.mul_assoc 2, Nat.mul_left_comm]

/-! ## Texts of integers -/

theorem digits_injective {m n : Nat} (hdigits : digits m = digits n) : m = n := by
  calc m = Nat.ofDigitChars 10 (digits m) 0 := Nat.ofDigitChars_ten_toDigits.symm
    _ = Nat.ofDigitChars 10 (digits n) 0 := by rw [hdigits]
    _ = n := Nat.ofDigitChars_ten_toDigits

theorem intText_injective {m n : Int} (htext : intText m = intText n) : m = n := by
  have hminus (k l : Nat) : '-' :: digits k ≠ digits l := by
    intro hdigits
    have hdigit : '-'.isDigit = true :=
      Nat.isDigit_of_mem_toDigits (by decide) (by decide) (hdigits ▸ List.mem_cons_self ..)
    exact absurd hdigit (by decide)
  cases m with
  | ofNat m =>
      cases n with
      | ofNat n => rw [digits_injective (String.ofList_injective htext)]
      | negSucc n => exact absurd (String.ofList_injective htext).symm (hminus _ _)
  | negSucc m =>
      cases n with
      | ofNat n => exact absurd (String.ofList_injective htext) (hminus _ _)
      | negSucc n =>
          have hdigits := (List.cons.inj (String.ofList_injective htext)).2
          rw [Nat.succ.inj (digits_injective hdigits)]

theorem intText_eq_toString (n : Int) : intText n = toString n := by
  have hnat (k : Nat) : natText k = k.repr := Nat.repr_eq_ofList_toDigits.symm
  rw [Int.toString_eq_repr]
  cases n with
  | ofNat n => exact hnat n
  | negSucc n =>
      change String.ofList (['-'] ++ digits (n + 1)) = "-" ++ (n + 1).repr
      rw [String.ofList_append, ← hnat]
      rfl

/-! ## Size -/

/-- A power of ten puts zeros behind the digits. -/
theorem digits_mul_tenPow {n : Nat} (hn : 0 < n) (power : Nat) :
    digits (n * tenPow power) = digits n ++ List.replicate power '0' := by
  induction power with
  | zero =>
      change digits (n * 1) = _
      rw [Nat.mul_one, List.replicate_zero, List.append_nil]
  | succ power ih =>
      have hten : n * tenPow (power + 1) = 10 * (n * tenPow power) + 0 := by
        rw [tenPow_succ, Nat.mul_left_comm, Nat.add_zero]
      have hpos : 0 < n * tenPow power := Nat.mul_pos hn (tenPow_pos power)
      rw [hten, digits, ← Nat.toDigits_append_toDigits (by decide) hpos (by decide)]
      change digits (n * tenPow power) ++ ['0'] = _
      rw [ih, List.append_assoc, ← List.replicate_succ']

theorem tenPow_le_iff {n : Nat} (hn : 0 < n) (power : Nat) :
    tenPow power ≤ n ↔ power < (digits n).length := by
  rcases Nat.eq_zero_or_pos power with rfl | hpos
  · exact iff_of_true hn Nat.length_toDigits_pos
  · rw [← Nat.not_le, digits, Nat.length_toDigits_le_iff (by decide) hpos, Nat.not_lt]
    rfl

end Decimal
end QueryArtifacts
