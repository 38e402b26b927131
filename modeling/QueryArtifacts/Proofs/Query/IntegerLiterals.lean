import QueryArtifacts.Proofs.Decimal.RoundedIntegers

/-!
# Integers as literals

An integer that fits 64 bits with sign stands in SQL as it is.  An integer beyond them becomes a
double, and stands as the shortest decimal of the double: some integer that is rounded to the same
double, in general another one.

* `exists_sql_float_ofInt` — the text of an integer beyond 64 bits with sign.
* `sql_ofJson_int` — the texts of all integers of 64 bits, and when two of them have the same text.
-/

namespace QueryArtifacts
namespace Literal

open Binary64 (leastFull)
open Decimal (natText twoPow)

/-- The least integer beyond 64 bits with sign is written by an integer above it. -/
theorem floatText_leastFull :
    floatText (.finite false leastFull ((9 + 2 : Nat) : Int)) = natText 9223372036854776000 := by
  decide +kernel

/-- The text of the double is the text of an integer that is rounded to it, which is beyond 64 bits
with sign as well. -/
theorem exists_sql_float_ofInt {n : Nat} (hlow : 9223372036854775808 ≤ n)
    (hhigh : n < 18446744073709551616) :
    ∃ x : Nat, 9223372036854775808 ≤ x ∧ (Literal.float (.ofInt n)).sql = .ok (natText x) ∧
      Binary64.ofInt x = .ofInt n := by
  obtain ⟨significand, exponent, hdouble, hfull, hbound, hexponent⟩ :=
    @Binary64.exists_ofInt_eq n 9 hlow hhigh (by decide)
  obtain ⟨x, htext, hhas⟩ := Decimal.exists_floatText_has hfull hbound exponent
  have hrange : ((exponent + 2 : Nat) : Int) ≤ Binary64.maxExponent := by
    unfold Binary64.maxExponent
    omega
  rw [hdouble]
  refine ⟨x, ?_, congrArg Except.ok htext, Binary64.ofInt_of_has hfull hhas hbound hrange⟩
  have hnear := (Binary64.bounds_of_has hhas).1
  have hunit : twoPow 9 = 512 := rfl
  have hunit' : twoPow 10 = 1024 := rfl
  rcases hexponent with rfl | ⟨rfl, rfl⟩
  · rcases Nat.lt_or_eq_of_le hfull with hmore | hpower
    · rw [hunit] at hnear
      unfold leastFull at hmore
      omega
    · -- The interval reaches below the power of two here, but the shortest decimal lies above it.
      subst hpower
      have hx : natText x = natText 9223372036854776000 := htext.symm.trans floatText_leastFull
      rw [Decimal.digits_injective (String.ofList_injective hx)]
      decide
  · rw [hunit'] at hnear
    unfold leastFull at hnear
    omega

theorem ofJson_of_isInt64 {n : Int} (hn : Json.isInt64 n = true) : ofJson (.int n) = .int n := by
  rw [ofJson, if_pos hn]

theorem ofJson_of_beyond {n : Int} (hn : Json.isInt64 n = false) :
    ofJson (.int n) = .float (.ofInt n) := by
  rw [ofJson, if_neg (by simp [hn])]

/-- Of the integers of 64 bits, the sign excludes those of the upper half. -/
theorem exists_natCast_of_beyond {n : Int} (hn : Json.isUInt64 n = true)
    (hbeyond : Json.isInt64 n = false) :
    ∃ m : Nat, n = m ∧ 9223372036854775808 ≤ m ∧ m < 18446744073709551616 := by
  have hoverflow : ¬Json.isInt64 n = true := by simp [hbeyond]
  simp only [Json.isUInt64, Json.isInt64, Bool.and_eq_true, decide_eq_true_eq] at hn hoverflow
  exact ⟨n.toNat, by omega, by omega, by omega⟩

/-- Every integer of 64 bits has the text of an integer on the same side of the bound. -/
theorem exists_sql_ofJson {n : Int} (hn : Json.isInt64 n = true ∨ Json.isUInt64 n = true) :
    ∃ x : Int, (ofJson (.int n)).sql = .ok (Decimal.intText x) ∧
      Json.isInt64 x = Json.isInt64 n ∧ (Json.isInt64 n = true → x = n) ∧
      (Json.isInt64 n = false → Binary64.ofInt x = .ofInt n) := by
  cases hfits : Json.isInt64 n with
  | true =>
      rw [ofJson_of_isInt64 hfits]
      exact ⟨n, rfl, hfits, fun _ => rfl, fun _ => rfl⟩
  | false =>
      have hunsigned : Json.isUInt64 n = true := hn.resolve_left (by simp [hfits])
      obtain ⟨m, rfl, hlow, hhigh⟩ := exists_natCast_of_beyond hunsigned hfits
      obtain ⟨x, hx, htext, hround⟩ := exists_sql_float_ofInt hlow hhigh
      rw [ofJson_of_beyond hfits]
      refine ⟨x, htext, ?_, fun hcontra => absurd hcontra (by decide), fun _ => hround⟩
      simp only [Json.isInt64, Bool.and_eq_false_iff, decide_eq_false_iff_not]
      omega

/-- **Integers of 64 bits as literals.**  An integer that fits 64 bits with sign has its own decimal
text.  One beyond them has the text of an integer beyond them that is rounded to the same double.
So two integers have the same text only if they are the same, or both beyond 64 bits with sign and
rounded to the same double. -/
theorem sql_ofJson_int {n : Int} (hn : Json.isInt64 n = true ∨ Json.isUInt64 n = true) :
    (Json.isInt64 n = true → (ofJson (.int n)).sql = .ok (toString n)) ∧
      (Json.isInt64 n = false → ∃ x : Int, Json.isInt64 x = false ∧
        (ofJson (.int n)).sql = .ok (toString x) ∧ Binary64.ofInt x = .ofInt n) ∧
      ∀ other : Int, Json.isInt64 other = true ∨ Json.isUInt64 other = true →
        ((ofJson (.int n)).sql = (ofJson (.int other)).sql ↔
          n = other ∨ Json.isInt64 n = false ∧ Json.isInt64 other = false ∧
            Binary64.ofInt n = .ofInt other) := by
  simp only [← Decimal.intText_eq_toString]
  obtain ⟨x, htext, hside, hsame, hround⟩ := exists_sql_ofJson hn
  refine ⟨fun hfits => ?_, fun hbeyond => ?_, fun other hother => ⟨fun hequal => ?_, ?_⟩⟩
  · rw [htext, hsame hfits]
  · exact ⟨x, hside.trans hbeyond, htext, hround hbeyond⟩
  · obtain ⟨y, htext', hside', hsame', hround'⟩ := exists_sql_ofJson hother
    rw [htext, htext'] at hequal
    obtain rfl : x = y := Decimal.intText_injective (Except.ok.inj hequal)
    cases hfits : Json.isInt64 n with
    | true =>
        have hfits' : Json.isInt64 other = true := hside'.symm.trans (hside.trans hfits)
        exact Or.inl ((hsame hfits).symm.trans (hsame' hfits'))
    | false =>
        have hbeyond' : Json.isInt64 other = false := hside'.symm.trans (hside.trans hfits)
        exact Or.inr ⟨rfl, hbeyond', (hround hfits).symm.trans (hround' hbeyond')⟩
  · rintro (rfl | ⟨hbeyond, hbeyond', hdouble⟩)
    · rfl
    · rw [ofJson_of_beyond hbeyond, ofJson_of_beyond hbeyond', hdouble]

/-- The two integers on either side of the bound have different texts, and the next one beyond it
has the text of the first one there. -/
theorem sql_ofJson_int_bound :
    (ofJson (.int 9223372036854775807)).sql = .ok "9223372036854775807" ∧
      (ofJson (.int 9223372036854775807)).sql ≠ (ofJson (.int 9223372036854775808)).sql ∧
      (ofJson (.int 9223372036854775808)).sql = (ofJson (.int 9223372036854775809)).sql := by
  obtain ⟨hexact, -, hsame⟩ := @sql_ofJson_int 9223372036854775807 (Or.inl (by decide))
  obtain ⟨-, -, hsame'⟩ := @sql_ofJson_int 9223372036854775808 (Or.inr (by decide))
  refine ⟨hexact (by decide), ?_, (hsame' _ (Or.inr (by decide))).mpr (Or.inr ?_)⟩
  · rw [Ne, hsame _ (Or.inr (by decide))]
    decide
  · decide +kernel

/-- The greatest integer without sign has the text of another integer, as has the one below it. -/
theorem sql_ofJson_int_greatest :
    Json.isUInt64 18446744073709551615 = true ∧
      (ofJson (.int 18446744073709551615)).sql = .ok "18446744073709552000" ∧
      (ofJson (.int 18446744073709551614)).sql = .ok "18446744073709552000" :=
  ⟨rfl, congrArg Except.ok (by decide +kernel), congrArg Except.ok (by decide +kernel)⟩

end Literal
end QueryArtifacts
