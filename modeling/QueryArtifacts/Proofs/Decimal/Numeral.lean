import QueryArtifacts.Decimal.Layout

/-!
# Characters of written numbers

Digits, signs, a point and the letter of an exponent: a written number holds nothing else, unless
its layout puts something behind a whole number.

* `IsNumeral` — a text of such characters only.
* `isNumeral_natText`, `isNumeral_intText` — whole numbers.
* `Layout.isNumeral_text` — numbers of double precision.
-/

namespace QueryArtifacts
namespace Decimal

/-- Whether a character can stand in a written number. -/
def isNumeralChar (c : Char) : Bool :=
  c.isDigit || c = '-' || c = '+' || c = '.' || c = 'e'

/-- A text holds characters of written numbers only. -/
def IsNumeral (text : String) : Prop :=
  ∀ c ∈ text.toList, isNumeralChar c = true

instance (text : String) : Decidable (IsNumeral text) :=
  List.decidableBAll (fun c => isNumeralChar c = true) text.toList

namespace IsNumeral

theorem ofList {cs : List Char} (hcs : ∀ c ∈ cs, isNumeralChar c = true) :
    IsNumeral (String.ofList cs) := by
  rwa [IsNumeral, String.toList_ofList]

theorem append {s t : String} (hs : IsNumeral s) (ht : IsNumeral t) : IsNumeral (s ++ t) := by
  intro c hc
  rw [String.toList_append, List.mem_append] at hc
  exact hc.elim (hs c) (ht c)

end IsNumeral

theorem isNumeralChar_of_mem_digits {n : Nat} {c : Char} (hc : c ∈ digits n) :
    isNumeralChar c = true := by
  have hdigit : c.isDigit = true := Nat.isDigit_of_mem_toDigits (by decide) (by decide) hc
  simp [isNumeralChar, hdigit]

theorem isNumeralChar_of_mem_replicate {n : Nat} {c : Char} (hc : c ∈ List.replicate n '0') :
    isNumeralChar c = true := by
  rw [List.eq_of_mem_replicate hc]
  decide

theorem isNumeral_natText (n : Nat) : IsNumeral (natText n) :=
  .ofList fun _ => isNumeralChar_of_mem_digits

theorem isNumeral_intText (value : Int) : IsNumeral (intText value) := by
  cases value with
  | ofNat n => exact isNumeral_natText n
  | negSucc n =>
      refine .ofList fun c hc => ?_
      rcases List.mem_cons.mp hc with rfl | hdigit
      · decide
      · exact isNumeralChar_of_mem_digits hdigit

theorem isNumeral_positionalText {ending : String} (hending : IsNumeral ending) {ds : List Char}
    (hds : ∀ c ∈ ds, isNumeralChar c = true) (power : Int) :
    IsNumeral (positionalText ending ds power) := by
  unfold positionalText
  split
  · refine IsNumeral.append (.ofList fun c hc => ?_) hending
    rcases List.mem_append.mp hc with hdigit | hzero
    · exact hds c hdigit
    · exact isNumeralChar_of_mem_replicate hzero
  · have hfilled : ∀ d ∈ List.replicate ((-power).toNat + 1 - ds.length) '0' ++ ds,
        isNumeralChar d = true := by
      intro d hd
      rcases List.mem_append.mp hd with hzero | hdigit
      · exact isNumeralChar_of_mem_replicate hzero
      · exact hds d hdigit
    refine .ofList fun c hc => ?_
    rcases List.mem_append.mp hc with hwhole | hrest
    · exact hfilled c (List.mem_of_mem_take hwhole)
    · rcases List.mem_cons.mp hrest with rfl | hplaces
      · decide
      · exact hfilled c (List.mem_of_mem_drop hplaces)

theorem isNumeral_scientificText {ds : List Char} (hds : ∀ c ∈ ds, isNumeralChar c = true)
    (exponent : Int) : IsNumeral (scientificText ds exponent) := by
  have hsign : IsNumeral (if exponent < 0 then "e-" else "e+") := by
    split <;> decide
  refine IsNumeral.append (IsNumeral.append ?_ hsign) (isNumeral_natText _)
  rcases ds with _ | ⟨first, _ | ⟨second, more⟩⟩
  · decide
  · exact .ofList hds
  · rw [List.forall_mem_cons] at hds
    refine .ofList ?_
    rw [List.forall_mem_cons, List.forall_mem_cons]
    exact ⟨hds.1, by decide, hds.2⟩

/-- A written number, if the layout puts no other characters behind whole numbers. -/
theorem Layout.isNumeral_text {layout : Layout} (hending : IsNumeral layout.wholeEnding)
    (negative : Bool) (significand : Nat) (exponent : Int) :
    IsNumeral (layout.text negative significand exponent) := by
  refine IsNumeral.append (by cases negative <;> decide) ?_
  unfold magnitudeText
  split
  · exact IsNumeral.append (by decide) hending
  · dsimp only
    split
    · exact isNumeral_positionalText hending (fun _ => isNumeralChar_of_mem_digits) _
    · exact isNumeral_scientificText (fun _ => isNumeralChar_of_mem_digits) _

end Decimal
end QueryArtifacts
