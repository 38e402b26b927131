import QueryArtifacts.Text.Split

/-!
# Finding markers

The splitters find a marker exactly where it was put, as long as no earlier one stands in the way.
With a marker of two equal characters, the last character before it can complete it too early: the
condition on a text `s` is that `s`, with one half of the marker behind it, holds no marker.

* `splitAtPair_append` — the first pair is found where it was put.
* `splitAtPair_append_of_getLast?` — the search passes over a text that brings in no pair.
* `splitAtPair_eq_none_iff` — there is no pair to be found.
* `splitAtChar_append` — the first character is found where it was put.
-/

namespace QueryArtifacts
namespace Text

/-! ## Pairs -/

section Pairs

variable {a b : Char}

theorem splitAtPair_of_not_mem {s : List Char} (hs : a ∉ s) : splitAtPair a b s = none := by
  fun_induction splitAtPair a b s with
  | case1 => rfl
  | case2 => rfl
  | case3 x y rest hxy =>
      obtain ⟨rfl, -⟩ := hxy
      exact absurd (List.mem_cons_self ..) hs
  | case4 x y rest hxy ih =>
      rw [ih fun hmem => hs (List.mem_cons_of_mem x hmem)]
      rfl

/-- A marker behind a text without one is the first one. -/
theorem splitAtPair_append {s : List Char} (hs : splitAtPair a b (s ++ [a]) = none)
    (t : List Char) : splitAtPair a b (s ++ a :: b :: t) = some (s, t) := by
  induction s with
  | nil => simp [splitAtPair]
  | cons x rest ih =>
      -- The split looks at the first two characters, so `rest` has to show its first one.
      have hstep : ∀ y more, rest ++ [a] = y :: more →
          ¬ (x = a ∧ y = b) ∧ splitAtPair a b (rest ++ [a]) = none := by
        intro y more hrest
        rw [List.cons_append, hrest, splitAtPair] at hs
        split at hs
        · cases hs
        · rename_i hxy
          rw [hrest]
          exact ⟨hxy, Option.map_eq_none_iff.mp hs⟩
      cases rest with
      | nil =>
          obtain ⟨hxa, hnone⟩ := hstep a [] rfl
          simp only [List.cons_append, List.nil_append]
          rw [splitAtPair, if_neg hxa]
          rw [show splitAtPair a b (a :: b :: t) = some ([], t) by simp [splitAtPair]]
          rfl
      | cons y more =>
          obtain ⟨hxy, hnone⟩ := hstep y (more ++ [a]) rfl
          have htail := ih hnone
          simp only [List.cons_append] at htail ⊢
          rw [splitAtPair, if_neg hxy, htail]
          rfl

/-- There is no marker to split at if the marker does not occur. -/
theorem splitAtPair_eq_none_iff {s : List Char} :
    splitAtPair a b s = none ↔ ¬ [a, b] <:+: s := by
  fun_induction splitAtPair a b s with
  | case1 => simp
  | case2 x =>
      refine iff_of_true rfl fun hinfix => ?_
      have hlength := hinfix.length_le
      simp at hlength
  | case3 x y rest hxy =>
      obtain ⟨rfl, rfl⟩ := hxy
      exact iff_of_false (by simp) (not_not_intro ⟨[], rest, rfl⟩)
  | case4 x y rest hxy ih =>
      have hstart : ¬ [a, b] <+: x :: y :: rest := by
        intro hfront
        rw [List.cons_prefix_cons, List.cons_prefix_cons] at hfront
        exact hxy ⟨hfront.1.symm, hfront.2.1.symm⟩
      rw [Option.map_eq_none_iff, ih]
      refine ⟨fun hrest hinfix => ?_, fun hnone hinfix => hnone (List.infix_cons hinfix)⟩
      rcases List.infix_cons_iff.mp hinfix with hfront | hlater
      · exact hstart hfront
      · exact hrest hlater

/-- What stands before a marker does not complete it, unless it ends in half of one. -/
theorem splitAtPair_concat_eq_none_iff {s : List Char} :
    splitAtPair a a (s ++ [a]) = none ↔ splitAtPair a a s = none ∧ s.getLast? ≠ some a := by
  induction s with
  | nil => simp [splitAtPair]
  | cons x rest ih =>
      cases rest with
      | nil => simp [splitAtPair]
      | cons y more =>
          simp only [List.cons_append, splitAtPair] at ih ⊢
          by_cases hxy : x = a ∧ y = a
          · simp [hxy]
          · rw [if_neg hxy, if_neg hxy, Option.map_eq_none_iff, Option.map_eq_none_iff, ih,
              List.getLast?_cons_cons]

/-- A text without a marker, and without half of one at its end, stays in front of the first
marker. -/
theorem splitAtPair_append_of_getLast? {s : List Char} (hs : splitAtPair a b s = none)
    (hlast : s.getLast? ≠ some a) (t : List Char) :
    splitAtPair a b (s ++ t) =
      (splitAtPair a b t).map fun (before, after) => (s ++ before, after) := by
  fun_induction splitAtPair a b s with
  | case1 => simp
  | case2 x =>
      have hx : x ≠ a := by simpa using hlast
      cases t with
      | nil => rfl
      | cons y rest =>
          rw [List.singleton_append, splitAtPair, if_neg fun hxy => hx hxy.1]
          rfl
  | case3 => cases hs
  | case4 x y rest hxy ih =>
      rw [List.getLast?_cons_cons] at hlast
      have hmore := ih (Option.map_eq_none_iff.mp hs) hlast
      rw [List.cons_append, List.cons_append, splitAtPair, if_neg hxy, ← List.cons_append, hmore,
        Option.map_map]
      rfl

/-- Text without a first half, put in front, brings in no marker. -/
theorem splitAtPair_append_left {s t : List Char} (hs : a ∉ s) (ht : splitAtPair a b t = none) :
    splitAtPair a b (s ++ t) = none := by
  rw [splitAtPair_eq_none_iff] at ht ⊢
  induction s with
  | nil => exact ht
  | cons x rest ih =>
      rw [List.mem_cons, not_or] at hs
      rw [List.cons_append, List.infix_cons_iff, not_or]
      exact ⟨fun hfront => hs.1 (List.cons_prefix_cons.mp hfront).1, ih hs.2⟩

/-- Text without a second half, put behind, brings in no marker. -/
theorem splitAtPair_append_right {s t : List Char} (hs : splitAtPair a b s = none) (ht : b ∉ t) :
    splitAtPair a b (s ++ t) = none := by
  -- Read backwards, the second half is the first.
  have hmirror : ∀ u : List Char, splitAtPair b a u.reverse = none ↔ splitAtPair a b u = none := by
    intro u
    rw [splitAtPair_eq_none_iff, splitAtPair_eq_none_iff, ← List.reverse_infix]
    simp
  rw [← hmirror, List.reverse_append]
  exact splitAtPair_append_left (by simpa using ht) ((hmirror s).mpr hs)

/-- What stands before the first marker holds none, even with half of one behind it. -/
theorem concat_eq_none_of_splitAtPair {s before after : List Char}
    (hsplit : splitAtPair a b s = some (before, after)) :
    splitAtPair a b (before ++ [a]) = none := by
  fun_induction splitAtPair a b s generalizing before after with
  | case1 => cases hsplit
  | case2 => cases hsplit
  | case3 x y rest hxy =>
      cases hsplit
      rfl
  | case4 x y rest hxy ih =>
      obtain ⟨⟨more, after⟩, hsub, heq⟩ := Option.map_eq_some_iff.mp hsplit
      cases heq
      -- The next character is that of the text, or half of the marker that was found.
      have hnext : ∃ others, more ++ [a] = y :: others := by
        have hrest := eq_append_of_splitAtPair hsub
        cases more with
        | nil => exact ⟨[], by rw [List.nil_append, (List.cons.inj hrest).1]⟩
        | cons z others => exact ⟨others ++ [a], by rw [List.cons_append, (List.cons.inj hrest).1]⟩
      obtain ⟨others, hothers⟩ := hnext
      rw [List.cons_append, hothers, splitAtPair, if_neg hxy, ← hothers, ih hsub]
      rfl

/-- What stands behind a marker stands behind the first one. -/
theorem suffix_of_splitAtPair_append {s t before after : List Char}
    (hsplit : splitAtPair a b (s ++ a :: b :: t) = some (before, after)) : t <:+ after := by
  cases hs : splitAtPair a b (s ++ [a]) with
  | none =>
      rw [splitAtPair_append hs] at hsplit
      cases hsplit
      exact List.suffix_rfl
  | some parts =>
      -- There is an earlier one, and the text up to its second half is the same.
      obtain ⟨earlier, more⟩ := parts
      have htext : s ++ a :: b :: t = earlier ++ a :: b :: (more ++ b :: t) := by
        rw [List.append_cons, eq_append_of_splitAtPair hs]
        simp
      rw [htext, splitAtPair_append (concat_eq_none_of_splitAtPair hs)] at hsplit
      cases hsplit
      exact ⟨more ++ [b], by simp⟩

end Pairs

/-! ## Characters -/

section Characters

variable {a : Char}

theorem splitAtChar_of_not_mem {s : List Char} (hs : a ∉ s) : splitAtChar a s = none := by
  cases hsplit : splitAtChar a s with
  | none => rfl
  | some parts =>
      rw [eq_append_of_splitAtChar hsplit] at hs
      exact absurd (List.mem_append_right _ (List.mem_cons_self ..)) hs

/-- A marker behind a text without it is the first one. -/
theorem splitAtChar_append {s : List Char} (hs : a ∉ s) (t : List Char) :
    splitAtChar a (s ++ a :: t) = some (s, t) := by
  induction s with
  | nil => simp [splitAtChar]
  | cons c rest ih =>
      rw [List.mem_cons, not_or] at hs
      rw [List.cons_append, splitAtChar, if_neg (Ne.symm hs.1), ih hs.2]
      rfl

/-- What stands before the first marker holds none. -/
theorem not_mem_of_splitAtChar {s before after : List Char}
    (hsplit : splitAtChar a s = some (before, after)) : a ∉ before := by
  fun_induction splitAtChar a s generalizing before after with
  | case1 => cases hsplit
  | case2 rest =>
      cases hsplit
      exact List.not_mem_nil
  | case3 c rest hc ih =>
      obtain ⟨⟨more, after⟩, hsub, heq⟩ := Option.map_eq_some_iff.mp hsplit
      cases heq
      rw [List.mem_cons, not_or]
      exact ⟨Ne.symm hc, ih hsub⟩

theorem splitAtChar_eq_none_iff {s : List Char} : splitAtChar a s = none ↔ a ∉ s := by
  refine ⟨fun hnone hmem => ?_, splitAtChar_of_not_mem⟩
  obtain ⟨before, after, hs, hbefore⟩ := List.eq_append_cons_of_mem hmem
  rw [hs, splitAtChar_append hbefore] at hnone
  cases hnone

end Characters

end Text
end QueryArtifacts
