import QueryArtifacts.Proofs.Text.Markers
import QueryArtifacts.Template.Block

/-!
# Where a body is cut

The cut finds a block exactly where it was put, as long as no earlier marker stands in the way.  The
markers are pairs of one character, so that the last character before one can complete it too early.

* `Gap`, `Inside` — what may stand before a block and between its braces.
* `cut_append_block` — the first block of a body, and the cut of what follows.
* `gap_and_inside_of_mem_cut` — every block of a cut stands between such texts.
* `cut_text` — a text that is put together from such pieces is cut into them.
* `cut_append` — the cut of two texts that follow one another.
-/

namespace QueryArtifacts

namespace Template

/-- A text that can stand before a block: it holds no opening and does not end in half of one. -/
def Gap (s : List Char) : Prop :=
  Text.splitAtPair '\x7b' '\x7b' (s ++ ['\x7b']) = none

/-- A text that can stand inside a block: it holds no closing and does not end in half of one. -/
def Inside (s : List Char) : Prop :=
  Text.splitAtPair '\x7d' '\x7d' (s ++ ['\x7d']) = none

theorem gap_iff {s : List Char} :
    Gap s ↔ Text.splitAtPair '\x7b' '\x7b' s = none ∧ s.getLast? ≠ some '\x7b' :=
  Text.splitAtPair_concat_eq_none_iff

theorem gap_of_not_mem {s : List Char} (hs : '\x7b' ∉ s) : Gap s :=
  gap_iff.mpr ⟨Text.splitAtPair_of_not_mem hs, fun hlast => hs (List.mem_of_getLast? hlast)⟩

theorem Gap.append {s t : List Char} (hs : Gap s) (ht : Gap t) : Gap (s ++ t) := by
  rw [gap_iff] at hs
  rw [Gap, List.append_assoc, Text.splitAtPair_append_of_getLast? hs.1 hs.2, ht]
  rfl

/-! ## The first block -/

theorem cut_of_unopened {body : List Char}
    (hopen : Text.splitAtPair '\x7b' '\x7b' body = none) : cut body = ⟨[], body⟩ := by
  rw [cut]
  split
  · rfl
  · rename_i hfound
    rw [hopen] at hfound
    cases hfound

theorem cut_of_opened {body gap rest : List Char}
    (hopen : Text.splitAtPair '\x7b' '\x7b' body = some (gap, rest)) :
    cut body =
      match Text.splitAtPair '\x7d' '\x7d' rest with
      | none => ⟨[], body⟩
      | some (inside, after) => ⟨(gap, inside) :: (cut after).blocks, (cut after).tail⟩ := by
  rw [cut]
  split
  · rename_i hnone
    rw [hopen] at hnone
    cases hnone
  · rename_i hfound
    rw [hopen] at hfound
    cases hfound
    split <;> rename_i hclose <;> simp only [hclose]

theorem cut_of_not_mem {body : List Char} (hbody : '\x7b' ∉ body) : cut body = ⟨[], body⟩ :=
  cut_of_unopened (Text.splitAtPair_of_not_mem hbody)

/-- The first block of a body is found where it was put. -/
theorem cut_append_block {gap inside : List Char} (hgap : Gap gap) (hinside : Inside inside)
    (rest : List Char) :
    cut (gap ++ blockText inside ++ rest) =
      ⟨(gap, inside) :: (cut rest).blocks, (cut rest).tail⟩ := by
  have hbody : gap ++ blockText inside ++ rest =
      gap ++ '\x7b' :: '\x7b' :: (inside ++ '\x7d' :: '\x7d' :: rest) := by
    simp [blockText]
  rw [hbody, cut_of_opened (Text.splitAtPair_append hgap _), Text.splitAtPair_append hinside]

/-- A body that is one block. -/
theorem cut_blockText {inside : List Char} (hinside : Inside inside) :
    cut (blockText inside) = ⟨[([], inside)], []⟩ := by
  have hblock := cut_append_block (gap_of_not_mem List.not_mem_nil) hinside []
  rwa [List.nil_append, List.append_nil, cut_of_not_mem List.not_mem_nil] at hblock

/-- No marker is completed before the place where a block of a cut was found. -/
theorem gap_and_inside_of_mem_cut {body : List Char} :
    ∀ block ∈ (cut body).blocks, Gap block.1 ∧ Inside block.2 := by
  fun_induction cut body with
  | case1 => exact fun _ hmem => absurd hmem List.not_mem_nil
  | case2 => exact fun _ hmem => absurd hmem List.not_mem_nil
  | case3 body gap rest hopen inside after hclose more ih =>
      rw [List.forall_mem_cons]
      exact ⟨⟨Text.concat_eq_none_of_splitAtPair hopen,
        Text.concat_eq_none_of_splitAtPair hclose⟩, ih⟩

/-! ## All blocks -/

theorem text_cons_block (gap inside : List Char) (more : List (List Char × List Char))
    (tail : List Char) :
    (⟨(gap, inside) :: more, tail⟩ : Cut).text =
      gap ++ (blockText inside ++ (⟨more, tail⟩ : Cut).text) := by
  simp [Cut.text]

theorem text_append_block (before : List (List Char × List Char)) (gap inside : List Char)
    (after : List (List Char × List Char)) (tail : List Char) :
    (⟨before ++ (gap, inside) :: after, tail⟩ : Cut).text =
      (⟨before, gap⟩ : Cut).text ++ (blockText inside ++ (⟨after, tail⟩ : Cut).text) := by
  simp [Cut.text]

/-- A text that is put together from pieces between which no marker is completed is cut into
them. -/
theorem cut_text {blocks : List (List Char × List Char)}
    (hblocks : ∀ block ∈ blocks, Gap block.1 ∧ Inside block.2) {tail : List Char}
    (htail : cut tail = ⟨[], tail⟩) : cut (⟨blocks, tail⟩ : Cut).text = ⟨blocks, tail⟩ := by
  induction blocks with
  | nil => exact htail
  | cons block more ih =>
      obtain ⟨gap, inside⟩ := block
      rw [List.forall_mem_cons] at hblocks
      rw [text_cons_block, ← List.append_assoc, cut_append_block hblocks.1.1 hblocks.1.2,
        ih hblocks.2]

/-- Behind the last block of a cut there is no further one. -/
theorem cut_tail (body : List Char) : cut (cut body).tail = ⟨[], (cut body).tail⟩ := by
  fun_induction cut body with
  | case1 body hopen => exact cut_of_unopened hopen
  | case2 body gap rest hopen hclose => rw [cut_of_opened hopen, hclose]
  | case3 body gap rest hopen inside after hclose more ih => exact ih

/-! ## Texts that follow one another -/

/-- A cut with a text put in front of it: the text joins the first gap, or the tail. -/
def Cut.behind (front : List Char) : Cut → Cut
  | ⟨[], tail⟩ => ⟨[], front ++ tail⟩
  | ⟨(gap, inside) :: more, tail⟩ => ⟨(front ++ gap, inside) :: more, tail⟩

/-- A text that can stand before a block does so, whatever follows. -/
theorem cut_append_of_gap {front : List Char} (hfront : Gap front) (rest : List Char) :
    cut (front ++ rest) = (cut rest).behind front := by
  rw [gap_iff] at hfront
  have hsplit := Text.splitAtPair_append_of_getLast? hfront.1 hfront.2 rest
  cases hopen : Text.splitAtPair '\x7b' '\x7b' rest with
  | none =>
      rw [hopen] at hsplit
      rw [cut_of_unopened hopen, cut_of_unopened hsplit]
      rfl
  | some parts =>
      rw [hopen] at hsplit
      rw [cut_of_opened hopen, cut_of_opened hsplit]
      cases Text.splitAtPair '\x7d' '\x7d' parts.2 <;> rfl

/-- Behind a text whose last piece can stand before a block, the cut begins anew. -/
theorem cut_append {body : List Char} (htail : Gap (cut body).tail) (rest : List Char) :
    cut (body ++ rest) =
      ⟨(cut body).blocks ++ ((cut rest).behind (cut body).tail).blocks,
        ((cut rest).behind (cut body).tail).tail⟩ := by
  fun_induction cut body with
  | case1 body hopen => exact cut_append_of_gap htail rest
  | case2 body gap _ hopen hclose => exact cut_append_of_gap htail rest
  | case3 body gap more hopen inside after hclose _ ih =>
      have hbody : body ++ rest = gap ++ blockText inside ++ (after ++ rest) := by
        rw [Text.eq_append_of_splitAtPair hopen, Text.eq_append_of_splitAtPair hclose]
        simp [blockText]
      rw [hbody, cut_append_block (Text.concat_eq_none_of_splitAtPair hopen)
        (Text.concat_eq_none_of_splitAtPair hclose), ih htail]
      rfl

end Template
end QueryArtifacts
