import QueryArtifacts.Proofs.Project.Steps
import QueryArtifacts.Proofs.Template.Calls
import QueryArtifacts.Proofs.Template.Insertions

/-!
# Wrapping keeps the blocks

The conditions that wrapping puts in are made of braces themselves, and stand next to whatever the
body has there.  All the same they neither open nor end a block: each of them is a text that can
stand before a block, whatever surrounds it.  The blocks of a wrapped body are those of the body, so
that its tokens are the same and it can be wrapped again.

* `gap_opening`, `gap_ending` — a condition opens no block.
* `exists_frame_of_wrapBlock` — a wrapped block stands between two such texts.
* `cut_wrap` — the blocks of a wrapped body.
* `Token.content` — what a token says; `scan_wrap` — the tokens of a wrapped body.
-/

namespace QueryArtifacts
namespace Template

/-! ## Conditions -/

theorem gap_opening {name : String} (hname : IsIdentifier name.toList) :
    Gap ("\x7b% if defined(".toList ++ name.toList ++ ") %\x7d".toList) := by
  have hstart : Gap "\x7b% if defined(".toList := by
    rw [gap_iff]
    decide
  have hidentifier : Gap name.toList :=
    gap_of_not_mem (hname.not_mem (by decide))
  exact (hstart.append hidentifier).append (gap_of_not_mem (by decide))

theorem gap_ending : Gap "\x7b% end %\x7d".toList := by
  rw [gap_iff]
  decide

/-- What becomes of a block is the block, between two texts that open none. -/
theorem exists_frame_of_wrapBlock {parameters : Parameters} {inside wrapped : List Char}
    (hwrap : wrapBlock parameters inside = .ok wrapped) :
    ∃ opening ending, Gap opening ∧ Gap ending ∧
      wrapped = opening ++ blockText inside ++ ending := by
  have hkept : ∃ opening ending, Gap opening ∧ Gap ending ∧
      blockText inside = opening ++ blockText inside ++ ending :=
    ⟨[], [], gap_of_not_mem List.not_mem_nil, gap_of_not_mem List.not_mem_nil, by simp⟩
  cases hread : Reference.ofText? inside with
  | none =>
      simp only [wrapBlock, hread] at hwrap
      cases hwrap
      exact hkept
  | some reference =>
      rw [wrapBlock_of_reference hread] at hwrap
      split at hwrap
      · cases hwrap
      · split at hwrap
        · cases hwrap
          have hname := (Reference.isIdentifier_of_ofText? hread).2
          exact ⟨_, _, gap_opening hname, gap_ending, rfl⟩
        · cases hwrap
          exact hkept

/-! ## Blocks -/

theorem map_snd_behind (front : List Char) (c : Cut) :
    (c.behind front).blocks.map Prod.snd = c.blocks.map Prod.snd := by
  obtain ⟨blocks, tail⟩ := c
  cases blocks <;> rfl

/-- The blocks that were wrapped are found again, in their order. -/
theorem cut_wrapBlocks {parameters : Parameters} {blocks : List (List Char × List Char)}
    (hblocks : ∀ block ∈ blocks, Gap block.1 ∧ Inside block.2) {tail : List Char}
    (htail : cut tail = ⟨[], tail⟩) {wrapped : List Char}
    (hwrap : wrapBlocks parameters blocks = .ok wrapped) :
    (cut (wrapped ++ tail)).blocks.map Prod.snd = blocks.map Prod.snd := by
  induction blocks generalizing wrapped with
  | nil =>
      cases hwrap
      rw [List.nil_append, htail]
  | cons block more ih =>
      obtain ⟨gap, inside⟩ := block
      rw [List.forall_mem_cons] at hblocks
      obtain ⟨⟨hgap, hinside⟩, hmore⟩ := hblocks
      obtain ⟨text, htext, hwrap⟩ := exists_of_bind_eq_ok hwrap
      obtain ⟨rest, hrest, hwrap⟩ := exists_of_bind_eq_ok hwrap
      cases hwrap
      obtain ⟨opening, ending, hopening, hending, rfl⟩ := exists_frame_of_wrapBlock htext
      -- The opening belongs to the gap of its block, the ending to what comes next.
      have hsplit : gap ++ (opening ++ blockText inside ++ ending) ++ rest ++ tail =
          gap ++ opening ++ blockText inside ++ (ending ++ (rest ++ tail)) := by
        simp only [List.append_assoc]
      rw [hsplit, cut_append_block (hgap.append hopening) hinside, cut_append_of_gap hending,
        List.map_cons, List.map_cons, map_snd_behind, ih hmore hrest]

theorem cut_wrap {parameters : Parameters} {body wrapped : String}
    (hwrap : wrap parameters body = .ok wrapped) :
    (cut wrapped.toList).blocks.map Prod.snd = (cut body.toList).blocks.map Prod.snd := by
  obtain ⟨text, htext, hwrapped⟩ := exists_of_bind_eq_ok hwrap
  cases hwrapped
  rw [String.toList_ofList]
  exact cut_wrapBlocks gap_and_inside_of_mem_cut (cut_tail body.toList) htext

/-! ## Tokens -/

/-- What a token says, apart from where it stands. -/
def Token.content (token : Token) : Reference × String :=
  (token.toReference, token.text)

/-- What the tokens say is settled by the blocks. -/
theorem content_tokensFrom (offset : Nat) (blocks : List (List Char × List Char)) :
    (tokensFrom offset blocks).map Token.content =
      (blocks.map Prod.snd).filterMap fun inside =>
        (Reference.ofText? inside).map (·, String.ofList (blockText inside)) := by
  induction blocks generalizing offset with
  | nil => rfl
  | cons block more ih =>
      obtain ⟨gap, inside⟩ := block
      rw [tokensFrom_cons, List.map_append, ih, List.map_cons, List.filterMap_cons]
      cases hread : Reference.ofText? inside with
      | none =>
          rw [blockTokens_of_text hread]
          rfl
      | some reference =>
          rw [blockTokens_of_reference hread]
          rfl

/-- **Wrapping does not disturb the tokens.**  A wrapped body has the blocks of the body, with what
stands inside each of them, in their order, and so the tokens of the body, with the type, the name,
the mark for arguments and the text of each.  No token can be undeclared, so that it can be wrapped
again. -/
theorem scan_wrap {parameters : Parameters} {body wrapped : String}
    (hwrap : wrap parameters body = .ok wrapped) :
    (scan wrapped).map Token.content = (scan body).map Token.content ∧
      (cut wrapped.toList).blocks.map Prod.snd = (cut body.toList).blocks.map Prod.snd ∧
      ∃ again, wrap parameters wrapped = .ok again := by
  have hscan : (scan wrapped).map Token.content = (scan body).map Token.content := by
    rw [scan, scan, content_tokensFrom, content_tokensFrom, cut_wrap hwrap]
  have hdeclared : (scan wrapped).find? (·.IsUndeclared parameters) = none := by
    simp only [List.find?_eq_none, decide_eq_true_eq]
    intro token hmem
    -- A token of the body says the same, and that is all that counts.
    have hsame : token.content ∈ (scan wrapped).map Token.content := List.mem_map_of_mem hmem
    rw [hscan] at hsame
    obtain ⟨other, hother, heq⟩ := List.mem_map.mp hsame
    rw [← (Prod.mk.inj heq).1]
    exact declared_of_wrap hwrap other hother
  obtain ⟨again, hagain, -⟩ := wrap_of_declared hdeclared
  exact ⟨hscan, cut_wrap hwrap, again, hagain⟩

/-- Two tokens that are wrapped, with braces around them, a block between them that is no call, and
an opening without an end. -/
def crowdedBody : String :=
  "\x7d \x7b\x7bString(device)\x7d\x7d\x7d\x7b \x7b\x7b x \x7d\x7d" ++
    "\x7b\x7bString(device)\x7d\x7d\x7b\x7b"

theorem scan_wrap_crowdedBody :
    ∃ wrapped, wrap deviceAndDate crowdedBody = .ok wrapped ∧ wrapped ≠ crowdedBody ∧
      (scan wrapped).map Token.content =
        [(⟨"String", "device", false⟩, "\x7b\x7bString(device)\x7d\x7d"),
          (⟨"String", "device", false⟩, "\x7b\x7bString(device)\x7d\x7d")] ∧
      ∃ again, wrap deviceAndDate wrapped = .ok again := by
  have hwrap : wrap deviceAndDate crowdedBody = .ok
      ("\x7d \x7b% if defined(device) %\x7d\x7b\x7bString(device)\x7d\x7d\x7b% end %\x7d" ++
        "\x7d\x7b \x7b\x7b x \x7d\x7d" ++
        "\x7b% if defined(device) %\x7d\x7b\x7bString(device)\x7d\x7d\x7b% end %\x7d" ++
        "\x7b\x7b") := by
    decide +kernel
  obtain ⟨hscan, -, hagain⟩ := scan_wrap hwrap
  exact ⟨_, hwrap, by decide, hscan.trans (by decide +kernel), hagain⟩

end Template
end QueryArtifacts
