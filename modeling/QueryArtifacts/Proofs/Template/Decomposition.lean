import Mathlib.Data.String.Basic
import QueryArtifacts.Proofs.Template.Calls
import QueryArtifacts.Proofs.Template.Insertions

/-!
# The decomposition of a body

A body falls apart into blocks and the texts around them in one way only.  What the pieces have to
be can be said of each by itself, without the search that finds them: a block ends at the first
closing behind its opening, a text before a block neither holds an opening nor ends in half of one,
and behind the last block no opening has a closing behind it.

* `Cut.IsDecomposition` — such pieces of a body.
* `isDecomposition_iff` — they are the pieces of the cut.
* `Cut.tokens` — the blocks that hold a call, each at the bytes of the pieces before it.
* `scan_decomposition` — the tokens of the scan are those of the decomposition, one behind the
  other, and each is what stands at its place in the body.
-/

namespace QueryArtifacts

namespace Text

/-- A part of a text stands between two characters and is what is cut out there. -/
theorem extract_eq {text : String} {before part after : List Char}
    (htext : text.toList = before ++ (part ++ after)) :
    String.Pos.Raw.IsValid text ⟨byteLength before⟩ ∧
      String.Pos.Raw.IsValid text ⟨byteLength before + byteLength part⟩ ∧
      String.Pos.Raw.extract text ⟨byteLength before⟩ ⟨byteLength before + byteLength part⟩ =
        String.ofList part := by
  have hvalid : ∀ front back : List Char, text.toList = front ++ back →
      String.Pos.Raw.IsValid text ⟨byteLength front⟩ := by
    intro front back hparts
    rw [String.Pos.Raw.isValid_iff_exists_append]
    refine ⟨String.ofList front, String.ofList back, ?_, ?_⟩
    · rw [← String.ofList_append, ← hparts, String.ofList_toList]
    · rw [byteLength_eq_utf8ByteSize]
      rfl
  refine ⟨hvalid before _ htext, ?_, ?_⟩
  · rw [← byteLength_append]
    exact hvalid (before ++ part) after (by rw [htext, List.append_assoc])
  · have hsize : ∀ s : List Char, byteLength s = String.utf8Len s := fun s => by
      rw [byteLength_eq_utf8ByteSize, String.utf8ByteSize_ofList]
    have hextract := String.extract_of_valid before part after
    rwa [List.append_assoc, ← htext, String.ofList_toList, ← hsize, ← hsize] at hextract

end Text

namespace Template

/-! ## Pieces -/

/-- A body cut at its blocks, as each of the pieces shows. -/
structure Cut.IsDecomposition (c : Cut) (body : String) : Prop where
  /-- The pieces spell the body. -/
  spells : c.text = body.toList
  /-- A text before a block holds no opening and does not end in half of one. -/
  gaps : ∀ block ∈ c.blocks,
    ¬ ['\x7b', '\x7b'] <:+: block.1 ∧ block.1.getLast? ≠ some '\x7b'
  /-- Behind its opening, a block has a closing at its end and nowhere else. -/
  insides : ∀ block ∈ c.blocks, ∀ front back,
    block.2 ++ ['\x7d', '\x7d'] = front ++ '\x7d' :: '\x7d' :: back → back = []
  /-- Behind the last block, no opening has a closing behind it. -/
  tail : ∀ front between back,
    c.tail ≠ front ++ '\x7b' :: '\x7b' :: (between ++ '\x7d' :: '\x7d' :: back)

theorem inside_iff {inside : List Char} :
    Inside inside ↔ ∀ front back,
      inside ++ ['\x7d', '\x7d'] = front ++ '\x7d' :: '\x7d' :: back → back = [] := by
  constructor
  · intro hinside front back htext
    -- The first closing is the one at the end, and no closing stands before the first one.
    have hsplit : Text.splitAtPair '\x7d' '\x7d' (front ++ '\x7d' :: '\x7d' :: back) =
        some (inside, []) := by
      rw [← htext]
      exact Text.splitAtPair_append hinside []
    exact List.suffix_nil.mp (Text.suffix_of_splitAtPair_append hsplit)
  · intro hfirst
    cases hsplit : Text.splitAtPair '\x7d' '\x7d' (inside ++ ['\x7d']) with
    | none => exact hsplit
    | some parts =>
        obtain ⟨front, back⟩ := parts
        have htext : inside ++ ['\x7d', '\x7d'] =
            front ++ '\x7d' :: '\x7d' :: (back ++ ['\x7d']) := by
          rw [List.append_cons, Text.eq_append_of_splitAtPair hsplit]
          simp
        exact absurd (hfirst front _ htext) (List.concat_ne_nil _ _)

/-- A text is its own tail exactly if no opening in it has a closing behind it. -/
theorem cut_eq_tail_iff {tail : List Char} :
    cut tail = ⟨[], tail⟩ ↔ ∀ front between back,
      tail ≠ front ++ '\x7b' :: '\x7b' :: (between ++ '\x7d' :: '\x7d' :: back) := by
  constructor
  · rintro hcut front between back rfl
    cases hopen : Text.splitAtPair '\x7b' '\x7b'
        (front ++ '\x7b' :: '\x7b' :: (between ++ '\x7d' :: '\x7d' :: back)) with
    | none =>
        exact (Text.splitAtPair_eq_none_iff.mp hopen)
          ⟨front, between ++ '\x7d' :: '\x7d' :: back, by simp⟩
    | some parts =>
        obtain ⟨gap, rest⟩ := parts
        -- The closing stands behind the first opening as well.
        have hrest : ['\x7d', '\x7d'] <:+: rest :=
          List.IsInfix.trans ⟨between, back, by simp⟩
            (Text.suffix_of_splitAtPair_append hopen).isInfix
        rw [cut_of_opened hopen] at hcut
        cases hclose : Text.splitAtPair '\x7d' '\x7d' rest with
        | none => exact (Text.splitAtPair_eq_none_iff.mp hclose) hrest
        | some parts =>
            rw [hclose] at hcut
            cases hcut
  · intro htail
    cases hopen : Text.splitAtPair '\x7b' '\x7b' tail with
    | none => exact cut_of_unopened hopen
    | some parts =>
        obtain ⟨gap, rest⟩ := parts
        rw [cut_of_opened hopen]
        cases hclose : Text.splitAtPair '\x7d' '\x7d' rest with
        | none => rfl
        | some parts =>
            obtain ⟨inside, after⟩ := parts
            refine absurd ?_ (htail gap inside after)
            rw [Text.eq_append_of_splitAtPair hopen, Text.eq_append_of_splitAtPair hclose]

/-- The only decomposition of a body is its cut. -/
theorem isDecomposition_iff {c : Cut} {body : String} :
    c.IsDecomposition body ↔ c = cut body.toList := by
  constructor
  · rintro ⟨hspells, hgaps, hinsides, htail⟩
    have hblocks : ∀ block ∈ c.blocks, Gap block.1 ∧ Inside block.2 := by
      intro block hblock
      refine ⟨gap_iff.mpr ?_, inside_iff.mpr (hinsides block hblock)⟩
      rw [Text.splitAtPair_eq_none_iff]
      exact hgaps block hblock
    rw [← hspells]
    exact (cut_text hblocks (cut_eq_tail_iff.mpr htail)).symm
  · rintro rfl
    have hblocks : ∀ block ∈ (cut body.toList).blocks, Gap block.1 ∧ Inside block.2 :=
      gap_and_inside_of_mem_cut
    refine ⟨text_cut _, fun block hblock => ?_, fun block hblock => ?_, ?_⟩
    · rw [← Text.splitAtPair_eq_none_iff]
      exact gap_iff.mp (hblocks block hblock).1
    · exact inside_iff.mp (hblocks block hblock).2
    · exact cut_eq_tail_iff.mp (cut_tail _)

/-- Every block takes four bytes or more. -/
theorem four_mul_length_le (blocks : List (List Char × List Char)) (tail : List Char) :
    4 * blocks.length ≤ Text.byteLength (⟨blocks, tail⟩ : Cut).text := by
  induction blocks with
  | nil => exact Nat.zero_le _
  | cons block more ih =>
      obtain ⟨gap, inside⟩ := block
      have hblock : Text.byteLength (blockText inside) = 4 + Text.byteLength inside := by
        have hbrace : Text.byteLength ['\x7b', '\x7b'] = 2 ∧
            Text.byteLength ['\x7d', '\x7d'] = 2 := by decide
        have htext : blockText inside = ['\x7b', '\x7b'] ++ (inside ++ ['\x7d', '\x7d']) := rfl
        rw [htext, Text.byteLength_append, Text.byteLength_append, hbrace.1, hbrace.2]
        omega
      rw [text_cons_block, Text.byteLength_append, Text.byteLength_append, hblock,
        List.length_cons]
      omega

/-! ## Tokens -/

/-- The token of the block with number `i`, if it holds a call.  It starts behind the pieces before
the block and ends behind the block. -/
def Cut.token? (c : Cut) (block : List Char × List Char) (i : Nat) : Option Token :=
  (Reference.ofText? block.2).map fun reference =>
    { reference with
      start := Text.byteLength (⟨c.blocks.take i, block.1⟩ : Cut).text
      stop := Text.byteLength (⟨c.blocks.take (i + 1), []⟩ : Cut).text
      text := String.ofList (blockText block.2) }

/-- The tokens of the blocks, in their order. -/
def Cut.tokens (c : Cut) : List Token :=
  c.blocks.zipIdx.filterMap fun (block, i) => c.token? block i

theorem blockTokens_eq (before : List (List Char × List Char)) (gap inside : List Char)
    (after : List (List Char × List Char)) (tail : List Char) :
    blockTokens (Text.byteLength (⟨before, gap⟩ : Cut).text) inside =
      ((⟨before ++ (gap, inside) :: after, tail⟩ : Cut).token? (gap, inside)
        before.length).toList := by
  have htake : (before ++ (gap, inside) :: after).take (before.length + 1) =
      before ++ [(gap, inside)] := by
    rw [List.append_cons]
    exact List.take_left' (by simp)
  have hstop : Text.byteLength (⟨before ++ [(gap, inside)], []⟩ : Cut).text =
      Text.byteLength (⟨before, gap⟩ : Cut).text + Text.byteLength (blockText inside) := by
    rw [text_append_block, Text.byteLength_append, Text.byteLength_append]
    rfl
  simp only [blockTokens, Cut.token?, List.take_left' rfl, htake, hstop]
  rfl

theorem tokensFrom_eq (before more : List (List Char × List Char)) (tail : List Char) :
    tokensFrom (Text.byteLength (⟨before, []⟩ : Cut).text) more =
      (more.zipIdx before.length).flatMap fun (block, i) =>
        ((⟨before ++ more, tail⟩ : Cut).token? block i).toList := by
  induction more generalizing before with
  | nil => rfl
  | cons block more ih =>
      obtain ⟨gap, inside⟩ := block
      have hgap : Text.byteLength (⟨before, []⟩ : Cut).text + Text.byteLength gap =
          Text.byteLength (⟨before, gap⟩ : Cut).text := by
        simp [Cut.text]
      have hblock : Text.byteLength (⟨before, gap⟩ : Cut).text +
            Text.byteLength (blockText inside) =
          Text.byteLength (⟨before ++ [(gap, inside)], []⟩ : Cut).text := by
        rw [text_append_block, Text.byteLength_append, Text.byteLength_append]
        rfl
      rw [tokensFrom_cons, hgap, hblock, ih, List.zipIdx_cons, List.flatMap_cons,
        blockTokens_eq before gap inside more tail, List.length_append, List.append_assoc]
      rfl

theorem tokens_cut (body : String) : (cut body.toList).tokens = scan body := by
  rw [Cut.tokens, List.filterMap_eq_flatMap_toList]
  exact (tokensFrom_eq [] (cut body.toList).blocks (cut body.toList).tail).symm

/-- The tokens stand one behind the other. -/
theorem pairwise_tokensFrom (offset : Nat) (blocks : List (List Char × List Char)) :
    (tokensFrom offset blocks).Pairwise fun token next => token.stop ≤ next.start := by
  induction blocks generalizing offset with
  | nil => exact List.Pairwise.nil
  | cons block more ih =>
      obtain ⟨gap, inside⟩ := block
      rw [tokensFrom_cons]
      cases hread : Reference.ofText? inside with
      | none =>
          rw [blockTokens_of_text hread]
          exact ih _
      | some reference =>
          rw [blockTokens_of_reference hread, List.singleton_append, List.pairwise_cons]
          refine ⟨fun next hnext => ?_, ih _⟩
          obtain ⟨before, after, -, hstart, -⟩ := stands_of_mem_tokensFrom hnext []
          rw [hstart]
          exact Nat.le_add_right _ _

/-- Every token is what stands at its place in the body, and its names are identifiers. -/
theorem stands_of_mem_scan {body : String} {token : Token} (hmem : token ∈ scan body) :
    token.start < token.stop ∧ String.Pos.Raw.IsValid body ⟨token.start⟩ ∧
      String.Pos.Raw.IsValid body ⟨token.stop⟩ ∧
      String.Pos.Raw.extract body ⟨token.start⟩ ⟨token.stop⟩ = token.text ∧
      IsIdentifier token.typeName.toList ∧ IsIdentifier token.name.toList := by
  obtain ⟨before, after, htext, hstart, hstop⟩ :=
    stands_of_mem_tokensFrom hmem (cut body.toList).tail
  have hbody : body.toList = before ++ (token.text.toList ++ after) :=
    (text_cut body.toList).symm.trans htext
  rw [Nat.zero_add] at hstart
  obtain ⟨hopen, hclose, hextract⟩ := Text.extract_eq hbody
  rw [← hstart, ← hstop] at hclose
  rw [← hstart, ← hstop, String.ofList_toList] at hextract
  rw [← hstart] at hopen
  obtain ⟨block, -, hread, hblock⟩ := exists_block_of_mem_tokensFrom hmem
  have hpositive : 0 < Text.byteLength token.text.toList := by
    rw [hblock, String.toList_ofList]
    exact Nat.add_pos_left (Char.utf8Size_pos _) _
  exact ⟨by omega, hopen, hclose, hextract, Reference.isIdentifier_of_ofText? hread⟩

/-- **The scan reports the blocks of the only decomposition that hold a call.**  Each is reported at
the bytes that it takes in the body, in the order of the blocks and one behind the other; what
stands there is its text, and its names are identifiers.  The search ends after as many rounds as
there are blocks, each of which takes four bytes or more. -/
theorem scan_decomposition (body : String) :
    (∃! c : Cut, c.IsDecomposition body) ∧
    (∀ c : Cut, c.IsDecomposition body →
      scan body = c.tokens ∧ 4 * c.blocks.length ≤ body.utf8ByteSize) ∧
    ((scan body).Pairwise fun token next => token.stop ≤ next.start) ∧
    ∀ token ∈ scan body,
      token.start < token.stop ∧ String.Pos.Raw.IsValid body ⟨token.start⟩ ∧
        String.Pos.Raw.IsValid body ⟨token.stop⟩ ∧
        String.Pos.Raw.extract body ⟨token.start⟩ ⟨token.stop⟩ = token.text ∧
        IsIdentifier token.typeName.toList ∧ IsIdentifier token.name.toList := by
  refine ⟨⟨cut body.toList, isDecomposition_iff.mpr rfl, fun c hc => isDecomposition_iff.mp hc⟩,
    fun c hc => ⟨?_, ?_⟩, pairwise_tokensFrom 0 _, fun token => stands_of_mem_scan⟩
  · rw [isDecomposition_iff.mp hc, tokens_cut]
  · calc 4 * c.blocks.length ≤ Text.byteLength c.text := four_mul_length_le c.blocks c.tail
      _ = body.utf8ByteSize := by rw [hc.spells, Text.byteLength_toList]

/-- A block that begins with a brace, one that holds no call, a call, and an opening without an
end. -/
def bracedCalls : String :=
  "\u00e9\x7b\x7b\x7b String(a) \x7d\x7d \x7b\x7b x \x7d\x7d\x7d" ++
    "\x7b\x7bInt64( b , 3 )\x7d\x7d \x7b\x7b c"

/-- Its pieces, and the one token among its blocks. -/
theorem scan_bracedCalls :
    let c : Cut := ⟨[("\u00e9".toList, "\x7b String(a) ".toList), (" ".toList, " x ".toList),
      ("\x7d".toList, "Int64( b , 3 )".toList)], " \x7b\x7b c".toList⟩
    c.IsDecomposition bracedCalls ∧ (∀ other : Cut, other.IsDecomposition bracedCalls → other = c) ∧
    scan bracedCalls = [⟨⟨"Int64", "b", true⟩, 27, 45, "\x7b\x7bInt64( b , 3 )\x7d\x7d"⟩] ∧
    String.Pos.Raw.extract bracedCalls ⟨27⟩ ⟨45⟩ = "\x7b\x7bInt64( b , 3 )\x7d\x7d" := by
  intro c
  have hcut : c = cut bracedCalls.toList := by decide +kernel
  have hc : c.IsDecomposition bracedCalls := isDecomposition_iff.mpr hcut
  obtain ⟨hunique, htokens, -, hstands⟩ := scan_decomposition bracedCalls
  have hscan : scan bracedCalls =
      [⟨⟨"Int64", "b", true⟩, 27, 45, "\x7b\x7bInt64( b , 3 )\x7d\x7d"⟩] := by
    rw [(htokens c hc).1]
    decide +kernel
  refine ⟨hc, fun other hother => hunique.unique hother hc, hscan, ?_⟩
  rw [hscan] at hstands
  exact (hstands _ (List.mem_singleton_self _)).2.2.2.1

end Template
end QueryArtifacts
