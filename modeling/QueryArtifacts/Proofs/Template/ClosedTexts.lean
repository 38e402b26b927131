import QueryArtifacts.Proofs.Template.Scan

/-!
# Behind a closed text

A call that is written out is not always found.  An opening without an end takes the text behind it
as its inside, up to the end of the next block, and a single brace at the end of a text moves the
opening of a block that follows by one character.  A text that does neither is closed, and nothing
else matters: behind a closed text, the scan and the wrapping begin anew.

* `Closed` — nothing is open, and nothing half open, behind the last block.
* `scan_append`, `wrap_append` — the scan and the wrapping behind a closed text.
* `callToken` — a call without arguments that is written out.
* `found_iff_closed` — such a call is found exactly behind a closed text, and is then wrapped and
  checked like one that stands alone.
-/

namespace QueryArtifacts
namespace Template

/-- What stands behind the last block of a text has no opening and does not end in half of one. -/
def Closed (text : String) : Prop :=
  ¬ ['\x7b', '\x7b'] <:+: (cut text.toList).tail ∧ (cut text.toList).tail.getLast? ≠ some '\x7b'

theorem closed_iff_gap {text : String} : Closed text ↔ Gap (cut text.toList).tail := by
  rw [gap_iff, Text.splitAtPair_eq_none_iff, Closed]

instance (text : String) : Decidable (Closed text) :=
  decidable_of_iff (Text.splitAtPair '\x7b' '\x7b' ((cut text.toList).tail ++ ['\x7b']) = none)
    closed_iff_gap.symm

/-! ## Scanning -/

/-- A token further behind in the text. -/
def Token.shift (distance : Nat) (token : Token) : Token :=
  { token with start := token.start + distance, stop := token.stop + distance }

theorem Token.shift_comp (distance more : Nat) :
    Token.shift distance ∘ Token.shift more = Token.shift (distance + more) := by
  funext token
  simp [Token.shift, Nat.add_assoc, Nat.add_comm more]

theorem blockTokens_add (start distance : Nat) (inside : List Char) :
    blockTokens (start + distance) inside =
      (blockTokens start inside).map (Token.shift distance) := by
  cases hread : Reference.ofText? inside with
  | none => rw [blockTokens_of_text hread, blockTokens_of_text hread, List.map_nil]
  | some reference =>
      rw [blockTokens_of_reference hread, blockTokens_of_reference hread, List.map_singleton,
        Reference.token, Nat.add_right_comm]
      rfl

theorem tokensFrom_add (offset distance : Nat) (blocks : List (List Char × List Char)) :
    tokensFrom (offset + distance) blocks =
      (tokensFrom offset blocks).map (Token.shift distance) := by
  induction blocks generalizing offset with
  | nil => rfl
  | cons block more ih =>
      obtain ⟨gap, inside⟩ := block
      rw [tokensFrom_cons, tokensFrom_cons, List.map_append, Nat.add_right_comm offset,
        blockTokens_add, Nat.add_right_comm _ distance, ih]

theorem tokensFrom_append (offset : Nat) (blocks more : List (List Char × List Char)) :
    tokensFrom offset (blocks ++ more) =
      tokensFrom offset blocks ++
        tokensFrom (offset + Text.byteLength (⟨blocks, []⟩ : Cut).text) more := by
  induction blocks generalizing offset with
  | nil => rfl
  | cons block rest ih =>
      obtain ⟨gap, inside⟩ := block
      rw [List.cons_append, tokensFrom_cons, tokensFrom_cons, ih, text_cons_block,
        Text.byteLength_append, Text.byteLength_append, List.append_assoc, ← Nat.add_assoc,
        ← Nat.add_assoc]

theorem tokensFrom_behind (offset : Nat) (front : List Char) (c : Cut) :
    tokensFrom offset (c.behind front).blocks =
      tokensFrom (offset + Text.byteLength front) c.blocks := by
  obtain ⟨blocks, tail⟩ := c
  cases blocks with
  | nil => rfl
  | cons block more =>
      obtain ⟨gap, inside⟩ := block
      rw [Cut.behind, tokensFrom_cons, tokensFrom_cons, Text.byteLength_append, ← Nat.add_assoc]

/-- Behind a closed text the scan begins anew. -/
theorem scan_append {before : String} (hclosed : Closed before) (after : String) :
    scan (before ++ after) =
      scan before ++ (scan after).map (Token.shift before.utf8ByteSize) := by
  have hsize : before.utf8ByteSize =
      Text.byteLength (⟨(cut before.toList).blocks, []⟩ : Cut).text +
        Text.byteLength (cut before.toList).tail := by
    have htext : before.toList =
        (⟨(cut before.toList).blocks, []⟩ : Cut).text ++ (cut before.toList).tail :=
      (text_cut before.toList).symm.trans (by simp [Cut.text])
    rw [← Text.byteLength_append, ← htext, Text.byteLength_toList]
  rw [scan, String.toList_append, cut_append (closed_iff_gap.mp hclosed), tokensFrom_append,
    tokensFrom_behind, Nat.add_assoc, ← hsize, tokensFrom_add]
  rfl

/-- Right behind a text that is not closed no token starts. -/
theorem closed_of_mem_scan {before after : String} {token : Token}
    (hmem : token ∈ scan (before ++ after)) (hstart : token.start = before.utf8ByteSize) :
    Closed before := by
  obtain ⟨blocks, gap, inside, more, hblocks, -, htoken⟩ := exists_pieces_of_mem_tokensFrom hmem
  have hall : ∀ block ∈ (cut (before ++ after).toList).blocks, Gap block.1 ∧ Inside block.2 :=
    gap_and_inside_of_mem_cut
  rw [hblocks] at hall
  simp only [List.forall_mem_append, List.forall_mem_cons] at hall
  obtain ⟨hbefore, ⟨hgap, -⟩, -⟩ := hall
  have htext : (⟨blocks ++ (gap, inside) :: more, (cut (before ++ after).toList).tail⟩ : Cut).text =
      before.toList ++ after.toList := by
    rw [← hblocks, ← String.toList_append]
    exact text_cut _
  -- The pieces before the token spell the text before it, and are its cut.
  have hpieces : (⟨blocks, gap⟩ : Cut).text = before.toList := by
    rw [text_append_block] at htext
    refine Text.eq_of_append_eq_append htext ?_
    rw [Text.byteLength_toList, ← hstart, htoken]
    exact (Nat.zero_add _).symm
  rw [closed_iff_gap, ← hpieces, cut_text hbefore (cut_of_unopened (gap_iff.mp hgap).1)]
  exact hgap

/-! ## Wrapping -/

variable {parameters : Parameters}

theorem wrapBlocks_append (blocks more : List (List Char × List Char)) :
    wrapBlocks parameters (blocks ++ more) = do
      let wrapped ← wrapBlocks parameters blocks
      let rest ← wrapBlocks parameters more
      return wrapped ++ rest := by
  induction blocks with
  | nil => exact (bind_pure _).symm
  | cons block others ih =>
      obtain ⟨gap, inside⟩ := block
      simp only [List.cons_append, wrapBlocks, ih, bind_assoc, pure_bind, List.append_assoc]

/-- A text that joins the first gap, or the tail, is kept in front by wrapping. -/
theorem wrapBlocks_behind (front : List Char) (c : Cut) :
    (do let wrapped ← wrapBlocks parameters (c.behind front).blocks
        return wrapped ++ (c.behind front).tail) = do
      let wrapped ← wrapBlocks parameters c.blocks
      return front ++ (wrapped ++ c.tail) := by
  obtain ⟨blocks, tail⟩ := c
  cases blocks with
  | nil => simp [Cut.behind, wrapBlocks]
  | cons block more =>
      obtain ⟨gap, inside⟩ := block
      simp only [Cut.behind, wrapBlocks, bind_assoc, pure_bind, List.append_assoc]

/-- Behind a closed text wrapping begins anew. -/
theorem wrap_append {before : String} (hclosed : Closed before) (after : String) :
    wrap parameters (before ++ after) = do
      let wrapped ← wrap parameters before
      let rest ← wrap parameters after
      return wrapped ++ rest := by
  calc
    wrap parameters (before ++ after) = (do
        let wrapped ← wrapBlocks parameters (cut before.toList).blocks
        let rest ← (do
          let rest ← wrapBlocks parameters
            ((cut after.toList).behind (cut before.toList).tail).blocks
          return rest ++ ((cut after.toList).behind (cut before.toList).tail).tail)
        return String.ofList (wrapped ++ rest)) := by
      rw [wrap, String.toList_append, cut_append (closed_iff_gap.mp hclosed)]
      simp only [wrapBlocks_append, bind_assoc, pure_bind, List.append_assoc]
    _ = _ := by
      rw [wrapBlocks_behind]
      simp only [wrap, bind_assoc, pure_bind, String.ofList_append, String.append_assoc]

/-! ## Calls -/

/-- A call without arguments that is written out. -/
def callToken (typeName name : String) : String :=
  "\x7b\x7b " ++ typeName ++ "(" ++ name ++ ") \x7d\x7d"

/-- What becomes of a call that is written out: it is refused, put under its condition, or kept. -/
def wrappedCall (parameters : Parameters) (typeName name : String) :
    Except TemplateError String :=
  let reference : Reference := ⟨typeName, name, false⟩
  let call := callToken typeName name
  if reference.IsUndeclared parameters then
    .error (.unknownParameter name call)
  else if reference.IsConditional parameters then
    .ok ("\x7b% if defined(" ++ name ++ ") %\x7d" ++ call ++ "\x7b% end %\x7d")
  else
    .ok call

section Calls

variable {typeName name : String}

theorem toList_callToken (typeName name : String) :
    (callToken typeName name).toList =
      blockText (callText typeName.toList name.toList []) := by
  simp [callToken, blockText, callText]

theorem ofText?_call (htype : IsIdentifier typeName.toList) (hname : IsIdentifier name.toList) :
    Reference.ofText? (callText typeName.toList name.toList []) =
      some ⟨typeName, name, false⟩ := by
  rw [Reference.ofText?_callText htype hname (by simp), String.ofList_toList, String.ofList_toList]
  rfl

theorem closed_callToken (htype : IsIdentifier typeName.toList)
    (hname : IsIdentifier name.toList) : Closed (callToken typeName name) := by
  rw [closed_iff_gap, toList_callToken, cut_blockText (inside_callText htype hname rfl)]
  exact gap_of_not_mem List.not_mem_nil

theorem scan_callToken (htype : IsIdentifier typeName.toList) (hname : IsIdentifier name.toList) :
    scan (callToken typeName name) =
      [⟨⟨typeName, name, false⟩, 0, (callToken typeName name).utf8ByteSize,
        callToken typeName name⟩] :=
  scan_blockText (inside_callText htype hname rfl) (ofText?_call htype hname) (toList_callToken ..)

/-- Wrapping treats a call as such. -/
theorem wrap_callToken (htype : IsIdentifier typeName.toList) (hname : IsIdentifier name.toList) :
    wrap parameters (callToken typeName name) = wrappedCall parameters typeName name := by
  have hwrap : wrap parameters (callToken typeName name) = (do
      let wrapped ← wrapBlock parameters (callText typeName.toList name.toList [])
      return String.ofList wrapped) := by
    rw [wrap, toList_callToken, cut_blockText (inside_callText htype hname rfl), wrapBlocks]
    cases wrapBlock parameters (callText typeName.toList name.toList []) with
    | error failure => rfl
    | ok wrapped => exact congrArg (fun text => Except.ok (String.ofList text)) (by simp)
  rw [hwrap, wrapBlock_of_reference (ofText?_call htype hname), ← toList_callToken,
    String.ofList_toList, wrappedCall]
  split
  · rfl
  · split
    · rw [← toList_underCondition]
      exact congrArg Except.ok String.ofList_toList
    · exact congrArg Except.ok String.ofList_toList

/-- Between a closed text and any other one, a call is one more token. -/
theorem scan_append_callToken (htype : IsIdentifier typeName.toList)
    (hname : IsIdentifier name.toList) {before : String} (hclosed : Closed before)
    (after : String) :
    let call := callToken typeName name
    scan (before ++ call ++ after) =
      scan before ++
        ⟨⟨typeName, name, false⟩, before.utf8ByteSize,
          before.utf8ByteSize + call.utf8ByteSize, call⟩ ::
            (scan after).map (Token.shift (before.utf8ByteSize + call.utf8ByteSize)) := by
  intro call
  have htoken : Token.shift before.utf8ByteSize
        ⟨⟨typeName, name, false⟩, 0, call.utf8ByteSize, call⟩ =
      ⟨⟨typeName, name, false⟩, before.utf8ByteSize,
        before.utf8ByteSize + call.utf8ByteSize, call⟩ := by
    rw [Token.shift, Nat.zero_add, Nat.add_comm]
  rw [String.append_assoc, scan_append hclosed, scan_append (closed_callToken htype hname),
    scan_callToken htype hname, List.singleton_append, List.map_cons, List.map_map,
    Token.shift_comp, htoken]

/-- Between a closed text and any other one, a call is wrapped as if it stood alone. -/
theorem wrap_append_callToken (htype : IsIdentifier typeName.toList)
    (hname : IsIdentifier name.toList) {before : String} (hclosed : Closed before)
    (after : String) :
    wrap parameters (before ++ callToken typeName name ++ after) = do
      let wrapped ← wrap parameters before
      let wrappedCall ← wrappedCall parameters typeName name
      let rest ← wrap parameters after
      return wrapped ++ wrappedCall ++ rest := by
  rw [String.append_assoc, wrap_append hclosed, wrap_append (closed_callToken htype hname),
    wrap_callToken htype hname]
  simp only [bind_assoc, pure_bind, String.append_assoc]

end Calls

/-- **A call is found exactly behind a closed text.**  Whatever follows a closed text is scanned as
if it stood alone, only further behind.  A call that is written out is reported at its place exactly
if the text before it is closed, whatever stands behind it.  It is then put under its condition,
kept, or refused as the call alone would be. -/
theorem found_iff_closed (before : String) :
    (∀ after, Closed before → scan (before ++ after) =
      scan before ++ (scan after).map (Token.shift before.utf8ByteSize)) ∧
    ∀ after typeName name, IsIdentifier typeName.toList → IsIdentifier name.toList →
      let call := callToken typeName name
      ((∃ token ∈ scan (before ++ call ++ after), token.start = before.utf8ByteSize) ↔
        Closed before) ∧
      (Closed before → scan (before ++ call ++ after) =
        scan before ++
          ⟨⟨typeName, name, false⟩, before.utf8ByteSize,
            before.utf8ByteSize + call.utf8ByteSize, call⟩ ::
              (scan after).map (Token.shift (before.utf8ByteSize + call.utf8ByteSize))) ∧
      (Closed before → ∀ parameters, wrap parameters (before ++ call ++ after) = do
        let wrapped ← wrap parameters before
        let wrappedCall ← wrappedCall parameters typeName name
        let rest ← wrap parameters after
        return wrapped ++ wrappedCall ++ rest) := by
  refine ⟨fun after hclosed => scan_append hclosed after,
    fun after typeName name htype hname => ?_⟩
  intro call
  have hscan (hclosed : Closed before) := scan_append_callToken htype hname hclosed after
  refine ⟨⟨?_, fun hclosed => ?_⟩, hscan,
    fun hclosed _ => wrap_append_callToken htype hname hclosed after⟩
  · rintro ⟨token, hmem, hstart⟩
    rw [String.append_assoc] at hmem
    exact closed_of_mem_scan hmem hstart
  · rw [hscan hclosed]
    exact ⟨_, List.mem_append_right _ (List.mem_cons_self ..), rfl⟩

/-- A block that is no call, with braces around it, behind a character of two bytes. -/
def bracedText : String :=
  "\u00e9\x7b \x7b\x7b\x7b x \x7d\x7d\x7d "

/-- A call behind it is found and wrapped; behind a single brace it is not found. -/
theorem found_bracedText :
    let call := callToken "String" "device"
    (∃ token ∈ scan (bracedText ++ call ++ "\x7d\x7d"), token.start = 14) ∧
    wrap deviceAndDate (bracedText ++ call ++ "\x7d\x7d") = .ok (bracedText ++
      ("\x7b% if defined(device) %\x7d" ++ call ++ "\x7b% end %\x7d") ++ "\x7d\x7d") ∧
    ¬ ∃ token ∈ scan ("\x7b" ++ call ++ ""), token.start = 1 := by
  intro call
  have htype : IsIdentifier "String".toList := by decide
  have hname : IsIdentifier "device".toList := by decide
  have hclosed : Closed bracedText := by decide +kernel
  have hopen : ¬ Closed "\x7b" := by decide +kernel
  have hfound := (found_iff_closed bracedText).2 "\x7d\x7d" "String" "device" htype hname
  refine ⟨hfound.1.mpr hclosed, ?_, fun hhidden => hopen ?_⟩
  · have hbefore : wrap deviceAndDate bracedText = .ok bracedText := by decide +kernel
    have hcall : wrappedCall deviceAndDate "String" "device" =
        .ok ("\x7b% if defined(device) %\x7d" ++ call ++ "\x7b% end %\x7d") := by
      decide +kernel
    have hafter : wrap deviceAndDate "\x7d\x7d" = .ok "\x7d\x7d" := by decide +kernel
    rw [hfound.2.2 hclosed deviceAndDate, hbefore, hcall, hafter]
    rfl
  · exact ((found_iff_closed "\x7b").2 "" "String" "device" htype hname).1.mp hhidden

end Template
end QueryArtifacts
