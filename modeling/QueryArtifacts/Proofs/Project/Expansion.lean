import Mathlib.Data.List.Forall2
import QueryArtifacts.Project.Environment
import QueryArtifacts.Proofs.Text.Markers

/-!
# Expansion is one substitution

Every text is cut at its references in exactly one way, from the left: a reference begins at the
first opening and ends at the first closing brace behind it.  Expanding the text fills the cut.  The
values stand as they are, and nothing of them is read again.

* `ReferenceCut`, `ReferenceCut.IsLeftmost` — a text cut at its references, from the left.
* `exists_leftmost`, `ReferenceCut.IsLeftmost.eq_of_text` — there is one such cut, and only one.
* `ReferenceCut.Yields` — what comes of a cut: a text, or the error of the first reference that
  fails.
* `expandFrom_eq`, `expandFrom_append` — one round, and all rounds before a text.
* `expand_iff_yields` — what comes of expanding a text.
-/

namespace QueryArtifacts

/-! ## Cuts at references -/

/-- A reference to a variable. -/
def referenceText (name : List Char) : List Char :=
  '$' :: '\x7b' :: name ++ ['\x7d']

/-- References, each behind the text that stands before it. -/
abbrev References := List (List Char × List Char)

/-- The text of references. -/
def References.text (references : References) : List Char :=
  references.flatMap fun (before, name) => before ++ referenceText name

/-- A text cut at its references. -/
structure ReferenceCut where
  references : References
  /-- The text after the last reference. -/
  tail : List Char

/-- The text that a cut comes from. -/
def ReferenceCut.text (cut : ReferenceCut) : List Char :=
  cut.references.text ++ cut.tail

/-- No reference is left behind the references of a cut, and none of these begins or ends later than
it could. -/
structure ReferenceCut.IsLeftmost (cut : ReferenceCut) : Prop where
  before : ∀ reference ∈ cut.references, ¬ ['$', '\x7b'] <:+: reference.1
  name : ∀ reference ∈ cut.references, '\x7d' ∉ reference.2
  tail : ∀ name, ¬ referenceText name <:+: cut.tail

section Cut

variable {before name : List Char}

theorem References.text_cons (before name : List Char) (more : References) :
    References.text ((before, name) :: more) = before ++ (referenceText name ++ more.text) := by
  simp [References.text]

/-- An opening is found behind a text without one. -/
theorem splitAtPair_opening (hbefore : ¬ ['$', '\x7b'] <:+: before) (rest : List Char) :
    Text.splitAtPair '$' '\x7b' (before ++ '$' :: '\x7b' :: rest) = some (before, rest) := by
  refine Text.splitAtPair_append (Text.splitAtPair_append_right ?_ (by decide)) rest
  exact Text.splitAtPair_eq_none_iff.mpr hbefore

theorem referenceText_append (name rest : List Char) :
    referenceText name ++ rest = '$' :: '\x7b' :: (name ++ '\x7d' :: rest) := by
  simp [referenceText]

@[simp] theorem ReferenceCut.text_nil (tail : List Char) :
    ReferenceCut.text ⟨[], tail⟩ = tail := rfl

theorem ReferenceCut.text_cons (before name tail : List Char) (more : References) :
    ReferenceCut.text ⟨(before, name) :: more, tail⟩ =
      before ++ '$' :: '\x7b' :: (name ++ '\x7d' :: ReferenceCut.text ⟨more, tail⟩) := by
  simp [ReferenceCut.text, References.text_cons, referenceText_append]

theorem ReferenceCut.isLeftmost_cons_iff {more : References} {tail : List Char} :
    ReferenceCut.IsLeftmost ⟨(before, name) :: more, tail⟩ ↔
      ¬ ['$', '\x7b'] <:+: before ∧ '\x7d' ∉ name ∧ ReferenceCut.IsLeftmost ⟨more, tail⟩ := by
  constructor
  · rintro ⟨hbefore, hname, htail⟩
    rw [List.forall_mem_cons] at hbefore hname
    exact ⟨hbefore.1, hname.1, hbefore.2, hname.2, htail⟩
  · rintro ⟨hbefore, hname, hmore⟩
    refine ⟨?_, ?_, hmore.tail⟩
    · exact List.forall_mem_cons.mpr ⟨hbefore, hmore.before⟩
    · exact List.forall_mem_cons.mpr ⟨hname, hmore.name⟩

/-- No opening stands before the first one. -/
theorem not_infix_before {cs rest : List Char}
    (hopen : Text.splitAtPair '$' '\x7b' cs = some (before, rest)) :
    ¬ ['$', '\x7b'] <:+: before := by
  intro hinside
  have hbefore := Text.splitAtPair_eq_none_iff.mp (Text.concat_eq_none_of_splitAtPair hopen)
  exact hbefore (hinside.trans (List.infix_append' [] before _))

/-- An opening that nothing closes leaves no reference. -/
theorem not_infix_referenceText {cs rest : List Char}
    (hopen : Text.splitAtPair '$' '\x7b' cs = some (before, rest)) (hrest : '\x7d' ∉ rest)
    (name : List Char) : ¬ referenceText name <:+: cs := by
  rintro ⟨earlier, later, rfl⟩
  rw [List.append_assoc, referenceText_append] at hopen
  exact hrest ((Text.suffix_of_splitAtPair_append hopen).subset (by simp))

/-- Every text has a cut from the left. -/
theorem exists_leftmost (text : List Char) :
    ∃ cut : ReferenceCut, cut.text = text ∧ cut.IsLeftmost := by
  -- The names of a text are collected by the same rounds that expansion goes through.
  fun_induction referencedNames text with
  | case1 cs hopen =>
      have hcs := Text.splitAtPair_eq_none_iff.mp hopen
      refine ⟨⟨[], cs⟩, rfl, by simp, by simp, fun name hinside => hcs ?_⟩
      exact List.IsInfix.trans ⟨[], name ++ ['\x7d'], by simp [referenceText]⟩ hinside
  | case2 cs before rest hopen hclose =>
      have hrest := Text.splitAtChar_eq_none_iff.mp hclose
      exact ⟨⟨[], cs⟩, rfl, by simp, by simp, not_infix_referenceText hopen hrest⟩
  | case3 cs before rest hopen name after hclose ih =>
      obtain ⟨⟨more, tail⟩, hmore, hleftmost⟩ := ih
      refine ⟨⟨(before, name) :: more, tail⟩, ?_, ?_⟩
      · rw [ReferenceCut.text_cons, hmore, Text.eq_append_of_splitAtPair hopen,
          Text.eq_append_of_splitAtChar hclose]
      · exact ReferenceCut.isLeftmost_cons_iff.mpr
          ⟨not_infix_before hopen, Text.not_mem_of_splitAtChar hclose, hleftmost⟩

/-- A text with a reference has one in its cut. -/
theorem ReferenceCut.IsLeftmost.text_ne {tail : List Char}
    (hcut : ReferenceCut.IsLeftmost ⟨[], tail⟩) (before name rest : List Char) :
    ReferenceCut.text ⟨[], tail⟩ ≠ before ++ '$' :: '\x7b' :: (name ++ '\x7d' :: rest) := by
  intro htext
  rw [ReferenceCut.text_nil, ← referenceText_append, ← List.append_assoc] at htext
  exact hcut.tail name ⟨before, rest, htext.symm⟩

/-- Two cuts of a text from the left are the same. -/
theorem ReferenceCut.IsLeftmost.eq_of_text {cut cut' : ReferenceCut} (hcut : cut.IsLeftmost)
    (hcut' : cut'.IsLeftmost) (htext : cut.text = cut'.text) : cut = cut' := by
  obtain ⟨references, tail⟩ := cut
  obtain ⟨references', tail'⟩ := cut'
  induction references generalizing references' with
  | nil =>
      cases references' with
      | nil => exact congrArg (ReferenceCut.mk []) htext
      | cons reference more =>
          rw [ReferenceCut.text_cons] at htext
          exact absurd htext (hcut.text_ne _ _ _)
  | cons reference more ih =>
      cases references' with
      | nil =>
          rw [ReferenceCut.text_cons] at htext
          exact absurd htext.symm (hcut'.text_ne _ _ _)
      | cons reference' more' =>
          obtain ⟨before, name⟩ := reference
          obtain ⟨before', name'⟩ := reference'
          obtain ⟨hbefore, hname, hmore⟩ := ReferenceCut.isLeftmost_cons_iff.mp hcut
          obtain ⟨hbefore', hname', hmore'⟩ := ReferenceCut.isLeftmost_cons_iff.mp hcut'
          rw [ReferenceCut.text_cons, ReferenceCut.text_cons] at htext
          -- Both cuts say where the first opening is, and where the first brace behind it.
          have hopen := congrArg (Text.splitAtPair '$' '\x7b') htext
          rw [splitAtPair_opening hbefore, splitAtPair_opening hbefore', Option.some.injEq,
            Prod.mk.injEq] at hopen
          have hclose := congrArg (Text.splitAtChar '\x7d') hopen.2
          rw [Text.splitAtChar_append hname, Text.splitAtChar_append hname', Option.some.injEq,
            Prod.mk.injEq] at hclose
          cases ih hmore more' hmore' hclose.2
          rw [hopen.1, hclose.1]

end Cut

/-! ## Filling a cut -/

/-- References replaced by values, one each. -/
def References.filled (references : References) (values : List String) : List Char :=
  (List.zipWith (fun reference value => reference.1 ++ value.toList) references values).flatten

/-- The variable that a reference names is set to a value. -/
def IsValue (environment : Environment) (reference : List Char × List Char) (value : String) :
    Prop :=
  environment (String.ofList reference.2) = some value

/-- What comes of a cut.  The first reference that fails decides the error: its variable is not set,
or it has no end. -/
inductive ReferenceCut.Yields (environment : Environment) (cut : ReferenceCut) :
    Except ExpandError String → Prop
  | filled (values : List String)
      (hvalues : List.Forall₂ (IsValue environment) cut.references values)
      (htail : ¬ ['$', '\x7b'] <:+: cut.tail) :
      Yields environment cut (.ok (String.ofList (cut.references.filled values ++ cut.tail)))
  | missing (earlier later : References) (before name : List Char)
      (hreferences : cut.references = earlier ++ (before, name) :: later)
      (hearlier : ∀ reference ∈ earlier, ∃ value, IsValue environment reference value)
      (hname : environment (String.ofList name) = none) :
      Yields environment cut (.error (.missing (String.ofList name)))
  | unterminated (before after : List Char)
      (hreferences : ∀ reference ∈ cut.references, ∃ value, IsValue environment reference value)
      (htail : cut.tail = before ++ '$' :: '\x7b' :: after)
      (hbefore : ¬ ['$', '\x7b'] <:+: before) :
      Yields environment cut
        (.error (.unterminated (Text.byteLength (cut.references.text ++ before))))

section Expand

variable {environment : Environment} {before name : List Char}

/-- One round: the text is split at the first opening, and behind it at the first brace. -/
theorem expandFrom_eq (environment : Environment) (offset : Nat) (cs : List Char) :
    expandFrom environment offset cs =
      match Text.splitAtPair '$' '\x7b' cs with
      | none => .ok cs
      | some (before, rest) =>
          match Text.splitAtChar '\x7d' rest with
          | none => .error (.unterminated (offset + Text.byteLength before))
          | some (name, after) =>
              match environment (String.ofList name) with
              | none => .error (.missing (String.ofList name))
              | some value =>
                  (expandFrom environment
                    (offset + Text.byteLength (before ++ referenceText name)) after).map
                      (before ++ value.toList ++ ·) := by
  rw [expandFrom]
  split
  · rename_i hopen
    rw [hopen]
  · rename_i before rest hopen
    rw [hopen]
    split
    · rename_i hclose
      simp only [hclose]
    · rename_i name after hclose
      have hoffset : offset + Text.byteLength before +
          Text.byteLength ('$' :: '\x7b' :: name ++ ['\x7d']) =
            offset + Text.byteLength (before ++ referenceText name) := by
        rw [referenceText, Text.byteLength_append before, Nat.add_assoc]
      simp only [hclose, hoffset]
      cases environment (String.ofList name) with
      | none => rfl
      | some value => cases expandFrom environment _ after <;> rfl

/-- A text without an opening stays as it is. -/
theorem expandFrom_of_noOpening {cs : List Char} (hcs : ¬ ['$', '\x7b'] <:+: cs) (offset : Nat) :
    expandFrom environment offset cs = .ok cs := by
  rw [expandFrom_eq, Text.splitAtPair_eq_none_iff.mpr hcs]

/-- An opening without an end is reported where it stands. -/
theorem expandFrom_of_unclosed (hbefore : ¬ ['$', '\x7b'] <:+: before) {after : List Char}
    (hafter : '\x7d' ∉ after) (offset : Nat) :
    expandFrom environment offset (before ++ '$' :: '\x7b' :: after) =
      .error (.unterminated (offset + Text.byteLength before)) := by
  rw [expandFrom_eq, splitAtPair_opening hbefore]
  simp only [Text.splitAtChar_of_not_mem hafter]

/-- A reference is replaced by the value of its variable, or its variable is the error. -/
theorem expandFrom_reference (hbefore : ¬ ['$', '\x7b'] <:+: before) (hname : '\x7d' ∉ name)
    (rest : List Char) (offset : Nat) :
    expandFrom environment offset (before ++ (referenceText name ++ rest)) =
      match environment (String.ofList name) with
      | none => .error (.missing (String.ofList name))
      | some value =>
          (expandFrom environment (offset + Text.byteLength (before ++ referenceText name))
            rest).map (before ++ value.toList ++ ·) := by
  rw [expandFrom_eq, referenceText_append, splitAtPair_opening hbefore]
  simp only [Text.splitAtChar_append hname]

/-- The references before a text are replaced by their values, and the text is read on at its own
place. -/
theorem expandFrom_append {references : References} {values : List String}
    (hvalues : List.Forall₂ (IsValue environment) references values)
    (hbefore : ∀ reference ∈ references, ¬ ['$', '\x7b'] <:+: reference.1)
    (hname : ∀ reference ∈ references, '\x7d' ∉ reference.2) (rest : List Char) (offset : Nat) :
    expandFrom environment offset (references.text ++ rest) =
      (expandFrom environment (offset + Text.byteLength references.text) rest).map
        (references.filled values ++ ·) := by
  induction hvalues generalizing offset with
  | nil =>
      change expandFrom environment offset rest = (expandFrom environment offset rest).map ([] ++ ·)
      cases expandFrom environment offset rest <;> rfl
  | @cons reference value more values hvalue _ ih =>
      obtain ⟨before, name⟩ := reference
      rw [List.forall_mem_cons] at hbefore hname
      have hoffset : offset + Text.byteLength (before ++ referenceText name) +
          Text.byteLength (References.text more) =
            offset + Text.byteLength (References.text ((before, name) :: more)) := by
        rw [References.text_cons, ← List.append_assoc,
          Text.byteLength_append (before ++ referenceText name), Nat.add_assoc]
      rw [← hoffset, References.text_cons, List.append_assoc, List.append_assoc,
        expandFrom_reference hbefore.1 hname.1, hvalue]
      simp only [ih hbefore.2 hname.2]
      cases expandFrom environment _ rest with
      | error error => rfl
      | ok expanded => simp [Except.map, References.filled]

variable {cut : ReferenceCut} {outcome : Except ExpandError String}

theorem exists_values {references : References}
    (hset : ∀ reference ∈ references, ∃ value, IsValue environment reference value) :
    ∃ values, List.Forall₂ (IsValue environment) references values := by
  induction references with
  | nil => exact ⟨[], .nil⟩
  | cons reference more ih =>
      rw [List.forall_mem_cons] at hset
      obtain ⟨value, hvalue⟩ := hset.1
      obtain ⟨values, hvalues⟩ := ih hset.2
      exact ⟨value :: values, .cons hvalue hvalues⟩

/-- Expanding a text gives what comes of its cut. -/
theorem expand_of_yields (hcut : cut.IsLeftmost) (hyields : cut.Yields environment outcome) :
    expand environment (String.ofList cut.text) = outcome := by
  rw [expand, String.toList_ofList, ReferenceCut.text]
  cases hyields with
  | filled values hvalues htail =>
      rw [expandFrom_append hvalues hcut.before hcut.name, expandFrom_of_noOpening htail]
      rfl
  | missing earlier later before name hreferences hearlier hname =>
      obtain ⟨values, hvalues⟩ := exists_values hearlier
      have hbefore := hcut.before
      have hbrace := hcut.name
      rw [hreferences, List.forall_mem_append, List.forall_mem_cons] at hbefore hbrace
      have htext : cut.references.text =
          earlier.text ++ (before ++ (referenceText name ++ later.text)) := by
        rw [hreferences, References.text, List.flatMap_append]
        exact congrArg _ (References.text_cons ..)
      rw [htext, List.append_assoc, List.append_assoc, List.append_assoc,
        expandFrom_append hvalues hbefore.1 hbrace.1,
        expandFrom_reference hbefore.2.1 hbrace.2.1, hname]
      rfl
  | unterminated before after hreferences htail hbefore =>
      obtain ⟨values, hvalues⟩ := exists_values hreferences
      have hafter : '\x7d' ∉ after := by
        intro hmem
        obtain ⟨name, rest, rfl⟩ := List.append_of_mem hmem
        exact hcut.tail name ⟨before, rest, by simp [htail, referenceText]⟩
      rw [expandFrom_append hvalues hcut.before hcut.name, htail,
        expandFrom_of_unclosed hbefore hafter, Nat.zero_add, ← Text.byteLength_append]
      rfl

/-- Something comes of every cut. -/
theorem exists_yields (environment : Environment) (cut : ReferenceCut) :
    ∃ outcome, cut.Yields environment outcome := by
  cases hfind : cut.references.find? fun reference =>
      (environment (String.ofList reference.2)).isNone with
  | some culprit =>
      obtain ⟨hnone, earlier, later, hreferences, hearlier⟩ :=
        List.find?_eq_some_iff_append.mp hfind
      refine ⟨_, .missing earlier later culprit.1 culprit.2 hreferences
        (fun reference hmem => ?_) ?_⟩
      · exact Option.isSome_iff_exists.mp (by simpa using hearlier reference hmem)
      · exact Option.isNone_iff_eq_none.mp hnone
  | none =>
      have hset : ∀ reference ∈ cut.references, ∃ value, IsValue environment reference value := by
        intro reference hmem
        exact Option.ne_none_iff_exists'.mp
          (by simpa using List.find?_eq_none.mp hfind reference hmem)
      cases hopen : Text.splitAtPair '$' '\x7b' cut.tail with
      | none =>
          obtain ⟨values, hvalues⟩ := exists_values hset
          exact ⟨_, .filled values hvalues (Text.splitAtPair_eq_none_iff.mp hopen)⟩
      | some parts =>
          have htail := Text.eq_append_of_splitAtPair hopen
          exact ⟨_, .unterminated parts.1 parts.2 hset htail (not_infix_before hopen)⟩

end Expand

/-- Every text has exactly one cut from the left, and expanding the text gives exactly what comes of
that cut: the text filled with the values as they are, or the error of the first reference that
fails.  A text without an opening stays as it is. -/
theorem expand_iff_yields (environment : Environment) (text : String) :
    (∃! cut : ReferenceCut, cut.text = text.toList ∧ cut.IsLeftmost) ∧
      (∀ cut : ReferenceCut, cut.text = text.toList → cut.IsLeftmost →
        ∀ outcome, expand environment text = outcome ↔ cut.Yields environment outcome) ∧
      (¬ ['$', '\x7b'] <:+: text.toList → expand environment text = .ok text) := by
  refine ⟨?_, fun cut htext hcut outcome => ?_, fun htext => ?_⟩
  · obtain ⟨cut, htext, hcut⟩ := exists_leftmost text.toList
    refine ⟨cut, ⟨htext, hcut⟩, fun other hother => ?_⟩
    exact hother.2.eq_of_text hcut (hother.1.trans htext.symm)
  · have hexpand {result : Except ExpandError String} (hresult : cut.Yields environment result) :
        expand environment text = result := by
      rw [← expand_of_yields hcut hresult, htext, String.ofList_toList]
    refine ⟨fun houtcome => ?_, hexpand⟩
    obtain ⟨result, hresult⟩ := exists_yields environment cut
    rwa [← houtcome, hexpand hresult]
  · rw [expand, expandFrom_of_noOpening htext]
    exact congrArg Except.ok String.ofList_toList

/-- The value of `A` looks like a reference, and it is longer than the reference that it replaces.
Neither shows: the opening without an end is the one at byte 7 of the text. -/
theorem expand_iff_yields_unclosed :
    expand (fun name => if name = "A" then some "$\x7bLONG\x7d" else none) "é$\x7bA\x7d-$\x7bB" =
      .error (.unterminated 7) := by
  have hcut : ReferenceCut.IsLeftmost ⟨[(['é'], ['A'])], ['-', '$', '\x7b', 'B']⟩ := by
    refine ReferenceCut.isLeftmost_cons_iff.mpr
      ⟨by decide, by decide, by simp, by simp, fun name hinside => ?_⟩
    have hbrace : '\x7d' ∈ referenceText name := by simp [referenceText]
    exact absurd (hinside.subset hbrace) (by decide)
  refine ((expand_iff_yields _ _).2.1 _ rfl hcut _).mpr ?_
  refine .unterminated ['-'] ['B'] (fun reference hmem => ⟨"$\x7bLONG\x7d", ?_⟩) rfl (by decide)
  rw [List.mem_singleton.mp hmem]
  rfl

end QueryArtifacts
