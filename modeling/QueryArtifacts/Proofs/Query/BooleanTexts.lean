import Mathlib.Data.List.Nodup
import Mathlib.Data.List.SplitBy
import QueryArtifacts.Text.Blank

/-!
# Reading boolean texts

A condition is read as SQL reads it: `AND` binds tighter than `OR`, so that a text is a disjunction
of conjunctions of atoms.  Only words outside of parentheses and quotes count as connectives; what
stands between two of them is an atom, whatever it says.  Conditions are boolean texts: the `AND` of
a `BETWEEN` and the text of a comment are not told apart.

* `lexemes`, `tokens` — the words and signs of a text, and the connectives among them.
* `disjuncts`, `holds` — the reading, and its truth when the atoms have theirs.
* `tokens_and` — reading two texts with `AND` between them.
* `meansAll_intercalate`, `MeansAll.or_notMem` — when texts joined by `AND` say what the texts say
  together.
-/

namespace QueryArtifacts
namespace BooleanText

/-! ## Words, signs and connectives -/

/-- A word, or a sign of one character. -/
abbrev Lexeme := List Char

/-- The characters of words. -/
def isWordChar (c : Char) : Bool :=
  c.isAlphanum || c = '_' || (127 < c.toNat && !Text.isBlank c)

/-- The words of a text, each as long as it goes, and all other characters one by one. -/
def lexemes (s : List Char) : List Lexeme :=
  s.splitBy fun c d => isWordChar c && isWordChar d

/-- Where a lexeme stands: how many parentheses are open, and inside of which quotes, with whether
a backslash stands before it there. -/
structure Nesting where
  depth : Nat := 0
  quote : Option Lexeme := none
  escaped : Bool := false
  deriving DecidableEq, Repr

/-- The signs that open and close literals and quoted names. -/
def quotes : List Lexeme :=
  [['\''], ['"'], ['`']]

/-- The nesting behind a lexeme. -/
def Nesting.after (nesting : Nesting) (lexeme : Lexeme) : Nesting :=
  match nesting.quote with
  | some quote =>
      if nesting.escaped then { nesting with escaped := false }
      else if lexeme = ['\\'] then { nesting with escaped := true }
      else if lexeme = quote then { nesting with quote := none }
      else nesting
  | none =>
      if lexeme = ['('] then { nesting with depth := nesting.depth + 1 }
      else if lexeme = [')'] then { nesting with depth := nesting.depth - 1 }
      else if lexeme ∈ quotes then { nesting with quote := some lexeme }
      else nesting

/-- A connective or a part of an atom. -/
inductive Token where
  | and
  | or
  | part (lexeme : Lexeme)
  deriving DecidableEq, Repr

/-- The token of a lexeme: a connective outside of everything, in letters of either case. -/
def token (nesting : Nesting) (lexeme : Lexeme) : Token :=
  if nesting = {} ∧ lexeme.map Char.toUpper = ['A', 'N', 'D'] then .and
  else if nesting = {} ∧ lexeme.map Char.toUpper = ['O', 'R'] then .or
  else .part lexeme

/-- The tokens of lexemes.  Blanks count inside quotes only. -/
def tokensFrom : Nesting → List Lexeme → List Token
  | _, [] => []
  | nesting, lexeme :: rest =>
      if nesting.quote = none ∧ Text.allBlank lexeme = true then
        tokensFrom (nesting.after lexeme) rest
      else
        token nesting lexeme :: tokensFrom (nesting.after lexeme) rest

/-- The tokens of a text. -/
def tokens (text : String) : List Token :=
  tokensFrom {} (lexemes text.toList)

/-- Every parenthesis and every quote that a text opens is closed in it. -/
def IsClosed (text : String) : Prop :=
  (lexemes text.toList).foldl Nesting.after {} = {}

instance (text : String) : Decidable (IsClosed text) :=
  inferInstanceAs (Decidable (_ = _))

/-! ## The reading -/

/-- A text as a disjunction of conjunctions of atoms. -/
def disjuncts (text : String) : List (List (List Token)) :=
  ((tokens text).splitOn .or).map fun conjunction => conjunction.splitOn .and

/-- The atoms of a text, from the left. -/
def atoms (text : String) : List (List Token) :=
  (disjuncts text).flatten

/-- Whether a text holds when its atoms have the given truth. -/
def holds (truth : List Token → Bool) (text : String) : Bool :=
  (disjuncts text).any fun conjunction => conjunction.all truth

theorem holds_iff {truth : List Token → Bool} {text : String} : holds truth text = true ↔
    ∃ conjunction ∈ disjuncts text, ∀ atom ∈ conjunction, truth atom = true := by
  simp [holds]

/-- A text says what texts say together: it holds where all of them hold, and nowhere else. -/
def MeansAll (joined : String) (texts : List String) : Prop :=
  ∀ truth, holds truth joined = true ↔ ∀ text ∈ texts, holds truth text = true

/-- No conjunction is empty, so that a text that holds has an atom that does. -/
theorem exists_mem_atoms_of_holds {truth : List Token → Bool} {text : String}
    (hholds : holds truth text = true) : ∃ atom ∈ atoms text, truth atom = true := by
  obtain ⟨conjunction, hmem, htrue⟩ := holds_iff.mp hholds
  obtain ⟨group, -, rfl⟩ := List.mem_map.mp hmem
  obtain ⟨atom, hatom⟩ := List.exists_mem_of_ne_nil _ (List.splitOn_ne_nil Token.and group)
  exact ⟨atom, List.mem_flatten.mpr ⟨_, hmem, hatom⟩, htrue atom hatom⟩

/-- The truth of the atoms of one conjunction, and of no others. -/
def only (conjunction : List (List Token)) (atom : List Token) : Bool :=
  decide (atom ∈ conjunction)

theorem holds_only {conjunction : List (List Token)} {text : String}
    (hmem : conjunction ∈ disjuncts text) : holds (only conjunction) text = true :=
  holds_iff.mpr ⟨conjunction, hmem, fun _ hatom => decide_eq_true hatom⟩

theorem holds_only_eq_false {conjunction : List (List Token)} {text : String}
    (hapart : (atoms text).Disjoint conjunction) : holds (only conjunction) text = false := by
  rw [Bool.eq_false_iff]
  intro hholds
  obtain ⟨atom, hatom, htrue⟩ := exists_mem_atoms_of_holds hholds
  exact hapart hatom (of_decide_eq_true htrue)

/-! ## Two texts with `AND` between them -/

theorem lexemes_and (s t : List Char) :
    lexemes (s ++ " AND ".toList ++ t) =
      lexemes s ++ [[' '], ['A', 'N', 'D'], [' ']] ++ lexemes t := by
  have hblank : isWordChar ' ' = false := by decide
  have hfront :
      lexemes (s ++ " AND ".toList ++ t) = lexemes s ++ lexemes (" AND ".toList ++ t) := by
    rw [List.append_assoc]
    refine List.splitBy_append fun c _ d hd => ?_
    obtain rfl : d = ' ' := by simpa using hd.symm
    rw [hblank, Bool.and_false]
  have hback : lexemes (" AND ".toList ++ t) = lexemes " AND ".toList ++ lexemes t := by
    refine List.splitBy_append fun c hc d _ => ?_
    obtain rfl : c = ' ' := by simpa using hc.symm
    rw [hblank, Bool.false_and]
  have hbetween : lexemes " AND ".toList = [[' '], ['A', 'N', 'D'], [' ']] := by decide
  rw [hfront, hback, hbetween, List.append_assoc]

theorem tokensFrom_append (nesting : Nesting) (before after : List Lexeme) :
    tokensFrom nesting (before ++ after) =
      tokensFrom nesting before ++ tokensFrom (before.foldl Nesting.after nesting) after := by
  induction before generalizing nesting with
  | nil => rfl
  | cons lexeme rest ih =>
      rw [List.cons_append, tokensFrom, tokensFrom, List.foldl_cons, ih]
      split <;> rfl

/-- Behind a closed text, `AND` is a connective. -/
theorem tokens_and {s : String} (hclosed : IsClosed s) (t : String) :
    tokens (s ++ " AND " ++ t) = tokens s ++ .and :: tokens t := by
  have hbetween (rest : List Lexeme) :
      tokensFrom {} ([[' '], ['A', 'N', 'D'], [' ']] ++ rest) = .and :: tokensFrom {} rest := rfl
  rw [tokens, String.toList_append, String.toList_append, lexemes_and, List.append_assoc,
    tokensFrom_append, hclosed, hbetween]
  rfl

/-- A separator cuts around an element that is none. -/
theorem exists_splitOn_append {α : Type} [DecidableEq α] {separator a : α} (ha : a ≠ separator)
    (s t : List α) :
    ∃ front last first back, s.splitOn separator = front ++ [last] ∧
      t.splitOn separator = first :: back ∧
      (s ++ a :: t).splitOn separator = front ++ (last ++ a :: first) :: back := by
  obtain ⟨first, back, ht⟩ := List.exists_cons_of_ne_nil (List.splitOn_ne_nil separator t)
  induction s with
  | nil =>
      refine ⟨[], [], first, back, rfl, ht, ?_⟩
      rw [List.nil_append, List.splitOn_cons_eq_if_modifyHead, if_neg (by simpa using ha), ht]
      rfl
  | cons x rest ih =>
      obtain ⟨front, last, first', back', hrest, ht', hjoined⟩ := ih
      by_cases hx : x = separator
      · refine ⟨[] :: front, last, first', back', ?_, ht', ?_⟩
        · rw [List.splitOn_cons_eq_if_modifyHead, if_pos (by simpa using hx), hrest]
          rfl
        · rw [List.cons_append, List.splitOn_cons_eq_if_modifyHead, if_pos (by simpa using hx),
            hjoined]
          rfl
      · have hcons (more : List α) :
            (x :: more).splitOn separator = (more.splitOn separator).modifyHead (List.cons x) := by
          rw [List.splitOn_cons_eq_if_modifyHead, if_neg (by simpa using hx)]
        rw [hcons, hrest, List.cons_append, hcons, hjoined]
        cases front with
        | nil => exact ⟨[], x :: last, first', back', rfl, ht', rfl⟩
        | cons group more => exact ⟨(x :: group) :: more, last, first', back', rfl, ht', rfl⟩

/-- `AND` ties the last conjunction in front of it to the first one behind it, and no others. -/
theorem exists_disjuncts_and {s : String} (hclosed : IsClosed s) (t : String) :
    ∃ front last first back, disjuncts s = front ++ [last] ∧ disjuncts t = first :: back ∧
      disjuncts (s ++ " AND " ++ t) = front ++ (last ++ first) :: back := by
  obtain ⟨front, last, first, back, hs, ht, hjoined⟩ :=
    exists_splitOn_append (by decide : Token.and ≠ .or) (tokens s) (tokens t)
  refine ⟨front.map (·.splitOn .and), last.splitOn .and, first.splitOn .and,
    back.map (·.splitOn .and), ?_, ?_, ?_⟩
  · rw [disjuncts, hs, List.map_append]
    rfl
  · rw [disjuncts, ht]
    rfl
  · rw [disjuncts, tokens_and hclosed, hjoined, List.map_append, List.map_cons,
      List.splitOn_append_cons_self]

theorem atoms_and {s : String} (hclosed : IsClosed s) (t : String) :
    atoms (s ++ " AND " ++ t) = atoms s ++ atoms t := by
  obtain ⟨front, last, first, back, hs, ht, hjoined⟩ := exists_disjuncts_and hclosed t
  rw [atoms, atoms, atoms, hs, ht, hjoined]
  simp

/-- What two texts say together is said by the texts with `AND` between them. -/
theorem holds_and_of_holds {truth : List Token → Bool} {s t : String} (hclosed : IsClosed s)
    (hs : holds truth s = true) (ht : holds truth t = true) :
    holds truth (s ++ " AND " ++ t) = true := by
  obtain ⟨front, last, first, back, hsplit, htsplit, hjoined⟩ := exists_disjuncts_and hclosed t
  rw [holds, hsplit, List.any_append, Bool.or_eq_true] at hs
  rw [holds, htsplit, List.any_cons, Bool.or_eq_true] at ht
  rw [holds, hjoined, List.any_append, List.any_cons, List.all_append]
  rcases hs with hfront | hlast
  · rw [hfront, Bool.true_or]
  · rcases ht with hfirst | hback
    · have hlast' : last.all truth = true := by simpa using hlast
      rw [hlast', hfirst, Bool.and_self, Bool.true_or, Bool.or_true]
    · rw [hback, Bool.or_true, Bool.or_true]

/-- A text without `OR` is one conjunction. -/
theorem exists_disjuncts_eq_singleton {text : String} (hor : Token.or ∉ tokens text) :
    ∃ conjunction, disjuncts text = [conjunction] := by
  refine ⟨(tokens text).splitOn .and, ?_⟩
  rw [disjuncts, List.splitOn_eq_singleton hor]
  rfl

theorem holds_and_iff {truth : List Token → Bool} {s t : String} (hclosed : IsClosed s)
    (hs : Token.or ∉ tokens s) (ht : Token.or ∉ tokens t) :
    holds truth (s ++ " AND " ++ t) = true ↔ holds truth s = true ∧ holds truth t = true := by
  obtain ⟨front, last, first, back, hsplit, htsplit, hjoined⟩ := exists_disjuncts_and hclosed t
  obtain ⟨_, hsingle⟩ := exists_disjuncts_eq_singleton hs
  obtain ⟨_, htsingle⟩ := exists_disjuncts_eq_singleton ht
  obtain rfl : front = [] := by simpa [hsplit] using congrArg List.length hsingle
  obtain rfl : back = [] := by simpa [htsplit] using congrArg List.length htsingle
  simp [holds, hsplit, htsplit, hjoined]

/-! ## Texts joined by `AND` -/

section Joined

variable {texts : List String} {truth : List Token → Bool}

theorem or_mem_tokens_intercalate_iff (hclosed : ∀ text ∈ texts, IsClosed text) :
    Token.or ∈ tokens (" AND ".intercalate texts) ↔ ∃ text ∈ texts, Token.or ∈ tokens text := by
  induction texts with
  | nil => decide
  | cons text rest ih =>
      rw [List.forall_mem_cons] at hclosed
      cases rest with
      | nil => simp
      | cons other more =>
          rw [String.intercalate_cons_cons, tokens_and hclosed.1, List.mem_append, List.mem_cons,
            ih hclosed.2, List.exists_mem_cons_iff]
          simp

theorem atoms_intercalate (hsome : texts ≠ []) (hclosed : ∀ text ∈ texts, IsClosed text) :
    atoms (" AND ".intercalate texts) = texts.flatMap atoms := by
  induction texts with
  | nil => exact absurd rfl hsome
  | cons text rest ih =>
      rw [List.forall_mem_cons] at hclosed
      cases rest with
      | nil => simp
      | cons other more =>
          rw [String.intercalate_cons_cons, atoms_and hclosed.1,
            ih (List.cons_ne_nil _ _) hclosed.2]
          rfl

/-- What texts say together is said by the texts joined by `AND`. -/
theorem holds_intercalate_of_forall (hsome : texts ≠ [])
    (hclosed : ∀ text ∈ texts, IsClosed text) (hholds : ∀ text ∈ texts, holds truth text = true) :
    holds truth (" AND ".intercalate texts) = true := by
  induction texts with
  | nil => exact absurd rfl hsome
  | cons text rest ih =>
      rw [List.forall_mem_cons] at hclosed hholds
      cases rest with
      | nil => simpa using hholds.1
      | cons other more =>
          rw [String.intercalate_cons_cons]
          exact holds_and_of_holds hclosed.1 hholds.1
            (ih (List.cons_ne_nil _ _) hclosed.2 hholds.2)

/-- A single text says what it says, and texts without `OR` say together what the texts joined by
`AND` say. -/
theorem meansAll_intercalate (hsome : texts ≠ []) (hclosed : ∀ text ∈ texts, IsClosed text)
    (hor : texts.length = 1 ∨ ∀ text ∈ texts, Token.or ∉ tokens text) :
    MeansAll (" AND ".intercalate texts) texts := by
  intro truth
  rcases hor with hsingle | hor
  · obtain ⟨text, rfl⟩ := List.length_eq_one_iff.mp hsingle
    simp
  · induction texts with
    | nil => exact absurd rfl hsome
    | cons text rest ih =>
        rw [List.forall_mem_cons] at hclosed hor ⊢
        cases rest with
        | nil => simp
        | cons other more =>
            have hrest : Token.or ∉ tokens (" AND ".intercalate (other :: more)) := by
              rw [or_mem_tokens_intercalate_iff hclosed.2]
              rintro ⟨text, hmem, htext⟩
              exact hor.2 text hmem htext
            rw [String.intercalate_cons_cons, holds_and_iff hclosed.1 hor.1 hrest,
              ih (List.cons_ne_nil _ _) hclosed.2 hor.2]

/-- A text with `OR` has two conjunctions, or more. -/
theorem exists_disjuncts_of_or_mem {text : String} (hor : Token.or ∈ tokens text) :
    ∃ first between last, disjuncts text = first :: between ++ [last] := by
  obtain ⟨front, back, htokens⟩ := List.append_of_mem hor
  have hsplit : disjuncts text = (front.splitOn .or).map (·.splitOn .and) ++
      (back.splitOn .or).map (·.splitOn .and) := by
    rw [disjuncts, htokens, List.splitOn_append_cons_self, List.map_append]
  have hsome (part : List Token) : (part.splitOn Token.or).map (·.splitOn Token.and) ≠ [] :=
    List.map_eq_nil_iff.not.mpr (List.splitOn_ne_nil _ _)
  obtain ⟨first, more, hfirst⟩ := List.exists_cons_of_ne_nil (hsome front)
  obtain ⟨others, last, hlast⟩ := (List.eq_nil_or_concat _).resolve_left (hsome back)
  refine ⟨first, more ++ others, last, ?_⟩
  rw [hsplit, hfirst, hlast, List.concat_eq_append, List.cons_append, List.cons_append,
    List.append_assoc]

/-- **Texts joined by `AND` say something else if one of them has an `OR`.**  If no two of their
atoms are the same, there is a truth under which they hold joined, but not all of them by
themselves. -/
theorem exists_holds_intercalate (hclosed : ∀ text ∈ texts, IsClosed text)
    (hdistinct : (texts.flatMap atoms).Nodup) (hseveral : 2 ≤ texts.length)
    (hor : ∃ text ∈ texts, Token.or ∈ tokens text) :
    ∃ truth, holds truth (" AND ".intercalate texts) = true ∧
      ∃ text ∈ texts, holds truth text = false := by
  obtain ⟨text, other, more, rfl⟩ : ∃ text other more, texts = text :: other :: more := by
    match texts, hseveral with
    | text :: other :: more, _ => exact ⟨text, other, more, rfl⟩
  obtain ⟨first, between, last, hjoined⟩ :=
    exists_disjuncts_of_or_mem ((or_mem_tokens_intercalate_iff hclosed).mpr hor)
  have hatoms : first ++ (between.flatten ++ last) =
      atoms text ++ (atoms other ++ more.flatMap atoms) := by
    rw [← List.flatMap_cons, ← List.flatMap_cons,
      ← atoms_intercalate (List.cons_ne_nil _ _) hclosed, atoms, hjoined]
    simp
  have hunique : (atoms text ++ (atoms other ++ more.flatMap atoms)).Nodup := by
    simpa [List.flatMap_cons] using hdistinct
  rcases List.append_eq_append_iff.mp hatoms with ⟨rest, hinside, -⟩ | ⟨rest, hreach, -⟩
  · -- The first conjunction lies in the first text, and leaves the second one out.
    refine ⟨only first, holds_only (by rw [hjoined]; simp), other, by simp, ?_⟩
    refine holds_only_eq_false fun atom hatom hfirst => ?_
    have htext : atom ∈ atoms text := by
      rw [hinside]
      exact List.mem_append_left _ hfirst
    exact List.disjoint_of_nodup_append hunique htext (List.mem_append_left _ hatom)
  · -- It holds all of the first text, and the last conjunction leaves that one out.
    rw [← hatoms] at hunique
    refine ⟨only last, holds_only (by rw [hjoined]; simp), text, by simp, ?_⟩
    refine holds_only_eq_false fun atom hatom hlast => ?_
    have hfirst : atom ∈ first := by
      rw [hreach]
      exact List.mem_append_left _ hatom
    exact List.disjoint_of_nodup_append hunique hfirst (List.mem_append_right _ hlast)

/-- Texts with different atoms that say together what they say joined by `AND` have no `OR`, or are
a single text. -/
theorem MeansAll.or_notMem (hmeans : MeansAll (" AND ".intercalate texts) texts)
    (hclosed : ∀ text ∈ texts, IsClosed text) (hdistinct : (texts.flatMap atoms).Nodup) :
    texts.length = 1 ∨ ∀ text ∈ texts, Token.or ∉ tokens text := by
  by_contra hsome
  push Not at hsome
  obtain ⟨hlength, text, hmem, hor⟩ := hsome
  have hseveral : 2 ≤ texts.length := by
    have hpos := List.length_pos_of_mem hmem
    omega
  obtain ⟨truth, hjoined, other, hother, hfalse⟩ :=
    exists_holds_intercalate hclosed hdistinct hseveral ⟨text, hmem, hor⟩
  exact absurd ((hmeans truth).mp hjoined other hother) (Bool.eq_false_iff.mp hfalse)

end Joined

end BooleanText
end QueryArtifacts
