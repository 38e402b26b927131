import QueryArtifacts.Text.Quoted

/-!
# Reading doubled quotes

In a string literal two quotes in a row stand for one.  Some dialects also have an escape character,
which makes the next character stand for itself; a writer that only doubles quotes knows nothing of
it.

* `readLiteral?` — the value of a literal in front, and what follows.
* `mem_doubled`, `quoteDoubled_injective` — what doubling brings in, and that it loses nothing.
* `readLiteral?_quoteDoubled_iff` — a text is read as it was exactly if it does not hold the escape
  character.
-/

namespace QueryArtifacts
namespace Text

/-- Where a reader of a literal stands: behind a character of its value, behind a quote that may be
the first of two, or behind an escape character. -/
inductive LiteralState where
  | value
  | quote
  | escape
  deriving DecidableEq, Repr

/-- Read up to the quote `q` that closes a literal, in a dialect with or without an escape
character. -/
def readLiteralFrom? (q : Char) (escape : Option Char) :
    LiteralState → List Char → Option (List Char × List Char)
  | .value, [] => none
  | .quote, [] => some ([], [])
  | .escape, [] => none
  | .value, c :: rest =>
      if c = q then
        readLiteralFrom? q escape .quote rest
      else if escape = some c then
        readLiteralFrom? q escape .escape rest
      else
        (readLiteralFrom? q escape .value rest).map fun (value, after) => (c :: value, after)
  | .quote, c :: rest =>
      if c = q then
        (readLiteralFrom? q escape .value rest).map fun (value, after) => (c :: value, after)
      else
        some ([], c :: rest)
  | .escape, c :: rest =>
      (readLiteralFrom? q escape .value rest).map fun (value, after) => (c :: value, after)

/-- Read a literal between quotes `q`. -/
def readLiteral? (q : Char) (escape : Option Char) : List Char → Option (List Char × List Char)
  | [] => none
  | c :: rest => if c = q then readLiteralFrom? q escape .value rest else none

example : readLiteral? '\'' none "'it''s' OR".toList = some ("it's".toList, " OR".toList) := by
  decide
example : readLiteral? '\'' (some '\\') "'it\\''s'".toList = some ("it'".toList, "s'".toList) := by
  decide

section Doubled

variable {q e : Char} {escape : Option Char}

/-- Doubling brings in quotes only. -/
theorem mem_doubled {c : Char} {s : List Char} (hc : c ∈ doubled q s) : c ∈ s ∨ c = q := by
  induction s with
  | nil => cases hc
  | cons first rest ih =>
      rw [doubled] at hc
      split at hc <;> grind

theorem mem_quoteDoubled {c : Char} {s : String} (hc : c ∈ (quoteDoubled q s).toList) :
    c ∈ s.toList ∨ c = q := by
  rw [toList_quoteDoubled, List.mem_append, List.mem_cons, List.mem_singleton] at hc
  rcases hc with (hopen | hinside) | hclose
  · exact Or.inr hopen
  · exact mem_doubled hinside
  · exact Or.inr hclose

/-! ## Text without the escape character -/

theorem readLiteralFrom?_doubled {s : List Char} (hs : ∀ c ∈ s, escape ≠ some c)
    {rest : List Char} (hrest : rest.head? ≠ some q) :
    readLiteralFrom? q escape .value (doubled q s ++ q :: rest) = some (s, rest) := by
  induction s with
  | nil =>
      rw [doubled, List.nil_append, readLiteralFrom?, if_pos rfl]
      cases rest with
      | nil => rfl
      | cons d more =>
          have hd : d ≠ q := fun heq => hrest (by rw [heq, List.head?_cons])
          rw [readLiteralFrom?, if_neg hd]
  | cons c more ih =>
      rw [List.forall_mem_cons] at hs
      by_cases hquote : c = q
      · rw [doubled, if_pos hquote, List.cons_append, List.cons_append, readLiteralFrom?,
          if_pos rfl, readLiteralFrom?, if_pos rfl, ih hs.2, Option.map_some, hquote]
      · rw [doubled, if_neg hquote, List.cons_append, readLiteralFrom?, if_neg hquote,
          if_neg hs.1, ih hs.2, Option.map_some]

/-- Text without the escape character is read as it was, whatever follows but a quote. -/
theorem readLiteral?_quoteDoubled {s : String} (hs : ∀ c ∈ s.toList, escape ≠ some c)
    {rest : List Char} (hrest : rest.head? ≠ some q) :
    readLiteral? q escape ((quoteDoubled q s).toList ++ rest) = some (s.toList, rest) := by
  rw [toList_quoteDoubled, List.append_assoc, List.cons_append, readLiteral?, if_pos rfl,
    List.singleton_append, readLiteralFrom?_doubled hs hrest]

/-- Doubling loses nothing. -/
theorem quoteDoubled_injective {s t : String} (hsame : quoteDoubled q s = quoteDoubled q t) :
    s = t := by
  have hread (u : String) :
      readLiteral? q none ((quoteDoubled q u).toList ++ []) = some (u.toList, []) :=
    readLiteral?_quoteDoubled (by simp) (by simp)
  have hvalues : some (s.toList, ([] : List Char)) = some (t.toList, []) := by
    rw [← hread s, ← hread t, hsame]
  rw [Option.some.injEq, Prod.mk.injEq] at hvalues
  exact String.toList_inj.mp hvalues.1

/-! ## Text with the escape character -/

/-- A character in front of what a reader returns. -/
theorem exists_of_map_cons {c : Char} {read : Option (List Char × List Char)}
    {value after : List Char}
    (hread : (read.map fun (value, after) => (c :: value, after)) = some (value, after)) :
    ∃ more, value = c :: more ∧ read = some (more, after) := by
  obtain ⟨⟨more, after⟩, hmore, heq⟩ := Option.map_eq_some_iff.mp hread
  cases heq
  exact ⟨more, rfl, hmore⟩

/-- What follows a literal is an end of what was read. -/
theorem suffix_of_readLiteralFrom? {state : LiteralState} {cs value after : List Char}
    (hread : readLiteralFrom? q escape state cs = some (value, after)) : after <:+ cs := by
  fun_induction readLiteralFrom? q escape state cs generalizing value after with
  | case1 => cases hread
  | case2 =>
      cases hread
      exact List.suffix_rfl
  | case3 => cases hread
  | case4 rest ih => exact (ih hread).trans (List.suffix_cons ..)
  | case5 c rest hquote hescape ih => exact (ih hread).trans (List.suffix_cons ..)
  | case8 c rest hquote =>
      cases hread
      exact List.suffix_rfl
  | case6 c rest hquote hescape ih | case7 rest ih | case9 c rest ih =>
      obtain ⟨more, -, hmore⟩ := exists_of_map_cons hread
      exact (ih hmore).trans (List.suffix_cons ..)

/-- A literal that is not closed yet takes at least its closing quote. -/
theorem readLiteralFrom?_value_ne (cs value : List Char) :
    readLiteralFrom? q escape .value cs ≠ some (value, cs) := by
  cases cs with
  | nil => simp [readLiteralFrom?]
  | cons c rest =>
      intro hread
      have hsuffix : c :: rest <:+ rest := by
        rw [readLiteralFrom?] at hread
        split at hread
        · exact suffix_of_readLiteralFrom? hread
        · split at hread
          · exact suffix_of_readLiteralFrom? hread
          · obtain ⟨more, -, hmore⟩ := exists_of_map_cons hread
            exact suffix_of_readLiteralFrom? hmore
      exact absurd hsuffix.length_le (Nat.not_succ_le_self _)

/-- Behind an odd quote, the reader takes the wrong quotes for pairs and does not close at the
end. -/
theorem readLiteralFrom?_quote_doubled_ne (s rest value : List Char) :
    readLiteralFrom? q escape .quote (doubled q s ++ q :: rest) ≠ some (value, rest) := by
  induction s generalizing value with
  | nil =>
      intro hread
      rw [doubled, List.nil_append, readLiteralFrom?, if_pos rfl] at hread
      obtain ⟨more, -, hmore⟩ := exists_of_map_cons hread
      exact readLiteralFrom?_value_ne rest more hmore
  | cons c more ih =>
      intro hread
      by_cases hquote : c = q
      · rw [doubled, if_pos hquote, List.cons_append, List.cons_append, readLiteralFrom?,
          if_pos rfl, readLiteralFrom?, if_pos rfl] at hread
        obtain ⟨value', -, hmore⟩ := exists_of_map_cons hread
        exact ih value' hmore
      · rw [doubled, if_neg hquote, List.cons_append, readLiteralFrom?, if_neg hquote] at hread
        have hlength := congrArg List.length (Prod.mk.inj (Option.some.inj hread)).2
        simp at hlength
        omega

/-- A quote closes a literal with nothing in it, or is the first of two. -/
theorem eq_nil_of_readLiteralFrom?_quote {rest value : List Char}
    (hread : readLiteralFrom? q escape .quote rest = some (value, rest)) : value = [] := by
  cases rest with
  | nil => exact (Prod.mk.inj (Option.some.inj hread)).1.symm
  | cons d more =>
      rw [readLiteralFrom?] at hread
      split at hread
      · obtain ⟨value', -, hmore⟩ := exists_of_map_cons hread
        exact absurd (suffix_of_readLiteralFrom? hmore).length_le (Nat.not_succ_le_self _)
      · exact (Prod.mk.inj (Option.some.inj hread)).1.symm

/-- The value of a literal that is read to its end is no longer than the text, and shorter if the
text holds the escape character. -/
theorem length_of_readLiteralFrom?_doubled (he : e ≠ q) (s rest : List Char) :
    (∀ value, readLiteralFrom? q (some e) .value (doubled q s ++ q :: rest) = some (value, rest) →
      value.length ≤ s.length ∧ (e ∈ s → value.length < s.length)) ∧
    ∀ value, readLiteralFrom? q (some e) .escape (doubled q s ++ q :: rest) = some (value, rest) →
      value.length ≤ s.length := by
  induction s with
  | nil =>
      rw [doubled, List.nil_append]
      constructor
      · intro value hread
        rw [readLiteralFrom?, if_pos rfl] at hread
        rw [eq_nil_of_readLiteralFrom?_quote hread]
        simp
      · intro value hread
        rw [readLiteralFrom?] at hread
        obtain ⟨value', -, hmore⟩ := exists_of_map_cons hread
        exact absurd hmore (readLiteralFrom?_value_ne rest value')
  | cons c more ih =>
      obtain ⟨ihvalue, ihescape⟩ := ih
      by_cases hquote : c = q
      · have hmem : e ∈ c :: more → e ∈ more := fun hmem =>
          (List.mem_cons.mp hmem).resolve_left fun heq => he (heq.trans hquote)
        rw [doubled, if_pos hquote, List.cons_append, List.cons_append]
        constructor
        · intro value hread
          rw [readLiteralFrom?, if_pos rfl, readLiteralFrom?, if_pos rfl] at hread
          obtain ⟨value', rfl, hmore⟩ := exists_of_map_cons hread
          obtain ⟨hle, hlt⟩ := ihvalue value' hmore
          exact ⟨Nat.succ_le_succ hle, fun he' => Nat.succ_lt_succ (hlt (hmem he'))⟩
        -- The escape character takes the first quote of the pair.
        · intro value hread
          rw [readLiteralFrom?, readLiteralFrom?, if_pos rfl] at hread
          obtain ⟨value', -, hmore⟩ := exists_of_map_cons hread
          exact absurd hmore (readLiteralFrom?_quote_doubled_ne more rest value')
      · rw [doubled, if_neg hquote, List.cons_append]
        constructor
        · intro value hread
          rw [readLiteralFrom?, if_neg hquote] at hread
          split at hread
          · have hle := ihescape value hread
            exact ⟨Nat.le_succ_of_le hle, fun _ => Nat.lt_succ_of_le hle⟩
          · rename_i hescape
            obtain ⟨value', rfl, hmore⟩ := exists_of_map_cons hread
            obtain ⟨hle, hlt⟩ := ihvalue value' hmore
            refine ⟨Nat.succ_le_succ hle, fun hmem => Nat.succ_lt_succ (hlt ?_)⟩
            exact (List.mem_cons.mp hmem).resolve_left fun heq => hescape (congrArg some heq)
        · intro value hread
          rw [readLiteralFrom?] at hread
          obtain ⟨value', rfl, hmore⟩ := exists_of_map_cons hread
          exact Nat.succ_le_succ (ihvalue value' hmore).1

/-- **A text is read as it was exactly if it does not hold the escape character.** -/
theorem readLiteral?_quoteDoubled_iff (he : e ≠ q) (s : String) {rest : List Char}
    (hrest : rest.head? ≠ some q) :
    readLiteral? q (some e) ((quoteDoubled q s).toList ++ rest) = some (s.toList, rest) ↔
      e ∉ s.toList := by
  constructor
  · intro hread hmem
    rw [toList_quoteDoubled, List.append_assoc, List.cons_append, readLiteral?, if_pos rfl,
      List.singleton_append] at hread
    have hshorter := ((length_of_readLiteralFrom?_doubled he s.toList rest).1 _ hread).2 hmem
    exact Nat.lt_irrefl _ hshorter
  · intro hmem
    refine readLiteral?_quoteDoubled (fun c hc heq => hmem ?_) hrest
    rwa [Option.some.inj heq]

end Doubled

end Text
end QueryArtifacts
