import QueryArtifacts.Text.Quoted

/-!
# Reading quoted text

* `readQuoted?` — the value of a quoted text in front, and what follows: a backslash escapes the
  next character, and the first quote that is not escaped ends the text.
* `readQuoted?_quoteEscaped` — escaped text is read as it was.
* `escaped_eq_replaced` — escaping takes two replacements, the one of the backslashes first.
-/

namespace QueryArtifacts
namespace Text

/-- Read up to the first quote `q` that is not escaped.  The flag tells whether the next character
is escaped. -/
def readEscaped? (q : Char) : Bool → List Char → Option (List Char × List Char)
  | _, [] => none
  | true, c :: rest => (readEscaped? q false rest).map fun (value, after) => (c :: value, after)
  | false, c :: rest =>
      if c = q then
        some ([], rest)
      else if c = '\\' then
        readEscaped? q true rest
      else
        (readEscaped? q false rest).map fun (value, after) => (c :: value, after)

/-- Read a text between quotes `q`. -/
def readQuoted? (q : Char) : List Char → Option (List Char × List Char)
  | [] => none
  | c :: rest => if c = q then readEscaped? q false rest else none

section Quoted

variable {q : Char}

theorem readEscaped?_escaped (hq : q ≠ '\\') (s rest : List Char) :
    readEscaped? q false (escaped q s ++ q :: rest) = some (s, rest) := by
  induction s with
  | nil => simp [escaped, readEscaped?]
  | cons c more ih =>
      by_cases hescape : c = q ∨ c = '\\'
      · rw [escaped, if_pos hescape, List.cons_append, List.cons_append, readEscaped?,
          if_neg hq.symm, if_pos rfl, readEscaped?, ih, Option.map_some]
      · obtain ⟨hquote, hbackslash⟩ := not_or.mp hescape
        rw [escaped, if_neg hescape, List.cons_append, readEscaped?, if_neg hquote,
          if_neg hbackslash, ih, Option.map_some]

/-- Escaped text is read as it was, whatever follows it. -/
theorem readQuoted?_quoteEscaped (hq : q ≠ '\\') (s : String) (rest : List Char) :
    readQuoted? q ((quoteEscaped q s).toList ++ rest) = some (s.toList, rest) := by
  rw [toList_quoteEscaped, List.append_assoc, List.cons_append, readQuoted?, if_pos rfl,
    List.singleton_append, readEscaped?_escaped hq]

/-- Escaping brings in backslashes only. -/
theorem count_escaped {c : Char} (hc : c ≠ '\\') (s : List Char) :
    (escaped q s).count c = s.count c := by
  induction s with
  | nil => rfl
  | cons first rest ih =>
      rw [escaped]
      split
      · rw [List.count_cons_of_ne hc.symm, List.count_cons, List.count_cons, ih]
      · rw [List.count_cons, List.count_cons, ih]

theorem not_mem_escaped {c : Char} (hc : c ≠ '\\') {s : List Char} (hs : c ∉ s) :
    c ∉ escaped q s := by
  rwa [← List.count_eq_zero, count_escaped hc, List.count_eq_zero]

/-- Write a text in the place of every `c`. -/
def replaced (c : Char) (text s : List Char) : List Char :=
  s.flatMap fun d => if d = c then text else [d]

/-- Escaping is two replacements.  The backslashes come first, so that those which the second one
puts before quotes stay single. -/
theorem escaped_eq_replaced (hq : q ≠ '\\') (s : List Char) :
    escaped q s = replaced q ['\\', q] (replaced '\\' ['\\', '\\'] s) := by
  induction s with
  | nil => rfl
  | cons c rest ih =>
      have hpasses : replaced q ['\\', q] (replaced '\\' ['\\', '\\'] (c :: rest)) =
          replaced q ['\\', q] (if c = '\\' then ['\\', '\\'] else [c]) ++ escaped q rest := by
        rw [ih, replaced, replaced, List.flatMap_cons, List.flatMap_append]
        rfl
      rw [hpasses, escaped]
      by_cases hbackslash : c = '\\'
      · rw [if_pos (Or.inr hbackslash), if_pos hbackslash, hbackslash]
        simp [replaced, hq.symm]
      · by_cases hquote : c = q
        · rw [if_pos (Or.inl hquote), if_neg hbackslash, hquote]
          simp [replaced]
        · rw [if_neg (not_or.mpr ⟨hquote, hbackslash⟩), if_neg hbackslash]
          simp [replaced, hquote]

/-- The other way round, the backslash in front of a quote is taken for one of the text. -/
example : replaced '\\' ['\\', '\\'] (replaced '"' ['\\', '"'] ['"']) = ['\\', '\\', '"'] := rfl

end Quoted

end Text
end QueryArtifacts
