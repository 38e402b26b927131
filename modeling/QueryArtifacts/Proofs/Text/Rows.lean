import Mathlib.Data.List.Basic
import QueryArtifacts.Text.Blank
import QueryArtifacts.Text.Lines

/-!
# Rows

A text in which every row ends at a line feed is read back row by row.  Rows are not the lines of
`Text.lines`: a carriage return before the line feed belongs to its row.

* `ofRows`, `rows` — the text of some rows, and the rows of a text.
* `rows_ofRows` — reading rows back, if no row holds a line feed.
* `length_rows` — there are as many rows as line feeds.
* `IsEnded`, `rows_append` — behind a text whose last row is ended, the rows begin anew.
* `exists_mem_lines` — no character gets lost between lines but those of the endings.
* `plain`, `plainLines` — lines with those of blanks emptied.
-/

namespace QueryArtifacts
namespace Text

/-- The text of some rows, each ended by a line feed. -/
def ofRows (rows : List (List Char)) : String :=
  String.ofList (rows.flatMap (· ++ ['\n']))

/-- The rows of a text.  What stands behind the last line feed is no row. -/
def rows (text : String) : List (List Char) :=
  (text.toList.splitOn '\n').dropLast

@[simp] theorem ofRows_nil : ofRows [] = "" := rfl

theorem ofRows_append (before after : List (List Char)) :
    ofRows (before ++ after) = ofRows before ++ ofRows after := by
  rw [ofRows, List.flatMap_append, String.ofList_append, ofRows, ofRows]

theorem ofRows_cons (row : List Char) (more : List (List Char)) :
    ofRows (row :: more) = String.ofList row ++ "\n" ++ ofRows more := by
  rw [ofRows, List.flatMap_cons, String.ofList_append, String.ofList_append, ofRows]

/-- Rows without line feeds are read back from their text. -/
theorem rows_ofRows {found : List (List Char)} (hfound : ∀ row ∈ found, '\n' ∉ row) :
    rows (ofRows found) = found := by
  rw [rows, ofRows, String.toList_ofList]
  induction found with
  | nil => rfl
  | cons row more ih =>
      rw [List.forall_mem_cons] at hfound
      rw [List.flatMap_cons, List.append_assoc, List.singleton_append,
        List.splitOn_append_cons_self_of_not_mem hfound.1,
        List.dropLast_cons_of_ne_nil (List.splitOn_ne_nil _ _), ih hfound.2]

theorem not_mem_of_mem_splitOn {c : Char} {s part : List Char} (hpart : part ∈ s.splitOn c) :
    c ∉ part := by
  induction s generalizing part with
  | nil =>
      rw [List.splitOn_nil, List.mem_singleton] at hpart
      rw [hpart]
      exact List.not_mem_nil
  | cons x rest ih =>
      rw [List.splitOn_cons_eq_if_modifyHead] at hpart
      split at hpart
      · rcases List.mem_cons.mp hpart with rfl | hmore
        · exact List.not_mem_nil
        · exact ih hmore
      · rename_i hx
        obtain ⟨first, more, hsplit⟩ := List.exists_cons_of_ne_nil (List.splitOn_ne_nil c rest)
        rw [hsplit] at ih hpart
        rcases List.mem_cons.mp hpart with rfl | hmore
        · rw [List.mem_cons, not_or]
          exact ⟨fun heq => hx (beq_iff_eq.mpr heq.symm), ih (List.mem_cons_self ..)⟩
        · exact ih (List.mem_cons_of_mem _ hmore)

theorem length_splitOn (c : Char) (s : List Char) : (s.splitOn c).length = s.count c + 1 := by
  induction s with
  | nil => rfl
  | cons x rest ih =>
      rw [List.splitOn_cons_eq_if_modifyHead, List.count_cons]
      split
      · rw [List.length_cons, ih]
      · rw [List.length_modifyHead, ih, Nat.add_zero]

/-- There are as many rows as line feeds. -/
theorem length_rows (text : String) : (rows text).length = text.toList.count '\n' := by
  rw [rows, List.length_dropLast, length_splitOn, Nat.add_sub_cancel]

/-- Only rows without line feeds are read back. -/
theorem rows_ofRows_iff {found : List (List Char)} :
    rows (ofRows found) = found ↔ ∀ row ∈ found, '\n' ∉ row := by
  refine ⟨fun hrows row hrow => ?_, rows_ofRows⟩
  rw [← hrows] at hrow
  exact not_mem_of_mem_splitOn (List.dropLast_subset _ hrow)

/-- No row of a text is without its line feed. -/
def IsEnded (text : String) : Prop :=
  text = "" ∨ text.toList.getLast? = some '\n'

instance (text : String) : Decidable (IsEnded text) :=
  instDecidableOr

theorem isEnded_append_ofRows {text : String} (htext : IsEnded text)
    (found : List (List Char)) : IsEnded (text ++ ofRows found) := by
  rcases List.eq_nil_or_concat found with rfl | ⟨before, row, rfl⟩
  · rwa [ofRows_nil, String.append_empty]
  · refine Or.inr ?_
    rw [List.concat_eq_append, ofRows_append, String.toList_append, String.toList_append]
    simp [ofRows]

/-- Behind a text whose last row is ended, the rows begin anew. -/
theorem rows_append {text : String} (htext : IsEnded text) (more : String) :
    rows (text ++ more) = rows text ++ rows more := by
  rcases htext with rfl | hlast
  · rw [String.empty_append]
    rfl
  · obtain ⟨front, hfront⟩ := List.getLast?_eq_some_iff.mp hlast
    have hmore : more.toList.splitOn '\n' ≠ [] := List.splitOn_ne_nil _ _
    simp only [rows, String.toList_append, hfront, List.append_assoc, List.singleton_append,
      List.splitOn_append_cons_self, List.dropLast_append_of_ne_nil hmore, List.splitOn_nil,
      List.dropLast_concat]

/-! ## Lines -/

/-- No line holds a line feed. -/
theorem not_mem_of_mem_lines {cs line : List Char} (hline : line ∈ lines cs) : '\n' ∉ line := by
  fun_induction lines cs generalizing line with
  | case1 => cases hline
  | case2 rest ih | case3 rest ih =>
      rcases List.mem_cons.mp hline with rfl | hmore
      · exact List.not_mem_nil
      · exact ih hmore
  | case4 c rest hfeed =>
      obtain rfl := List.mem_singleton.mp hline
      simpa using fun heq : '\n' = c => hfeed heq.symm
  | case5 c rest hfeed _ first more hsome ih =>
      rcases List.mem_cons.mp hline with rfl | hmore
      · have hfirst := ih (hsome ▸ List.mem_cons_self ..)
        rw [List.mem_cons, not_or]
        exact ⟨fun heq => hfeed heq.symm, hfirst⟩
      · exact ih (hsome ▸ List.mem_cons_of_mem _ hmore)

/-- Every character but those of line endings stands in a line. -/
theorem exists_mem_lines {cs : List Char} {c : Char} (hmem : c ∈ cs) (hfeed : c ≠ '\n')
    (hreturn : c ≠ '\r') : ∃ line ∈ lines cs, c ∈ line := by
  fun_induction lines cs with
  | case1 => cases hmem
  | case2 rest ih =>
      have hrest : c ∈ rest := (List.mem_cons.mp hmem).resolve_left hfeed
      obtain ⟨line, hline, hc⟩ := ih hrest
      exact ⟨line, List.mem_cons_of_mem _ hline, hc⟩
  | case3 rest ih =>
      have hbehind : c ∈ '\n' :: rest := (List.mem_cons.mp hmem).resolve_left hreturn
      have hrest : c ∈ rest := (List.mem_cons.mp hbehind).resolve_left hfeed
      obtain ⟨line, hline, hc⟩ := ih hrest
      exact ⟨line, List.mem_cons_of_mem _ hline, hc⟩
  | case4 first rest _ _ hnone =>
      rw [lines_eq_nil_iff.mp hnone] at hmem
      exact ⟨[first], List.mem_singleton_self _, hmem⟩
  | case5 first rest _ _ line more hsome ih =>
      rcases List.mem_cons.mp hmem with rfl | hrest
      · exact ⟨c :: line, List.mem_cons_self .., List.mem_cons_self ..⟩
      · obtain ⟨found, hfound, hc⟩ := ih hrest
        rw [hsome] at hfound
        rcases List.mem_cons.mp hfound with rfl | hmore
        · exact ⟨first :: found, List.mem_cons_self .., List.mem_cons_of_mem _ hc⟩
        · exact ⟨found, List.mem_cons_of_mem _ hmore, hc⟩

/-- A line, emptied if it holds nothing but blanks. -/
def plain (line : List Char) : List Char :=
  if allBlank line then [] else line

/-- The lines of a text, those of blanks emptied. -/
def plainLines (text : String) : List String :=
  (lines text.toList).map fun line => String.ofList (plain line)

theorem not_mem_plain {line : List Char} (hline : '\n' ∉ line) : '\n' ∉ plain line := by
  unfold plain
  split
  · exact List.not_mem_nil
  · exact hline

theorem not_mem_of_mem_plainLines {text line : String} (hline : line ∈ plainLines text) :
    '\n' ∉ line.toList := by
  obtain ⟨row, hrow, rfl⟩ := List.mem_map.mp hline
  rw [String.toList_ofList]
  exact not_mem_plain (not_mem_of_mem_lines hrow)

example : plainLines "a\r\n \t\n\nb\r" = ["a", "", "", "b\r"] := by decide

end Text
end QueryArtifacts
