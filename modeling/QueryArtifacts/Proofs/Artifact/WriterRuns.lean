import QueryArtifacts.Proofs.Artifact.Layout

/-!
# Runs of a writer

Whatever a fresh writer is told to do, in whatever order, what it has written stays, every row is
ended, and the depth is where the steps in and out have led, with no step out at the margin.  The
lines of a text that is given then stand one a row, each behind the blanks of the depth or, if there
is nothing to see in it, empty.

* `Operation`, `run` — what a writer can be told, and being told several things in a row.
* `Operation.move?`, `depthAfter` — the steps in and out, and where they lead.
* `text_apply`, `depth_apply` — what one operation does; `text_prefix_run`, `isEnded_run`,
  `depth_run` — what a run does.
* `run_layout` — the layout that every run keeps.
-/

namespace QueryArtifacts

open Text

namespace Writer

/-! ## Operations -/

/-- What a writer can be told. -/
inductive Operation where
  | indent
  | dedent
  | line (s : String)
  | block (s : String)
  | blank
  | comment (s : String)
  | directive (key value : String)
  | version (version : Option Nat)
  | description (description : Option String)
  deriving DecidableEq, Repr

/-- Do what one operation says. -/
def apply (writer : Writer) : Operation → Writer
  | .indent => writer.indent
  | .dedent => writer.dedent
  | .line s => writer.line s
  | .block s => writer.block s
  | .blank => writer.blank
  | .comment s => writer.comment s
  | .directive key value => writer.directive key value
  | .version version => writer.version version
  | .description description => writer.description description

/-- Do what several operations say, one after the other. -/
def run (writer : Writer) (operations : List Operation) : Writer :=
  operations.foldl apply writer

/-- How an operation moves the depth, if it is there to move it; a step out ends at the margin. -/
def Operation.move? : Operation → Option (Nat → Nat)
  | .indent => some (· + 1)
  | .dedent => some (· - 1)
  | _ => none

/-- Where the moves of a run lead from the margin. -/
def depthAfter (operations : List Operation) : Nat :=
  (operations.filterMap Operation.move?).foldl (fun depth move => move depth) 0

/-- The rows that an operation adds at a depth. -/
def Operation.rows (depth : Nat) : Operation → List (List Char)
  | .indent | .dedent => []
  | .line s => [row depth s.toList]
  | .block s => (Text.lines s.toList).map (row depth)
  | .blank => [[]]
  | .comment s => (linesOf s).map fun line => row depth (commentLine line).toList
  | .directive key value => [row depth (key ++ " " ++ quoted value).toList]
  | .version none => []
  | .version (some n) => [row depth ("VERSION " ++ Decimal.natText n).toList, []]
  | .description none => []
  | .description (some s) =>
      row depth "DESCRIPTION >".toList :: ((Text.lines s.toList).map (row (depth + 1)) ++ [[]])

/-! ## One operation -/

theorem map_row_plainLines (depth : Nat) (s : String) :
    ((plainLines s).map fun line => row depth line.toList) =
      (Text.lines s.toList).map (row depth) := by
  simp [plainLines, Function.comp_def, row_plain]

/-- An operation adds its rows to the text. -/
theorem text_apply (writer : Writer) (operation : Operation) :
    (writer.apply operation).text = writer.text ++ ofRows (operation.rows writer.depth) := by
  cases operation with
  | indent | dedent => exact String.append_empty.symm
  | line s => exact text_line writer s
  | block s =>
      change (writer.block s).text = _
      rw [text_block, map_row_plainLines]
      rfl
  | blank => exact text_blank writer
  | comment s => exact text_comment writer s
  | directive key value => exact text_directive writer key value
  | version version =>
      cases version with
      | none => exact String.append_empty.symm
      | some n => exact text_version writer n
  | description description =>
      cases description with
      | none => exact String.append_empty.symm
      | some s =>
          change (writer.description (some s)).text = _
          rw [text_description, map_row_plainLines]
          rfl

/-- Only a move changes the depth. -/
theorem depth_apply (writer : Writer) (operation : Operation) :
    (writer.apply operation).depth = operation.move?.getD id writer.depth := by
  cases operation with
  | indent | dedent | line | blank | directive => rfl
  | block s => exact depth_block writer s
  | comment s => exact depth_comment writer s
  | version version => exact depth_version writer version
  | description description => exact depth_description writer description

/-! ## Runs -/

theorem run_append (writer : Writer) (operations more : List Operation) :
    writer.run (operations ++ more) = (writer.run operations).run more :=
  List.foldl_append

/-- A run adds to the text and does nothing else with it. -/
theorem text_prefix_run (writer : Writer) (operations : List Operation) :
    writer.text.toList <+: (writer.run operations).text.toList := by
  induction operations generalizing writer with
  | nil => exact List.prefix_rfl
  | cons operation rest ih =>
      have hhere : writer.text.toList <+: (writer.apply operation).text.toList := by
        rw [text_apply, String.toList_append]
        exact List.prefix_append _ _
      exact hhere.trans (ih (writer.apply operation))

theorem isEnded_run {writer : Writer} (hwriter : IsEnded writer.text)
    (operations : List Operation) : IsEnded (writer.run operations).text := by
  induction operations generalizing writer with
  | nil => exact hwriter
  | cons operation rest ih =>
      refine ih ?_
      rw [text_apply]
      exact isEnded_append_ofRows hwriter _

theorem depth_run (writer : Writer) (operations : List Operation) :
    (writer.run operations).depth =
      (operations.filterMap Operation.move?).foldl (fun depth move => move depth)
        writer.depth := by
  induction operations generalizing writer with
  | nil => rfl
  | cons operation rest ih =>
      change ((writer.apply operation).run rest).depth = _
      rw [ih, depth_apply]
      cases hmove : operation.move? with
      | none => rw [List.filterMap_cons_none hmove]; rfl
      | some move => rw [List.filterMap_cons_some hmove]; rfl

/-- Rows without line feeds are the rows that an operation adds to those of a run. -/
theorem rows_apply {writer : Writer} (hwriter : IsEnded writer.text) {operation : Operation}
    (hrows : ∀ row ∈ operation.rows writer.depth, '\n' ∉ row) :
    rows (writer.apply operation).text = rows writer.text ++ operation.rows writer.depth := by
  rw [text_apply, rows_append hwriter, rows_ofRows hrows]

/-! ## Layout -/

/-- A line behind four blanks for every step of the depth. -/
def indented (depth : Nat) (line : List Char) : List Char :=
  List.replicate (4 * depth) ' ' ++ line

theorem toList_margin (depth : Nat) : (margin depth).toList = List.replicate (4 * depth) ' ' := by
  induction depth with
  | zero => rfl
  | succ depth ih =>
      rw [margin_succ, String.toList_append, ih, Nat.mul_succ, Nat.add_comm,
        ← List.replicate_append_replicate]
      rfl

theorem row_eq (depth : Nat) (line : List Char) :
    row depth line = if allBlank line then [] else indented depth line := by
  rw [row, toList_margin, indented]

theorem row_commentLine (depth : Nat) (line : List Char) :
    row depth (commentLine (String.ofList line)).toList =
      indented depth ('#' :: if line = [] then [] else ' ' :: line) := by
  have hcomment : (commentLine (String.ofList line)).toList =
      '#' :: if line = [] then [] else ' ' :: line := by
    cases line with
    | nil => decide
    | cons c rest => simp [commentLine]
  rw [hcomment, row_of_visible (List.mem_cons_self ..) (by decide), toList_margin, indented]

theorem not_mem_indented {line : List Char} (hline : '\n' ∉ line) (depth : Nat) :
    '\n' ∉ indented depth line := by
  rw [indented, List.mem_append, not_or]
  exact ⟨fun hmem => absurd (List.eq_of_mem_replicate hmem) (by decide), hline⟩

theorem not_mem_of_mem_map_row {s : String} {depth : Nat} :
    ∀ found ∈ (Text.lines s.toList).map (row depth), '\n' ∉ found := by
  intro found hfound
  obtain ⟨line, hline, rfl⟩ := List.mem_map.mp hfound
  exact not_mem_row (not_mem_of_mem_lines hline) depth

section Texts

variable {writer : Writer} (hwriter : IsEnded writer.text) (s : String)

include hwriter

theorem rows_block :
    rows (writer.apply (.block s)).text = rows writer.text ++
      (Text.lines s.toList).map fun line =>
        if allBlank line then [] else indented writer.depth line := by
  have hrows : Operation.rows writer.depth (.block s) =
      (Text.lines s.toList).map (row writer.depth) := rfl
  rw [rows_apply hwriter (hrows ▸ not_mem_of_mem_map_row), hrows]
  simp only [← row_eq]

theorem rows_comment :
    rows (writer.apply (.comment s)).text = rows writer.text ++
      (Text.lines s.toList).map fun line =>
        indented writer.depth ('#' :: if line = [] then [] else ' ' :: line) := by
  have hrows : Operation.rows writer.depth (.comment s) = (Text.lines s.toList).map fun line =>
      indented writer.depth ('#' :: if line = [] then [] else ' ' :: line) := by
    simp only [Operation.rows, linesOf, List.map_map, Function.comp_def, row_commentLine]
  have hbroken : ∀ found ∈ Operation.rows writer.depth (.comment s), '\n' ∉ found := by
    rw [hrows]
    intro found hfound
    obtain ⟨line, hline, rfl⟩ := List.mem_map.mp hfound
    refine not_mem_indented ?_ writer.depth
    have hfeed := not_mem_of_mem_lines hline
    split <;> simp [hfeed]
  rw [rows_apply hwriter hbroken, hrows]

theorem rows_description :
    rows (writer.apply (.description (some s))).text = rows writer.text ++
      indented writer.depth "DESCRIPTION >".toList ::
        ((Text.lines s.toList).map (fun line =>
          if allBlank line then [] else indented (writer.depth + 1) line) ++ [[]]) := by
  have hheading : row writer.depth "DESCRIPTION >".toList =
      indented writer.depth "DESCRIPTION >".toList := by
    rw [row_eq, if_neg (by decide)]
  have hrows : Operation.rows writer.depth (.description (some s)) =
      indented writer.depth "DESCRIPTION >".toList ::
        ((Text.lines s.toList).map (row (writer.depth + 1)) ++ [[]]) := by
    rw [Operation.rows, hheading]
  have hbroken : ∀ found ∈ Operation.rows writer.depth (.description (some s)),
      '\n' ∉ found := by
    rw [hrows, List.forall_mem_cons, List.forall_mem_append, List.forall_mem_singleton]
    exact ⟨not_mem_indented (by decide) _, not_mem_of_mem_map_row, List.not_mem_nil⟩
  rw [rows_apply hwriter hbroken, hrows]
  simp only [← row_eq]

end Texts

/-- **The layout of a run.**  Whatever a fresh writer has been told, its text is empty or ends in a
line feed, and its depth is where the moves have led.  Whatever it is told then, the text stays as
it is and more is put behind it, and only a move changes the depth.  A text that is given then adds
a row for every line: in a block the line behind the blanks of the depth, or an empty row if there
are only blanks in the line; in a comment the line behind these blanks and the sign of a comment, or
that sign alone; and in a description, below its heading and before an empty row, the line as in a
block one step further in. -/
theorem run_layout (before : List Operation) :
    let writer := run {} before
    (writer.text = "" ∨ writer.text.toList.getLast? = some '\n') ∧
    writer.depth = depthAfter before ∧
    (∀ after, writer.text.toList <+: (run {} (before ++ after)).text.toList) ∧
    (∀ operation : Operation, operation.move? = none →
      (run {} (before ++ [operation])).depth = writer.depth) ∧
    ∀ s : String,
      rows (run {} (before ++ [.block s])).text = rows writer.text ++
        (Text.lines s.toList).map (fun line =>
          if allBlank line then [] else indented writer.depth line) ∧
      rows (run {} (before ++ [.comment s])).text = rows writer.text ++
        (Text.lines s.toList).map (fun line =>
          indented writer.depth ('#' :: if line = [] then [] else ' ' :: line)) ∧
      rows (run {} (before ++ [.description (some s)])).text = rows writer.text ++
        indented writer.depth "DESCRIPTION >".toList ::
          ((Text.lines s.toList).map (fun line =>
            if allBlank line then [] else indented (writer.depth + 1) line) ++ [[]]) := by
  intro writer
  have hended : IsEnded writer.text := isEnded_run (Or.inl rfl) before
  have hnext (operation : Operation) : run {} (before ++ [operation]) = writer.apply operation :=
    run_append {} before [operation]
  refine ⟨hended, depth_run {} before, fun after => ?_, fun operation hmove => ?_, fun s => ?_⟩
  · rw [run_append]
    exact text_prefix_run writer after
  · rw [hnext, depth_apply, hmove]
    rfl
  · rw [hnext, hnext, hnext]
    exact ⟨rows_block hended s, rows_comment hended s, rows_description hended s⟩

/-- A run with steps out at the margin, and one step in that is left. -/
def unevenRun : List Operation :=
  [.dedent, .version (some 2), .indent, .indent, .dedent, .line "x"]

/-- Texts with blanks, carriage returns and no line feed at their end, written behind that run. -/
theorem run_layout_unevenRun :
    (run {} unevenRun).depth = 1 ∧
    (run {} (unevenRun ++ [.comment "a\r\n\n \nb\r"])).depth = 1 ∧
    rows (run {} (unevenRun ++ [.block "a\r\n \t\n  b\rc"])).text =
      ["VERSION 2".toList, [], "    x".toList, "    a".toList, [], "      b\rc".toList] ∧
    rows (run {} (unevenRun ++ [.comment "a\r\n\n \nb\r"])).text =
      ["VERSION 2".toList, [], "    x".toList, "    # a".toList, "    #".toList,
        "    #  ".toList, "    # b\r".toList] := by
  obtain ⟨-, hdepth, -, hkept, htexts⟩ := run_layout unevenRun
  have hrows : rows (run {} unevenRun).text = ["VERSION 2".toList, [], "    x".toList] := by
    decide +kernel
  have hone : (run {} unevenRun).depth = 1 := hdepth.trans (by decide)
  have hblock := (htexts "a\r\n \t\n  b\rc").1
  have hcomment := (htexts "a\r\n\n \nb\r").2.1
  rw [hrows, hone] at hblock hcomment
  exact ⟨hone, (hkept (.comment _) rfl).trans hone, hblock.trans (by decide +kernel),
    hcomment.trans (by decide +kernel)⟩

end Writer
end QueryArtifacts
