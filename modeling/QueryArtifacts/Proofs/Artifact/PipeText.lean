import QueryArtifacts.Artifact.Pipe
import QueryArtifacts.Proofs.Artifact.Layout

/-!
# Reading pipes back

The definition text of a pipe keeps its version, and its description and its body line by line; only
lines of blanks are emptied and line endings are unified.  No line of theirs leaves its block.

* `PipeReading` — what a definition text shows, and the rows that show it.
* `Pipe.read?` — the reader; `Pipe.read?_textOfBody` — what it finds.
* `Pipe.textOfBody_faithful` — reading back, when two texts are equal, and which rows are headings.
-/

namespace QueryArtifacts

open Text Writer

/-- What the definition text of a pipe shows. -/
structure PipeReading extends Heads where
  body : List String
  deriving DecidableEq, Repr

/-- The rows of a definition text that shows this. -/
def PipeReading.rows (reading : PipeReading) : List (List Char) :=
  reading.toHeads.rows ++ "NODE endpoint".toList :: "SQL >".toList :: "    %".toList ::
    blockRows reading.body

namespace Pipe

/-- What is shown of a version, a description and a body. -/
def reading (version : Option Nat) (description : Option String) (body : String) : PipeReading :=
  { headsOf version description with body := plainLines body }

variable (version : Option Nat) (description : Option String) (body : String)

theorem textOfBody_eq :
    textOfBody version description body = ofRows (reading version description body).rows := by
  obtain ⟨htext, hdepth⟩ := text_headsOf version description
  have hnode : row 0 ("NODE " ++ nodeName).toList = "NODE endpoint".toList := by decide
  have hsql : row 0 "SQL >".toList = "SQL >".toList := by decide
  have hmark : row 1 "%".toList = "    %".toList := by decide
  simp only [textOfBody, text_dedent, text_block, text_line, text_indent, depth_line, depth_indent,
    htext, hdepth, Nat.zero_add, hnode, hsql, hmark, ← ofRows_append]
  rw [PipeReading.rows, blockRows]
  simp only [List.append_assoc, List.cons_append, List.nil_append]
  rfl

theorem isRow_of_mem_rows_reading {row : List Char}
    (hrow : row ∈ (reading version description body).rows) : IsRow row := by
  simp only [PipeReading.rows, List.mem_append, List.mem_cons] at hrow
  rcases hrow with hheads | rfl | rfl | rfl | hbody
  · exact isRow_of_mem_rows_headsOf hheads
  · decide
  · decide
  · decide
  · exact isRow_of_mem_blockRows hbody

theorem rows_textOfBody :
    rows (textOfBody version description body) = (reading version description body).rows := by
  rw [textOfBody_eq]
  exact rows_ofRows fun _ hrow => (isRow_of_mem_rows_reading version description body hrow).unbroken

/-- Read the definition text of a pipe. -/
def read? (text : String) : Option PipeReading := do
  let (heads, rest) ← readHeads? (rows text)
  match rest with
  | node :: sql :: mark :: body =>
      guard (node = "NODE endpoint".toList ∧ sql = "SQL >".toList ∧ mark = "    %".toList)
      guard (body.all isContinuation)
      return { heads with body := body.map unindented }
  | _ => none

/-- A definition text is read back as what it shows. -/
theorem read?_textOfBody :
    read? (textOfBody version description body) = some (reading version description body) := by
  have hblock : (blockRows (plainLines body)).all isContinuation = true :=
    List.all_eq_true.mpr fun _ => isContinuation_of_mem_blockRows
  have hheads : readHeads? (reading version description body).rows =
      some (headsOf version description, "NODE endpoint".toList :: "SQL >".toList ::
        "    %".toList :: blockRows (plainLines body)) :=
    readHeads?_append version description (by decide) _
  rw [read?, rows_textOfBody, hheads]
  simp only [Option.bind_eq_bind, Option.bind_some, hblock, map_unindented_blockRows]
  rfl

/-- The rows outside of blocks are the headings, whatever the texts hold. -/
theorem filter_rows_textOfBody :
    ((rows (textOfBody version description body)).filter (!isContinuation ·)).map String.ofList =
      (version.map fun n => "VERSION " ++ Decimal.natText n).toList ++
        (description.map fun _ => "DESCRIPTION >").toList ++ ["NODE endpoint", "SQL >"] := by
  have hheadings : (headsOf version description).headings =
      (version.map fun n => "VERSION " ++ Decimal.natText n).toList ++
        (description.map fun _ => "DESCRIPTION >").toList := by
    rw [Heads.headings, headsOf, Option.map_map]
    rfl
  have hnode : ("NODE endpoint".toList :: "SQL >".toList :: "    %".toList ::
      blockRows (plainLines body)).filter (!isContinuation ·) =
        ["NODE endpoint".toList, "SQL >".toList] := by
    rw [List.filter_cons_of_pos (by decide), List.filter_cons_of_pos (by decide),
      List.filter_cons_of_neg (by decide), filter_blockRows]
  rw [← hheadings, rows_textOfBody, PipeReading.rows, List.filter_append, List.map_append]
  congr 1
  · exact filter_rows_heads _
  · exact (congrArg (List.map String.ofList) hnode).trans (by decide)

/-- **Pipes are read back.**  The reader recovers the version, the lines of the description, if
there is one, and the lines of the body, those of blanks emptied.  So two definition texts are equal
exactly if they agree in that; and the rows of a definition text that are neither empty nor indented
are its headings, each once and in order. -/
theorem textOfBody_faithful :
    (∀ version description body, read? (textOfBody version description body) =
      some { version, description := description.map plainLines, body := plainLines body }) ∧
    (∀ version description body version' description' body',
      textOfBody version description body = textOfBody version' description' body' ↔
        version = version' ∧ description.map plainLines = description'.map plainLines ∧
          plainLines body = plainLines body') ∧
    (∀ version description body,
      ((rows (textOfBody version description body)).filter (!isContinuation ·)).map String.ofList =
        (version.map fun n => "VERSION " ++ Decimal.natText n).toList ++
          (description.map fun _ => "DESCRIPTION >").toList ++ ["NODE endpoint", "SQL >"]) := by
  refine ⟨read?_textOfBody, fun version description body version' description' body' => ?_,
    filter_rows_textOfBody⟩
  constructor
  · intro hsame
    have hread := congrArg read? hsame
    rw [read?_textOfBody, read?_textOfBody, Option.some.injEq] at hread
    simp only [reading, headsOf, PipeReading.mk.injEq, Heads.mk.injEq] at hread
    obtain ⟨⟨hversion, hdescription⟩, hbody⟩ := hread
    exact ⟨hversion, hdescription, hbody⟩
  · rintro ⟨rfl, hdescription, hbody⟩
    rw [textOfBody_eq, textOfBody_eq, reading, reading, headsOf, headsOf, hdescription, hbody]

end Pipe
end QueryArtifacts
