import Mathlib.Data.Option.Basic
import QueryArtifacts.Artifact.Writer
import QueryArtifacts.Proofs.Text.Rows

/-!
# The layout of definition texts

A writer adds rows: every operation puts the rows of its lines, each at the present depth, behind
what has been written.  Texts that are given go into blocks, whose rows are indented or empty, so
that no row of theirs reads as a heading.

* `Writer.row` — the row of a line at a depth; `text_line` up to `text_description` — what each
  operation adds; `depth_version`, `depth_description` — the heads leave the depth as it is.
* `IsRow` — what holds of every row of a definition text.
* `isContinuation`, `unindented` — the rows of a block, and the lines that they show.
* `Heads` — the version and the description that a definition text opens with.
* `readHeads?_append` — reading them back, in front of a heading.
-/

namespace QueryArtifacts

open Text

namespace Writer

/-! ## What the operations add -/

/-- The row of a line at a depth. -/
def row (depth : Nat) (line : List Char) : List Char :=
  if allBlank line then [] else (margin depth).toList ++ line

@[simp] theorem depth_indent (writer : Writer) : writer.indent.depth = writer.depth + 1 := rfl

@[simp] theorem depth_dedent (writer : Writer) : writer.dedent.depth = writer.depth - 1 := rfl

@[simp] theorem depth_blank (writer : Writer) : writer.blank.depth = writer.depth := rfl

@[simp] theorem text_indent (writer : Writer) : writer.indent.text = writer.text := rfl

@[simp] theorem text_dedent (writer : Writer) : writer.dedent.text = writer.text := rfl

@[simp] theorem depth_block (writer : Writer) (s : String) :
    (writer.block s).depth = writer.depth :=
  depth_lines writer _

@[simp] theorem depth_comment (writer : Writer) (s : String) :
    (writer.comment s).depth = writer.depth :=
  depth_lines writer _

/-- Only the line with its blanks removed matters. -/
theorem row_plain (depth : Nat) (line : List Char) : row depth (plain line) = row depth line := by
  unfold row plain
  split <;> simp_all

theorem row_of_visible {line : List Char} {c : Char} (hmem : c ∈ line) (hc : isBlank c = false)
    (depth : Nat) : row depth line = (margin depth).toList ++ line := by
  have hvisible : ¬ allBlank line = true := by
    rw [allBlank, List.all_eq_true]
    intro hblank
    rw [hblank c hmem] at hc
    cases hc
  exact if_neg hvisible

@[simp] theorem text_line (writer : Writer) (s : String) :
    (writer.line s).text = writer.text ++ ofRows [row writer.depth s.toList] := by
  have hline : lineText writer.depth s = ofRows [row writer.depth s.toList] := by
    unfold lineText row
    rw [ofRows_cons, ofRows_nil, String.append_empty]
    split
    · rfl
    · rw [String.ofList_append, String.ofList_toList, String.ofList_toList]
  rw [← hline]
  rfl

@[simp] theorem text_blank (writer : Writer) : writer.blank.text = writer.text ++ ofRows [[]] := rfl

@[simp] theorem text_lines (writer : Writer) (texts : List String) :
    (writer.lines texts).text =
      writer.text ++ ofRows (texts.map fun s => row writer.depth s.toList) := by
  induction texts generalizing writer with
  | nil => exact (String.append_empty).symm
  | cons s rest ih =>
      change ((writer.line s).lines rest).text = _
      rw [ih, text_line, depth_line, String.append_assoc, ← ofRows_append]
      rfl

@[simp] theorem text_block (writer : Writer) (s : String) :
    (writer.block s).text =
      writer.text ++ ofRows ((plainLines s).map fun line => row writer.depth line.toList) := by
  rw [block, text_lines, linesOf, plainLines, List.map_map, List.map_map]
  simp [Function.comp_def, row_plain]

@[simp] theorem text_comment (writer : Writer) (s : String) :
    (writer.comment s).text =
      writer.text ++
        ofRows ((linesOf s).map fun line => row writer.depth (commentLine line).toList) := by
  rw [comment, text_lines, List.map_map]
  rfl

@[simp] theorem text_directive (writer : Writer) (key value : String) :
    (writer.directive key value).text =
      writer.text ++ ofRows [row writer.depth (key ++ " " ++ quoted value).toList] :=
  text_line writer _

theorem text_version (writer : Writer) (n : Nat) :
    (writer.version (some n)).text =
      writer.text ++ ofRows [row writer.depth ("VERSION " ++ Decimal.natText n).toList, []] := by
  rw [version, text_blank, text_line, String.append_assoc, ← ofRows_append]
  rfl

@[simp] theorem depth_version (writer : Writer) (version : Option Nat) :
    (writer.version version).depth = writer.depth := by
  cases version <;> rfl

theorem text_description (writer : Writer) (s : String) :
    (writer.description (some s)).text =
      writer.text ++ ofRows (row writer.depth "DESCRIPTION >".toList ::
        (((plainLines s).map fun line => row (writer.depth + 1) line.toList) ++ [[]])) := by
  rw [description, text_blank, text_dedent, text_block, text_indent, text_line, depth_indent,
    depth_line, String.append_assoc, String.append_assoc, ← ofRows_append, ← ofRows_append]
  rfl

/-- The step in for the block is taken back behind it. -/
@[simp] theorem depth_description (writer : Writer) (description : Option String) :
    (writer.description description).depth = writer.depth := by
  cases description with
  | none => rfl
  | some s =>
      rw [Writer.description, depth_blank, depth_dedent, depth_block, depth_indent, depth_line,
        Nat.add_sub_cancel]

theorem margin_succ (depth : Nat) : margin (depth + 1) = indentation ++ margin depth := by
  rw [margin, List.replicate_succ, String.join_cons, margin]

theorem not_mem_margin (depth : Nat) : '\n' ∉ (margin depth).toList := by
  induction depth with
  | zero => decide
  | succ depth ih =>
      rw [margin_succ, String.toList_append, List.mem_append, not_or]
      exact ⟨by decide, ih⟩

theorem not_mem_row {line : List Char} (hline : '\n' ∉ line) (depth : Nat) :
    '\n' ∉ row depth line := by
  unfold row
  split
  · exact List.not_mem_nil
  · rw [List.mem_append, not_or]
    exact ⟨not_mem_margin depth, hline⟩

end Writer

open Writer

/-! ## Rows of definition texts -/

/-- A row of a definition text holds no line feed and does not begin with a dash, as headers
between definition texts do. -/
structure IsRow (row : List Char) : Prop where
  unbroken : '\n' ∉ row
  undashed : row.head? ≠ some '-'

instance (row : List Char) : Decidable (IsRow row) :=
  decidable_of_iff ('\n' ∉ row ∧ row.head? ≠ some '-')
    ⟨fun ⟨hunbroken, hundashed⟩ => ⟨hunbroken, hundashed⟩,
      fun hrow => ⟨hrow.unbroken, hrow.undashed⟩⟩

/-! ## Blocks -/

/-- Whether a row continues a block: it is empty or indented. -/
def isContinuation (row : List Char) : Bool :=
  row.isEmpty || indentation.toList.isPrefixOf row

/-- The line that a row of a block shows. -/
def unindented (row : List Char) : String :=
  String.ofList (row.drop indentation.length)

/-- The rows of the lines of a block. -/
def blockRows (lines : List String) : List (List Char) :=
  lines.map fun line => row 1 line.toList

theorem isContinuation_row (line : List Char) : isContinuation (row 1 line) = true := by
  have hmargin : (margin 1).toList = indentation.toList := by decide
  unfold isContinuation row
  split
  · rfl
  · rw [hmargin, Bool.or_eq_true, List.isPrefixOf_iff_prefix]
    exact Or.inr (List.prefix_append _ _)

theorem isContinuation_of_mem_blockRows {lines : List String} {row : List Char}
    (hrow : row ∈ blockRows lines) : isContinuation row = true := by
  obtain ⟨line, -, rfl⟩ := List.mem_map.mp hrow
  exact isContinuation_row line.toList

/-- The rows of a block show the lines of the text, those of blanks emptied. -/
theorem map_unindented_blockRows (text : String) :
    (blockRows (plainLines text)).map unindented = plainLines text := by
  have hline (line : List Char) :
      unindented (row 1 (plain line)) = String.ofList (plain line) := by
    rw [row_plain, unindented]
    unfold row plain
    split
    · rfl
    · exact congrArg String.ofList (List.drop_left ..)
  rw [blockRows, plainLines, List.map_map, List.map_map]
  refine List.map_congr_left fun line _ => ?_
  simp only [Function.comp_apply, String.toList_ofList]
  exact hline line

/-- A block shows a line with a visible character for every text that has one. -/
theorem exists_visible_row {text : String} {c : Char} (hmem : c ∈ text.toList)
    (hc : isBlank c = false) : ∃ row ∈ blockRows (plainLines text), c ∈ row := by
  have hfeed : c ≠ '\n' := by
    rintro rfl
    cases hc
  have hreturn : c ≠ '\r' := by
    rintro rfl
    cases hc
  obtain ⟨line, hline, hvisible⟩ := exists_mem_lines hmem hfeed hreturn
  refine ⟨row 1 line, ?_, ?_⟩
  · rw [blockRows, plainLines, List.map_map, List.mem_map]
    refine ⟨line, hline, ?_⟩
    simp only [Function.comp_apply, String.toList_ofList, row_plain]
  · rw [row_of_visible hvisible hc]
    exact List.mem_append_right _ hvisible

theorem head?_ne_of_isContinuation {row : List Char} (hrow : isContinuation row = true) :
    row.head? ≠ some '-' := by
  rw [isContinuation, Bool.or_eq_true, List.isEmpty_iff, List.isPrefixOf_iff_prefix] at hrow
  rcases hrow with rfl | ⟨line, rfl⟩
  · simp
  · simp [indentation]

theorem isRow_of_mem_blockRows {text : String} {row : List Char}
    (hrow : row ∈ blockRows (plainLines text)) : IsRow row where
  undashed := head?_ne_of_isContinuation (isContinuation_of_mem_blockRows hrow)
  unbroken := by
    obtain ⟨line, hline, rfl⟩ := List.mem_map.mp hrow
    exact not_mem_row (not_mem_of_mem_plainLines hline) 1

/-! ## Heads -/

/-- What a definition text opens with: the version and the lines of the description. -/
structure Heads where
  version : Option Nat
  description : Option (List String)
  deriving DecidableEq, Repr

/-- The heads that a version and a description give. -/
def headsOf (version : Option Nat) (description : Option String) : Heads :=
  ⟨version, description.map plainLines⟩

namespace Heads

/-- The rows of a version, an empty one behind it. -/
def versionRows : Option Nat → List (List Char)
  | some n => ["VERSION ".toList ++ Decimal.digits n, []]
  | none => []

/-- The rows of a description: its heading, the block and an empty row. -/
def descriptionRows : Option (List String) → List (List Char)
  | some block => "DESCRIPTION >".toList :: blockRows block ++ [[]]
  | none => []

/-- The rows of heads. -/
def rows (heads : Heads) : List (List Char) :=
  versionRows heads.version ++ descriptionRows heads.description

end Heads

theorem text_version_margin (version : Option Nat) :
    (Writer.version {} version).text = ofRows (Heads.versionRows version) := by
  cases version with
  | none => rfl
  | some n =>
      have hrow : row 0 ("VERSION " ++ Decimal.natText n).toList =
          "VERSION ".toList ++ Decimal.digits n := by
        rw [row_of_visible (c := 'V') (by simp) (by decide)]
        simp [margin]
      rw [text_version, hrow, Heads.versionRows]
      exact String.empty_append

theorem text_description_margin {writer : Writer} (hwriter : writer.depth = 0)
    (description : Option String) :
    (writer.description description).text =
      writer.text ++ ofRows (Heads.descriptionRows (description.map plainLines)) := by
  cases description with
  | none => exact String.append_empty.symm
  | some s =>
      have hheading : row 0 "DESCRIPTION >".toList = "DESCRIPTION >".toList := by decide
      rw [text_description, hwriter, hheading]
      rfl

theorem text_headsOf (version : Option Nat) (description : Option String) :
    ((Writer.version {} version).description description).text =
        ofRows (headsOf version description).rows ∧
      ((Writer.version {} version).description description).depth = 0 := by
  have hdepth : (Writer.version {} version).depth = 0 := depth_version {} version
  refine ⟨?_, (depth_description _ _).trans hdepth⟩
  rw [text_description_margin hdepth, text_version_margin, ← ofRows_append]
  rfl

theorem isRow_of_mem_rows_headsOf {version : Option Nat} {description : Option String}
    {row : List Char} (hrow : row ∈ (headsOf version description).rows) : IsRow row := by
  rcases List.mem_append.mp hrow with hversion | hdescription
  · cases version with
    | none => cases hversion
    | some n =>
        rcases List.mem_pair.mp hversion with rfl | rfl
        · have hdigits : '\n' ∉ Decimal.digits n := fun hdigit =>
            absurd (Nat.isDigit_of_mem_toDigits (by decide) (by decide) hdigit) (by decide)
          exact ⟨by simp [hdigits], by simp⟩
        · decide
  · cases description with
    | none => cases hdescription
    | some text =>
        rcases List.mem_append.mp hdescription with hblock | hempty
        · rcases List.mem_cons.mp hblock with rfl | hline
          · decide
          · exact isRow_of_mem_blockRows hline
        · rw [List.mem_singleton.mp hempty]
          decide

/-- The rows of heads that continue no block, as texts. -/
def Heads.headings (heads : Heads) : List String :=
  (heads.version.map fun n => "VERSION " ++ Decimal.natText n).toList ++
    (heads.description.map fun _ => "DESCRIPTION >").toList

theorem filter_blockRows (block : List String) :
    (blockRows block).filter (!isContinuation ·) = [] :=
  List.filter_eq_nil_iff.mpr fun row hrow => by simp [isContinuation_of_mem_blockRows hrow]

/-- The rows of heads outside of blocks are their headings, whatever the description holds. -/
theorem filter_rows_heads (heads : Heads) :
    (heads.rows.filter (!isContinuation ·)).map String.ofList = heads.headings := by
  obtain ⟨version, description⟩ := heads
  have hversion : ((Heads.versionRows version).filter (!isContinuation ·)).map String.ofList =
      (version.map fun n => "VERSION " ++ Decimal.natText n).toList := by
    cases version with
    | none => rfl
    | some n =>
        have hhere : isContinuation ("VERSION ".toList ++ Decimal.digits n) = false := rfl
        rw [Heads.versionRows, List.filter_cons_of_pos (by rw [hhere]; rfl)]
        change [String.ofList ("VERSION ".toList ++ Decimal.digits n)] = _
        rw [String.ofList_append, String.ofList_toList]
        rfl
  have hdescription :
      ((Heads.descriptionRows description).filter (!isContinuation ·)).map String.ofList =
        (description.map fun _ => "DESCRIPTION >").toList := by
    cases description with
    | none => rfl
    | some block =>
        rw [Heads.descriptionRows, List.cons_append, List.filter_cons_of_pos (by decide),
          List.filter_append, filter_blockRows]
        change [String.ofList "DESCRIPTION >".toList] = ["DESCRIPTION >"]
        rw [String.ofList_toList]
  rw [Heads.rows, List.filter_append, List.map_append, hversion, hdescription, Heads.headings]

/-! ## Reading heads -/

/-- The number that decimal digits spell. -/
def readNumber? (cs : List Char) : Option Nat :=
  if cs ≠ [] ∧ cs.all Char.isDigit = true then some (Nat.ofDigitChars 10 cs 0) else none

theorem readNumber?_digits (n : Nat) : readNumber? (Decimal.digits n) = some n := by
  have hdigits : (Decimal.digits n).all Char.isDigit = true := List.all_eq_true.mpr fun _ hc =>
    Nat.isDigit_of_mem_toDigits (by decide) (by decide) hc
  rw [readNumber?, if_pos ⟨Decimal.digits_ne_nil n, hdigits⟩, Decimal.digits,
    Nat.ofDigitChars_ten_toDigits]

/-- The rows behind an empty one. -/
def skipEmpty? : List (List Char) → Option (List (List Char))
  | [] :: rest => some rest
  | _ => none

/-- Read the version, if there is one, and answer with the rows behind it. -/
def readVersion? : List (List Char) → Option (Option Nat × List (List Char))
  | [] => some (none, [])
  | head :: rest =>
      match head.dropPrefix? "VERSION ".toList with
      | some number => do return (some (← readNumber? number), ← skipEmpty? rest)
      | none => some (none, head :: rest)

/-- Read the description, if there is one, and answer with the rows behind it.  The block goes on
as long as rows are empty or indented, and its last row is the empty one behind the text. -/
def readDescription? : List (List Char) → Option (Option (List String) × List (List Char))
  | [] => some (none, [])
  | head :: rest =>
      if head = "DESCRIPTION >".toList then do
        let block := rest.takeWhile isContinuation
        guard (block.getLast? = some [])
        return (some (block.dropLast.map unindented), rest.dropWhile isContinuation)
      else
        some (none, head :: rest)

/-- Read the heads, and answer with the rows behind them. -/
def readHeads? (rows : List (List Char)) : Option (Heads × List (List Char)) := do
  let (version, rest) ← readVersion? rows
  let (description, rest) ← readDescription? rest
  return (⟨version, description⟩, rest)

/-- Whether a row opens a section behind the heads. -/
def isSection (row : List Char) : Bool :=
  !isContinuation row && (row.dropPrefix? "VERSION ".toList).isNone &&
    row != "DESCRIPTION >".toList

theorem readVersion?_append (version : Option Nat) {row : List Char} {rest : List (List Char)}
    (hrow : row.dropPrefix? "VERSION ".toList = none) :
    readVersion? (Heads.versionRows version ++ row :: rest) = some (version, row :: rest) := by
  cases version with
  | none =>
      rw [Heads.versionRows, List.nil_append, readVersion?, hrow]
  | some n =>
      have hnumber : ("VERSION ".toList ++ Decimal.digits n).dropPrefix? "VERSION ".toList =
          some (Decimal.digits n) :=
        List.dropPrefix?_append_of_beq _ (beq_self_eq_true _)
      rw [Heads.versionRows, List.cons_append, List.cons_append, List.nil_append, readVersion?,
        hnumber]
      simp only [readNumber?_digits]
      rfl

theorem readDescription?_append (description : Option String) {row : List Char}
    (hrow : isContinuation row = false) (hname : row ≠ "DESCRIPTION >".toList)
    (rest : List (List Char)) :
    readDescription? (Heads.descriptionRows (description.map plainLines) ++ row :: rest) =
      some (description.map plainLines, row :: rest) := by
  cases description with
  | none =>
      rw [Option.map_none, Heads.descriptionRows, List.nil_append, readDescription?, if_neg hname]
  | some text =>
      -- The rows of the block with the empty one behind them, up to the section.
      have hblock : ∀ other ∈ blockRows (plainLines text) ++ [[]], isContinuation other = true := by
        intro other hother
        rcases List.mem_append.mp hother with hline | hempty
        · exact isContinuation_of_mem_blockRows hline
        · rw [List.mem_singleton.mp hempty]
          rfl
      have htake : (blockRows (plainLines text) ++ [[]] ++ row :: rest).takeWhile isContinuation =
          blockRows (plainLines text) ++ [[]] := by
        rw [List.takeWhile_append_of_pos hblock, List.takeWhile_cons_of_neg (by simp [hrow]),
          List.append_nil]
      have hdrop : (blockRows (plainLines text) ++ [[]] ++ row :: rest).dropWhile isContinuation =
          row :: rest := by
        rw [List.dropWhile_append_of_pos hblock, List.dropWhile_cons_of_neg (by simp [hrow])]
      rw [Option.map_some, Heads.descriptionRows, List.cons_append, List.cons_append,
        readDescription?, if_pos rfl]
      simp only [htake, hdrop, List.getLast?_concat, List.dropLast_concat,
        map_unindented_blockRows]
      rfl

/-- Heads are read back from in front of a section. -/
theorem readHeads?_append (version : Option Nat) (description : Option String) {row : List Char}
    (hrow : isSection row = true) (rest : List (List Char)) :
    readHeads? ((headsOf version description).rows ++ row :: rest) =
      some (headsOf version description, row :: rest) := by
  simp only [isSection, Bool.and_eq_true, Bool.not_eq_true', Option.isNone_iff_eq_none,
    bne_iff_ne, ne_eq] at hrow
  obtain ⟨⟨hcontinues, hnumber⟩, hname⟩ := hrow
  have hdescription := readDescription?_append description hcontinues hname rest
  have hversion : readVersion? ((headsOf version description).rows ++ row :: rest) =
      some (version, Heads.descriptionRows (description.map plainLines) ++ row :: rest) := by
    rw [Heads.rows, List.append_assoc]
    cases description with
    | none => exact readVersion?_append version hnumber
    | some text => exact readVersion?_append version (by decide)
  rw [readHeads?, hversion]
  simp only [Option.bind_eq_bind, Option.bind_some, hdescription]
  rfl

end QueryArtifacts
