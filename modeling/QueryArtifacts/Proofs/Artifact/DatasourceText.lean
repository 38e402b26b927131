import Mathlib.Data.List.Basic
import QueryArtifacts.Artifact.Datasource
import QueryArtifacts.Proofs.Artifact.Layout
import QueryArtifacts.Proofs.Text.ReadQuoted

/-!
# The rows of datasources

The definition text of a datasource is the rows of its heads, of its columns with their comments,
and of the directives of its engine.

* `Datasource.OneLine` — the texts that stand inside one row hold no line feed.  Descriptions and
  comments are free.
* `Datasource.rowsOf` — the rows; `Datasource.text_eq` and `Datasource.rows_text` — that they are
  the text, and the text gives them back.
-/

namespace QueryArtifacts

open Text Writer

/-! ## Texts inside one row -/

/-- The texts of a column that stand in its declaration. -/
def Column.declared (name : String) (column : Column) : List String :=
  name :: column.type :: column.jsonPath.toList

/-- The texts that stand in the directives of an engine. -/
def Engine.texts (engine : Engine) : List String :=
  engine.kind :: (engine.sortingKey ++ engine.partitionBy.toList ++ engine.ttl.toList ++
    engine.version.toList)

namespace Datasource

/-- No text of a declaration or a directive holds a line feed. -/
structure OneLine (datasource : Datasource) : Prop where
  columns : ∀ entry ∈ datasource.columns.toList, ∀ text ∈ Column.declared entry.1 entry.2,
    '\n' ∉ text.toList
  engine : ∀ text ∈ datasource.engine.texts, '\n' ∉ text.toList

instance (datasource : Datasource) : Decidable datasource.OneLine :=
  decidable_of_iff ((∀ entry ∈ datasource.columns.toList,
      ∀ text ∈ Column.declared entry.1 entry.2, '\n' ∉ text.toList) ∧
    ∀ text ∈ datasource.engine.texts, '\n' ∉ text.toList)
    ⟨fun ⟨hcolumns, hengine⟩ => ⟨hcolumns, hengine⟩, fun hlines => ⟨hlines.columns, hlines.engine⟩⟩

end Datasource

namespace Column

variable {c : Char} {name : String} {column : Column}

theorem not_mem_renderedType (hc : c ∉ "Nullable()".toList)
    (hcolumn : ∀ text ∈ declared name column, c ∉ text.toList) :
    c ∉ column.renderedType.toList := by
  have htype := hcolumn column.type (by simp [declared])
  unfold renderedType
  split
  · simp only [nullableOpening, String.toList_append, List.mem_append, not_or]
    simp at hc ⊢
    tauto
  · exact htype

theorem not_mem_resolvedPath (hc : c ∉ "$.".toList)
    (hcolumn : ∀ text ∈ declared name column, c ∉ text.toList) :
    c ∉ (column.resolvedPath name).toList := by
  have hname := hcolumn name (by simp [declared])
  unfold resolvedPath
  cases hpath : column.jsonPath with
  | none =>
      rw [Option.getD_none, String.toList_append, List.mem_append, not_or]
      exact ⟨hc, hname⟩
  | some path => exact hcolumn path (by simp [declared, hpath])

end Column

/-! ## Rows -/

namespace Datasource

/-- The lines of the comment of a column; none without a comment. -/
def commentLines (column : Column) : List String :=
  column.comment.elim [] linesOf

/-- The row that declares a column. -/
def columnRow (name : String) (column : Column) (ending : List Char) : List Char :=
  indentation.toList ++ (columnText name column).toList ++ ending

/-- The row of a line of a comment. -/
def commentRow (line : String) : List Char :=
  indentation.toList ++ (commentLine line).toList

/-- The rows of columns. -/
def columnsRows : List (String × Column) → List (List Char)
  | [] => []
  | (name, column) :: rest =>
      columnRow name column (if rest.isEmpty then [] else [',']) ::
        ((commentLines column).map commentRow ++ columnsRows rest)

/-- The row of a directive. -/
def directiveRow (key value : String) : List Char :=
  (key ++ " ").toList ++ (quoted value).toList

/-- A directive that may be absent, as keys with values. -/
def setting (key : String) (value : Option String) : List (String × String) :=
  (value.map fun value => (key, value)).toList

/-- The sorting key as a directive shows it. -/
def joinedKey (engine : Engine) : Option String :=
  if engine.sortingKey.isEmpty then none else some (",".intercalate engine.sortingKey)

/-- The directives of an engine, as keys with values. -/
def directives (engine : Engine) : List (String × String) :=
  ("ENGINE", engine.kind) ::
    (setting "ENGINE_SORTING_KEY" (joinedKey engine) ++
      (setting "ENGINE_PARTITION_KEY" engine.partitionBy ++
        (setting "ENGINE_TTL" engine.ttl ++ setting "ENGINE_VER" engine.version)))

/-- The keys of directives. -/
def directiveKeys : List String :=
  ["ENGINE", "ENGINE_SORTING_KEY", "ENGINE_PARTITION_KEY", "ENGINE_TTL", "ENGINE_VER"]

/-- The rows of directives. -/
def directiveRows (found : List (String × String)) : List (List Char) :=
  found.map fun (key, value) => directiveRow key value

/-- The rows of the definition text of a datasource. -/
def rowsOf (datasource : Datasource) : List (List Char) :=
  (headsOf datasource.version datasource.description).rows ++ "SCHEMA >".toList ::
    (columnsRows datasource.columns.toList ++ [] :: directiveRows (directives datasource.engine))

theorem row_columnText (name : String) (column : Column) (ending : String) :
    row 1 (columnText name column ++ ending).toList = columnRow name column ending.toList := by
  have hquote : '`' ∈ (columnText name column ++ ending).toList := by
    simp [columnText]
  have hmargin : (margin 1).toList = indentation.toList := by decide
  rw [row_of_visible hquote (by decide), hmargin, String.toList_append, columnRow,
    List.append_assoc]

theorem row_commentLine (line : String) : row 1 (commentLine line).toList = commentRow line := by
  have hmark : '#' ∈ (commentLine line).toList := by
    unfold commentLine
    split <;> simp
  have hmargin : (margin 1).toList = indentation.toList := by decide
  rw [row_of_visible hmark (by decide), hmargin, commentRow]

theorem row_directive (key value : String) :
    row 0 (key ++ " " ++ quoted value).toList = directiveRow key value := by
  have hquote : '"' ∈ (key ++ " " ++ quoted value).toList := by
    simp [quoted]
  have hmargin : (margin 0).toList = [] := by decide
  rw [row_of_visible hquote (by decide), hmargin, String.toList_append]
  rfl

/-- A column adds its declaration and then its comment. -/
theorem text_writeColumns_cons {writer : Writer} (hdepth : writer.depth = 1) (name : String)
    (column : Column) (rest : List (String × Column)) :
    ∃ next, writeColumns writer ((name, column) :: rest) = writeColumns next rest ∧
      next.depth = 1 ∧ next.text = writer.text ++
        ofRows (columnRow name column (if rest.isEmpty then [] else [',']) ::
          (commentLines column).map commentRow) := by
  have hending : (if rest.isEmpty then "" else ",").toList =
      if rest.isEmpty then [] else [','] := by
    split <;> rfl
  rw [writeColumns]
  refine ⟨_, rfl, ?_⟩
  unfold commentLines
  cases column.comment with
  | none =>
      refine ⟨hdepth, ?_⟩
      simp only [text_line, hdepth, row_columnText, hending]
      rfl
  | some comment =>
      refine ⟨by simp only [depth_comment, depth_line, hdepth], ?_⟩
      simp only [text_comment, text_line, depth_line, hdepth, row_columnText, hending,
        row_commentLine, String.append_assoc, ← ofRows_append]
      rfl

theorem text_writeColumns {writer : Writer} (hdepth : writer.depth = 1)
    (columns : List (String × Column)) :
    (writeColumns writer columns).text = writer.text ++ ofRows (columnsRows columns) ∧
      (writeColumns writer columns).depth = 1 := by
  induction columns generalizing writer with
  | nil => exact ⟨(String.append_empty).symm, hdepth⟩
  | cons entry rest ih =>
      obtain ⟨name, column⟩ := entry
      obtain ⟨next, hnext, hdepth', htext⟩ := text_writeColumns_cons hdepth name column rest
      obtain ⟨hmore, hfinal⟩ := ih hdepth'
      rw [hnext, hmore, htext, String.append_assoc, ← ofRows_append]
      exact ⟨rfl, hfinal⟩

theorem text_directive? {writer : Writer} (hdepth : writer.depth = 0) (key : String)
    (value : Option String) :
    (writer.directive? key value).text =
        writer.text ++ ofRows (directiveRows (setting key value)) ∧
      (writer.directive? key value).depth = 0 := by
  cases value with
  | none => exact ⟨(String.append_empty).symm, hdepth⟩
  | some value =>
      refine ⟨?_, hdepth⟩
      rw [Writer.directive?, text_directive, hdepth, row_directive]
      rfl

theorem text_write {writer : Writer} (hdepth : writer.depth = 0) (engine : Engine) :
    (engine.write writer).text = writer.text ++ ofRows (directiveRows (directives engine)) := by
  have hkind : (writer.directive "ENGINE" engine.kind).depth = 0 := hdepth
  obtain ⟨hkey, hdepth'⟩ := text_directive? hkind "ENGINE_SORTING_KEY" (joinedKey engine)
  obtain ⟨hpartition, hdepth'⟩ := text_directive? hdepth' "ENGINE_PARTITION_KEY" engine.partitionBy
  obtain ⟨httl, hdepth'⟩ := text_directive? hdepth' "ENGINE_TTL" engine.ttl
  obtain ⟨hversion, -⟩ := text_directive? hdepth' "ENGINE_VER" engine.version
  change (((((writer.directive "ENGINE" engine.kind).directive? "ENGINE_SORTING_KEY"
    (joinedKey engine)).directive? "ENGINE_PARTITION_KEY" engine.partitionBy).directive?
    "ENGINE_TTL" engine.ttl).directive? "ENGINE_VER" engine.version).text = _
  rw [hversion, httl, hpartition, hkey, text_directive, hdepth, row_directive]
  simp only [directives, directiveRows, List.map_cons, List.map_append, String.append_assoc,
    ← ofRows_append, List.append_assoc, List.cons_append, List.nil_append]

/-- What is written in front of the directives. -/
def schemaWriter (datasource : Datasource) : Writer :=
  let heads := (Writer.version {} datasource.version).description datasource.description
  (writeColumns (heads.line "SCHEMA >").indent datasource.columns.toList).dedent.blank

theorem text_schemaWriter (datasource : Datasource) :
    (schemaWriter datasource).text =
        ofRows ((headsOf datasource.version datasource.description).rows ++ "SCHEMA >".toList ::
          (columnsRows datasource.columns.toList ++ [[]])) ∧
      (schemaWriter datasource).depth = 0 := by
  obtain ⟨hheads, hdepth⟩ := text_headsOf datasource.version datasource.description
  have hschema : row 0 "SCHEMA >".toList = "SCHEMA >".toList := by decide
  have hindented : (((Writer.version {} datasource.version).description
      datasource.description).line "SCHEMA >").indent.depth = 1 := by
    rw [depth_indent, depth_line, hdepth]
  obtain ⟨hcolumns, hdepth'⟩ := text_writeColumns hindented datasource.columns.toList
  unfold schemaWriter
  refine ⟨?_, by rw [depth_blank, depth_dedent, hdepth']⟩
  rw [text_blank, text_dedent, hcolumns, text_indent, text_line, hheads, hdepth, hschema]
  simp only [← ofRows_append, List.append_assoc, List.cons_append, List.nil_append]

theorem text_eq (datasource : Datasource) : datasource.text = ofRows (rowsOf datasource) := by
  obtain ⟨hschema, hdepth⟩ := text_schemaWriter datasource
  change (datasource.engine.write (schemaWriter datasource)).text = _
  rw [text_write hdepth, hschema, ← ofRows_append, rowsOf]
  simp only [List.append_assoc, List.cons_append, List.nil_append]

/-! ## What the rows hold -/

theorem isRow_columnRow {name : String} {column : Column} {ending : List Char}
    (hcolumn : ∀ text ∈ Column.declared name column, '\n' ∉ text.toList) (hending : '\n' ∉ ending) :
    IsRow (columnRow name column ending) where
  unbroken := by
    have hname := hcolumn name (by simp [Column.declared])
    have htype := Column.not_mem_renderedType (c := '\n') (by decide) hcolumn
    have hpath := Column.not_mem_resolvedPath (c := '\n') (by decide) hcolumn
    simp [columnRow, columnText, indentation, hname, htype, hpath, hending]
  undashed := by simp [columnRow, indentation]

theorem isRow_commentRow {line : String} (hline : '\n' ∉ line.toList) :
    IsRow (commentRow line) where
  unbroken := by
    unfold commentRow commentLine
    split <;> simp [indentation, hline]
  undashed := by simp [commentRow, indentation]

theorem not_mem_of_mem_commentLines {column : Column} {line : String}
    (hline : line ∈ commentLines column) : '\n' ∉ line.toList := by
  unfold commentLines at hline
  cases hcomment : column.comment with
  | none => simp [hcomment] at hline
  | some comment =>
      rw [hcomment] at hline
      obtain ⟨row, hrow, rfl⟩ := List.mem_map.mp hline
      rw [String.toList_ofList]
      exact not_mem_of_mem_lines hrow

theorem isRow_of_mem_columnsRows {columns : List (String × Column)}
    (hcolumns : ∀ entry ∈ columns, ∀ text ∈ Column.declared entry.1 entry.2, '\n' ∉ text.toList)
    {row : List Char} (hrow : row ∈ columnsRows columns) : IsRow row := by
  induction columns with
  | nil => cases hrow
  | cons entry rest ih =>
      rw [List.forall_mem_cons] at hcolumns
      rcases List.mem_cons.mp hrow with rfl | hmore
      · exact isRow_columnRow hcolumns.1 (by split <;> decide)
      · rcases List.mem_append.mp hmore with hcomment | hrest
        · obtain ⟨line, hline, rfl⟩ := List.mem_map.mp hcomment
          exact isRow_commentRow (not_mem_of_mem_commentLines hline)
        · exact ih hcolumns.2 hrest

theorem eq_of_mem_setting {key : String} {value : Option String} {directive : String × String}
    (hdirective : directive ∈ setting key value) :
    directive.1 = key ∧ value = some directive.2 := by
  obtain ⟨shown, hvalue, rfl⟩ := Option.map_eq_some_iff.mp (Option.mem_toList.mp hdirective)
  exact ⟨rfl, hvalue⟩

theorem mem_directives {engine : Engine} {directive : String × String}
    (hdirective : directive ∈ directives engine) :
    directive.1 ∈ directiveKeys ∧
      (directive.2 ∈ engine.texts ∨ joinedKey engine = some directive.2) := by
  simp only [directives, List.mem_cons, List.mem_append] at hdirective
  rcases hdirective with rfl | hkey | hpartition | httl | hversion
  · exact ⟨List.mem_cons_self .., Or.inl (List.mem_cons_self ..)⟩
  · obtain ⟨hname, hvalue⟩ := eq_of_mem_setting hkey
    exact ⟨hname ▸ by decide, Or.inr hvalue⟩
  · obtain ⟨hname, hvalue⟩ := eq_of_mem_setting hpartition
    exact ⟨hname ▸ by decide, Or.inl (by simp [Engine.texts, hvalue])⟩
  · obtain ⟨hname, hvalue⟩ := eq_of_mem_setting httl
    exact ⟨hname ▸ by decide, Or.inl (by simp [Engine.texts, hvalue])⟩
  · obtain ⟨hname, hvalue⟩ := eq_of_mem_setting hversion
    exact ⟨hname ▸ by decide, Or.inl (by simp [Engine.texts, hvalue])⟩

/-- What joins texts and what is joined are all that a joined text is made of. -/
theorem not_mem_intercalate {c : Char} {separator : String} {texts : List String}
    (hseparator : c ∉ separator.toList) (htexts : ∀ text ∈ texts, c ∉ text.toList) :
    c ∉ (separator.intercalate texts).toList := by
  induction texts with
  | nil => simp
  | cons text rest ih =>
      rw [List.forall_mem_cons] at htexts
      cases rest with
      | nil => simpa using htexts.1
      | cons other more =>
          rw [String.intercalate_cons_cons, String.toList_append, String.toList_append,
            List.mem_append, List.mem_append, not_or, not_or]
          exact ⟨⟨htexts.1, hseparator⟩, ih htexts.2⟩

theorem not_mem_joinedKey {engine : Engine} (hengine : ∀ text ∈ engine.texts, '\n' ∉ text.toList)
    {text : String} (hjoined : joinedKey engine = some text) : '\n' ∉ text.toList := by
  unfold joinedKey at hjoined
  split at hjoined
  · cases hjoined
  · obtain rfl := Option.some.inj hjoined
    exact not_mem_intercalate (by decide) fun key hkey => hengine key (by simp [Engine.texts, hkey])

theorem isRow_of_mem_directiveRows {engine : Engine}
    (hengine : ∀ text ∈ engine.texts, '\n' ∉ text.toList) {row : List Char}
    (hrow : row ∈ directiveRows (directives engine)) : IsRow row := by
  obtain ⟨⟨key, value⟩, hdirective, rfl⟩ := List.mem_map.mp hrow
  obtain ⟨hkey, hvalue⟩ := mem_directives hdirective
  have hkeys : ∀ key ∈ directiveKeys, '\n' ∉ key.toList ∧ key.toList.head? = some 'E' := by
    decide
  obtain ⟨hunbroken, hhead⟩ := hkeys key hkey
  have hshown : '\n' ∉ value.toList := hvalue.elim (hengine value) (not_mem_joinedKey hengine)
  have hescaped : '\n' ∉ escaped '"' value.toList := not_mem_escaped (by decide) hshown
  exact ⟨by simp [directiveRow, quoted, hunbroken, hescaped], by simp [directiveRow, hhead]⟩

variable {datasource : Datasource}

theorem isRow_of_mem_rowsOf (hlines : datasource.OneLine) {row : List Char}
    (hrow : row ∈ rowsOf datasource) : IsRow row := by
  simp only [rowsOf, List.mem_append, List.mem_cons] at hrow
  rcases hrow with hheads | rfl | hcolumn | rfl | hdirective
  · exact isRow_of_mem_rows_headsOf hheads
  · decide
  · exact isRow_of_mem_columnsRows hlines.columns hcolumn
  · decide
  · exact isRow_of_mem_directiveRows hlines.engine hdirective

/-- The rows are read back from the text. -/
theorem rows_text (hlines : datasource.OneLine) : rows datasource.text = rowsOf datasource := by
  rw [text_eq]
  exact rows_ofRows fun _ hrow => (isRow_of_mem_rowsOf hlines hrow).unbroken

end Datasource
end QueryArtifacts
