import QueryArtifacts.Proofs.Artifact.DatasourceText
import QueryArtifacts.Proofs.Text.Markers

/-!
# Reading datasources back

A reader recovers what the definition text of a datasource shows, as long as the texts that stand
inside one row hold no line feed and those between backquotes no backquote.  What descriptions and
comments hold is never taken for a declaration or a directive.

* `DatasourceReading` — what a definition text shows.
* `Datasource.read?` — the reader.
* `Datasource.readColumns?_append`, `Datasource.readEngine?_directives` — its two halves read back.
* `Datasource.read?_text` — reading back.
-/

namespace QueryArtifacts

open Text Writer

/-- What the declaration of a column shows, with the lines of the comment behind it. -/
structure ColumnReading where
  name : String
  type : String
  path : String
  comma : Bool
  comment : List String
  deriving DecidableEq, Repr

/-- What the directives of an engine show. -/
structure EngineReading where
  kind : String
  sortingKey : Option String
  partitionBy : Option String
  ttl : Option String
  version : Option String
  deriving DecidableEq, Repr

/-- What the definition text of a datasource shows. -/
structure DatasourceReading extends Heads where
  columns : List ColumnReading
  engine : EngineReading
  deriving DecidableEq, Repr

namespace Datasource

/-- Texts inside one row hold no line feed, and those of a declaration no backquote either. -/
structure Readable (datasource : Datasource) : Prop extends datasource.OneLine where
  unquoted : ∀ entry ∈ datasource.columns.toList, ∀ text ∈ Column.declared entry.1 entry.2,
    '`' ∉ text.toList

/-! ## Columns -/

/-- Read a declaration. -/
def readDeclaration? (row : List Char) : Option ColumnReading := do
  let row ← row.dropPrefix? "    `".toList
  let (name, row) ← splitAtChar '`' row
  let row ← row.dropPrefix? " ".toList
  let (type, row) ← splitAtChar '`' row
  guard (type.getLast? = some ' ')
  let row ← row.dropPrefix? "json:".toList
  let (path, ending) ← splitAtChar '`' row
  guard (ending = [] ∨ ending = [','])
  return {
    name := String.ofList name, type := String.ofList type.dropLast, path := String.ofList path,
    comma := ending = [','], comment := [] }

/-- Read a line of a comment. -/
def readComment? (row : List Char) : Option String :=
  if row = "    #".toList then some "" else (row.dropPrefix? "    # ".toList).map String.ofList

/-- Read columns up to the empty row.  The answer is the comment in front of the first declaration,
the columns, each with the comment behind it, and the rows behind the empty one. -/
def readColumns? : List (List Char) →
    Option (List String × List ColumnReading × List (List Char))
  | [] => none
  | row :: rest =>
      if row = [] then
        some ([], [], rest)
      else do
        let (comment, columns, after) ← readColumns? rest
        match readComment? row with
        | some line => return (line :: comment, columns, after)
        | none => return ([], { (← readDeclaration? row) with comment } :: columns, after)

/-- What is shown of columns. -/
def columnReadings : List (String × Column) → List ColumnReading
  | [] => []
  | (name, column) :: rest =>
      { name, type := column.renderedType, path := column.resolvedPath name,
        comma := !rest.isEmpty, comment := commentLines column } :: columnReadings rest

theorem readDeclaration?_columnRow {name : String} {column : Column} (last : Bool)
    (hcolumn : ∀ text ∈ Column.declared name column, '`' ∉ text.toList) :
    readDeclaration? (columnRow name column (if last then [] else [','])) =
      some { name, type := column.renderedType, path := column.resolvedPath name,
             comma := !last, comment := [] } := by
  have hname : '`' ∉ name.toList := hcolumn name (List.mem_cons_self ..)
  have htype : '`' ∉ column.renderedType.toList ++ [' '] := by
    simp [Column.not_mem_renderedType (c := '`') (by decide) hcolumn]
  have hpath := Column.not_mem_resolvedPath (c := '`') (by decide) hcolumn
  have hrow (ending : List Char) : columnRow name column ending =
      "    `".toList ++ (name.toList ++ '`' :: (" ".toList ++
        ((column.renderedType.toList ++ [' ']) ++ '`' :: ("json:".toList ++
          ((column.resolvedPath name).toList ++ '`' :: ending))))) := by
    simp [columnRow, columnText, indentation]
  simp only [readDeclaration?, hrow, List.dropPrefix?_append_of_beq _ (beq_self_eq_true _),
    splitAtChar_append hname, splitAtChar_append htype, splitAtChar_append hpath,
    Option.bind_eq_bind, Option.bind_some, List.getLast?_concat, List.dropLast_concat,
    String.ofList_toList]
  cases last <;> rfl

theorem readComment?_commentRow (line : String) : readComment? (commentRow line) = some line := by
  by_cases hline : line = ""
  · rw [hline]
    rfl
  · have hrow : commentRow line = "    # ".toList ++ line.toList := by
      have hempty : line.isEmpty = false := by simpa using hline
      rw [commentRow, commentLine, hempty]
      simp [indentation]
    rw [hrow, readComment?, if_neg (by simp), List.dropPrefix?_append_of_beq _ (beq_self_eq_true _),
      Option.map_some, String.ofList_toList]

theorem readComment?_columnRow (name : String) (column : Column) (ending : List Char) :
    readComment? (columnRow name column ending) = none := by
  have hrow : columnRow name column ending =
      "    `".toList ++ ((columnText name column).toList.drop 1 ++ ending) := by
    simp [columnRow, columnText, indentation]
  rw [hrow]
  rfl

/-- Reading the rows of a comment adds its lines in front. -/
theorem readColumns?_commentRows (found : List String) {rest : List (List Char)}
    {comment : List String} {columns : List ColumnReading} {after : List (List Char)}
    (hrest : readColumns? rest = some (comment, columns, after)) :
    readColumns? (found.map commentRow ++ rest) = some (found ++ comment, columns, after) := by
  induction found with
  | nil => exact hrest
  | cons line more ih =>
      have hvisible : commentRow line ≠ [] := by simp [commentRow, indentation]
      rw [List.map_cons, List.cons_append, readColumns?, if_neg hvisible, ih]
      simp only [Option.bind_eq_bind, Option.bind_some, readComment?_commentRow]
      rfl

/-- The rows of columns are read back from in front of an empty row. -/
theorem readColumns?_append {columns : List (String × Column)}
    (hcolumns : ∀ entry ∈ columns, ∀ text ∈ Column.declared entry.1 entry.2, '`' ∉ text.toList)
    (rest : List (List Char)) :
    readColumns? (columnsRows columns ++ [] :: rest) = some ([], columnReadings columns, rest) := by
  induction columns with
  | nil => rfl
  | cons entry more ih =>
      obtain ⟨name, column⟩ := entry
      rw [List.forall_mem_cons] at hcolumns
      -- The reader has the comment before it meets the declaration that the comment belongs to.
      have hcomment := readColumns?_commentRows (commentLines column) (ih hcolumns.2)
      rw [List.append_nil] at hcomment
      have hdeclared := readDeclaration?_columnRow more.isEmpty hcolumns.1
      have hvisible (ending : List Char) : columnRow name column ending ≠ [] := by
        simp [columnRow, indentation]
      rw [columnsRows, List.cons_append, List.append_assoc, readColumns?, if_neg (hvisible _),
        hcomment]
      simp only [Option.bind_eq_bind, Option.bind_some, readComment?_columnRow, hdeclared]
      rfl

/-- Column by column: only the last declaration has no comma. -/
theorem columnReadings_eq (columns : List (String × Column)) :
    columnReadings columns = columns.mapIdx fun i (name, column) =>
      { name, type := column.renderedType, path := column.resolvedPath name,
        comma := decide (i + 1 < columns.length), comment := commentLines column } := by
  induction columns with
  | nil => rfl
  | cons entry rest ih =>
      have hlast : (!rest.isEmpty) = decide (0 + 1 < rest.length + 1) := by cases rest <;> simp
      rw [columnReadings, List.mapIdx_cons, ih, hlast]
      simp only [List.length_cons, Nat.add_lt_add_iff_right]

/-! ## Directives -/

/-- Read a directive as its key and its value. -/
def readDirective? (row : List Char) : Option (String × String) := do
  let (key, rest) ← splitAtChar ' ' row
  let (value, rest) ← readQuoted? '"' rest
  guard (rest = [])
  return (String.ofList key, String.ofList value)

/-- Read the directives of an engine. -/
def readEngine? (rows : List (List Char)) : Option EngineReading := do
  match ← rows.mapM readDirective? with
  | [] => none
  | (key, kind) :: found =>
      guard (key = "ENGINE")
      return {
        kind, sortingKey := found.lookup "ENGINE_SORTING_KEY",
        partitionBy := found.lookup "ENGINE_PARTITION_KEY", ttl := found.lookup "ENGINE_TTL",
        version := found.lookup "ENGINE_VER" }

/-- What is shown of an engine. -/
def engineReading (engine : Engine) : EngineReading where
  kind := engine.kind
  sortingKey := joinedKey engine
  partitionBy := engine.partitionBy
  ttl := engine.ttl
  version := engine.version

theorem readDirective?_directiveRow {key : String} (hkey : ' ' ∉ key.toList) (value : String) :
    readDirective? (directiveRow key value) = some (key, value) := by
  have hrow : directiveRow key value =
      key.toList ++ ' ' :: ((quoteEscaped '"' value).toList ++ []) := by
    simp [directiveRow, quoted]
  rw [hrow, readDirective?, splitAtChar_append hkey]
  simp only [Option.bind_eq_bind, Option.bind_some, String.ofList_toList,
    readQuoted?_quoteEscaped (q := '"') (by decide)]
  rfl

theorem mapM_readDirective? {found : List (String × String)}
    (hfound : ∀ directive ∈ found, ' ' ∉ directive.1.toList) :
    (directiveRows found).mapM readDirective? = some found := by
  induction found with
  | nil => rfl
  | cons directive rest ih =>
      rw [List.forall_mem_cons] at hfound
      have hrest := ih hfound.2
      rw [directiveRows] at hrest
      rw [directiveRows, List.map_cons, List.mapM_cons, readDirective?_directiveRow hfound.1, hrest]
      rfl

/-- A directive is found under its key and under no other. -/
theorem lookup_setting (key other : String) (value : Option String) :
    (setting other value).lookup key = if key = other then value else none := by
  cases value with
  | none => simp [setting]
  | some value => by_cases hkey : key = other <;> simp [setting, hkey]

theorem readEngine?_directives (engine : Engine) :
    readEngine? (directiveRows (directives engine)) = some (engineReading engine) := by
  have hkeys : ∀ key ∈ directiveKeys, ' ' ∉ key.toList := by decide
  have hread : (directiveRows (directives engine)).mapM readDirective? = some (directives engine) :=
    mapM_readDirective? fun directive hdirective => hkeys _ (mem_directives hdirective).1
  rw [readEngine?, hread]
  simp [directives, List.lookup_append, lookup_setting, engineReading, guard]

/-! ## Definition texts -/

/-- Read the definition text of a datasource. -/
def read? (text : String) : Option DatasourceReading := do
  let (heads, rest) ← readHeads? (rows text)
  match rest with
  | [] => none
  | schema :: rest =>
      guard (schema = "SCHEMA >".toList)
      let (comment, columns, rest) ← readColumns? rest
      guard (comment = [])
      return { heads with columns, engine := ← readEngine? rest }

variable {datasource : Datasource}

theorem read?_eq_reading (hreadable : datasource.Readable) :
    read? datasource.text = some {
      headsOf datasource.version datasource.description with
      columns := columnReadings datasource.columns.toList
      engine := engineReading datasource.engine } := by
  have hheads : readHeads? (rowsOf datasource) = some
      (headsOf datasource.version datasource.description, "SCHEMA >".toList ::
        (columnsRows datasource.columns.toList ++ [] ::
          directiveRows (directives datasource.engine))) :=
    readHeads?_append _ _ (by decide) _
  have hcolumns := readColumns?_append hreadable.unquoted
    (directiveRows (directives datasource.engine))
  rw [read?, rows_text hreadable.toOneLine, hheads]
  simp only [Option.bind_eq_bind, Option.bind_some, hcolumns, readEngine?_directives]
  rfl

/-- The rows of columns, column by column: the declaration, ended by a comma unless it is the last
one, and the comment behind it. -/
theorem columnsRows_eq (columns : List (String × Column)) :
    columnsRows columns = (columns.mapIdx fun i (name, column) =>
      columnRow name column (if i + 1 < columns.length then [','] else []) ::
        (commentLines column).map commentRow).flatten := by
  induction columns with
  | nil => rfl
  | cons entry rest ih =>
      have hlast : (if rest.isEmpty then [] else [',']) =
          if 0 + 1 < rest.length + 1 then [','] else [] := by
        cases rest <;> simp
      rw [columnsRows, List.mapIdx_cons, List.flatten_cons, ih, hlast]
      simp only [List.length_cons, Nat.add_lt_add_iff_right, List.cons_append]

/-- **Datasources are read back.**  The reader recovers the version, the lines of the description,
if there is one, those of blanks emptied, the columns in their order, and the directives, each of
them if it is set.  Between the heading of the columns and the empty row in front of the directives
stand, column by column, the declaration, which ends in a comma unless it is the last one, and the
lines of the comment. -/
theorem read?_text (hreadable : datasource.Readable) :
    read? datasource.text = some {
      version := datasource.version
      description := datasource.description.map plainLines
      columns := datasource.columns.toList.mapIdx fun i (name, column) => {
        name
        type := column.renderedType
        path := column.resolvedPath name
        comma := decide (i + 1 < datasource.columns.toList.length)
        comment := column.comment.elim [] linesOf }
      engine := {
        kind := datasource.engine.kind
        sortingKey := if datasource.engine.sortingKey.isEmpty then none
          else some (",".intercalate datasource.engine.sortingKey)
        partitionBy := datasource.engine.partitionBy
        ttl := datasource.engine.ttl
        version := datasource.engine.version } } ∧
    rows datasource.text =
      (headsOf datasource.version datasource.description).rows ++ "SCHEMA >".toList ::
        ((datasource.columns.toList.mapIdx fun i (name, column) =>
          (indentation ++ columnText name column ++
              if i + 1 < datasource.columns.toList.length then "," else "").toList ::
            (column.comment.elim [] linesOf).map fun line =>
              (indentation ++ commentLine line).toList).flatten ++
          [] :: directiveRows (directives datasource.engine)) := by
  have hcomma (i : Nat) : (if i + 1 < datasource.columns.toList.length then "," else "").toList =
      if i + 1 < datasource.columns.toList.length then [','] else [] := by
    split <;> rfl
  constructor
  · rw [read?_eq_reading hreadable, columnReadings_eq]
    rfl
  · rw [rows_text hreadable.toOneLine, rowsOf, columnsRows_eq]
    simp only [String.toList_append, hcomma]
    rfl

/-- The description and the first comment look like headings, declarations and directives. -/
def disguised : Datasource where
  version := some 3
  description := some "SCHEMA >\n \r\n    `a` Int64 `json:$.a`\nENGINE \"Log\""
  columns := {
    toList := [
      ("id", { type := "Int64", nullable := true,
               comment := some "\n`b` Int64 `json:$.b`,\nENGINE \"Log\"" }),
      ("on, off", { type := "Map(String, String)", jsonPath := some "$.\"x y\"" })]
    distinct := by decide }
  engine := { kind := "a\\\"b", sortingKey := ["x", "y"], version := some "" }

theorem read?_disguised :
    disguised.Readable ∧ read? disguised.text = some {
      version := some 3
      description := some ["SCHEMA >", "", "    `a` Int64 `json:$.a`", "ENGINE \"Log\""]
      columns := [
        ⟨"id", "Nullable(Int64)", "$.id", true, ["", "`b` Int64 `json:$.b`,", "ENGINE \"Log\""]⟩,
        ⟨"on, off", "Map(String, String)", "$.\"x y\"", false, []⟩]
      engine := ⟨"a\\\"b", some "x,y", none, none, some ""⟩ } := by
  have hreadable : disguised.Readable := {
    columns := by decide
    engine := by decide
    unquoted := by decide }
  refine ⟨hreadable, ?_⟩
  rw [(read?_text hreadable).1]
  decide +kernel

end Datasource
end QueryArtifacts
