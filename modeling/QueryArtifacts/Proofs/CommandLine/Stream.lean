import QueryArtifacts.CommandLine.Run
import QueryArtifacts.Proofs.Artifact.DatasourceText
import QueryArtifacts.Proofs.Artifact.PipeText
import QueryArtifacts.Proofs.Project.Artifacts

/-!
# The stream of a rendering

A rendering prints everything that was asked for, or fails and prints nothing.  What it prints is
cut back into artifacts at the header rows: no row of a definition text begins with a dash, since
the texts that are given are indented, and rows of blanks are emptied.

* `Artifact.Framed` — an artifact whose contents are rows that are no headers.
* `CommandLine.sections`, `CommandLine.readArtifacts?` — the reader of a stream;
  `CommandLine.readArtifacts?_renderedText` — what it finds.
* `Project.Fails` — when a definition that was asked for is not generated;
  `CommandLine.render_of_fails`, `CommandLine.render_of_not_fails` — the outcome in either case.
* `CommandLine.perform_render` — the outcome of a rendering, with any reader of project files.
-/

namespace QueryArtifacts

open Text

/-! ## Artifacts in a stream -/

/-- The name holds no line feed, and the contents are rows of a definition text. -/
structure Artifact.Framed (artifact : Artifact) : Prop where
  name : '\n' ∉ artifact.name.toList
  contents : ofRows (rows artifact.contents) = artifact.contents
  isRow : ∀ row ∈ rows artifact.contents, IsRow row

theorem Artifact.framed_of_rows {artifact : Artifact} {found : List (List Char)}
    (hname : '\n' ∉ artifact.name.toList) (hcontents : artifact.contents = ofRows found)
    (hfound : ∀ row ∈ found, IsRow row) : artifact.Framed := by
  have hrows : rows artifact.contents = found := by
    rw [hcontents, rows_ofRows fun row hrow => (hfound row hrow).unbroken]
  exact {
    name := hname
    contents := by rw [hrows, hcontents]
    isRow := by rwa [hrows] }

/-- The artifact of a datasource in which texts inside one row hold no line feed. -/
theorem Datasource.framed_artifact {datasource : Datasource} (hlines : datasource.OneLine)
    {name : String} (hname : '\n' ∉ name.toList) : (datasource.artifact name).Framed :=
  Artifact.framed_of_rows hname (text_eq datasource) fun _ => isRow_of_mem_rowsOf hlines

/-- The artifact of a pipe, whatever its SQL holds. -/
theorem Pipe.framed_declaredArtifact {pipe : Pipe} {name : String} (hname : '\n' ∉ name.toList)
    {artifact : Artifact} (hartifact : pipe.declaredArtifact name = .ok artifact) :
    artifact.Framed := by
  unfold declaredArtifact declaredText text at hartifact
  cases hbody : body pipe.parameters (declaredAuthor pipe.sql) with
  | error cause =>
      rw [hbody] at hartifact
      cases hartifact
  | ok template =>
      rw [hbody] at hartifact
      cases hartifact
      exact Artifact.framed_of_rows hname (textOfBody_eq ..)
        fun _ => isRow_of_mem_rows_reading _ _ _

/-! ## Reading a stream -/

namespace CommandLine

/-- Whether a row is a header. -/
def isHeader (row : List Char) : Bool :=
  "-- ".toList.isPrefixOf row

/-- Cut rows at the headers, without the empty row in front of a header.  The answer is the rows in
front of the first header, and for each header what it names and the rows below it. -/
def sections : List (List Char) → List (List Char) × List (String × List (List Char))
  | [] => ([], [])
  | row :: rest =>
      let (body, found) := sections rest
      if isHeader row then
        ([], (String.ofList (row.drop "-- ".length), body) :: found)
      else if row = [] ∧ rest.head?.any isHeader then
        (body, found)
      else
        (row :: body, found)

/-- Read a stream as file names with contents.  Nothing stands in front of the first header. -/
def readArtifacts? (output : String) : Option (List (String × String)) :=
  let (before, found) := sections (rows output)
  if before = [] then some (found.map fun (name, body) => (name, ofRows body)) else none

/-- The row that names an artifact. -/
def headerRow (artifact : Artifact) : List Char :=
  "-- ".toList ++ artifact.fileName.toList

/-- The rows of a stream of artifacts. -/
def streamRows : List Artifact → List (List Char)
  | [] => []
  | [last] => headerRow last :: rows last.contents
  | artifact :: next :: more =>
      headerRow artifact :: (rows artifact.contents ++ [] :: streamRows (next :: more))

theorem isHeader_of_isRow {row : List Char} (hrow : IsRow row) : isHeader row = false := by
  cases row with
  | nil => rfl
  | cons c rest =>
      have hc : '-' ≠ c := fun heq => hrow.undashed (by rw [heq]; rfl)
      simp [isHeader, List.isPrefixOf, hc]

theorem isHeader_headerRow (artifact : Artifact) : isHeader (headerRow artifact) = true :=
  List.isPrefixOf_iff_prefix.mpr (List.prefix_append ..)

theorem drop_headerRow (artifact : Artifact) :
    String.ofList ((headerRow artifact).drop "-- ".length) = artifact.fileName := by
  have hdrop : (headerRow artifact).drop "-- ".length = artifact.fileName.toList :=
    List.drop_left ..
  rw [hdrop, String.ofList_toList]

/-- Rows that are no headers stay together, unless a header follows. -/
theorem sections_append {body : List (List Char)} (hbody : ∀ row ∈ body, isHeader row = false)
    (rest : List (List Char)) (hrest : rest.head?.any isHeader = false) :
    sections (body ++ rest) = (body ++ (sections rest).1, (sections rest).2) := by
  induction body with
  | nil => rfl
  | cons row more ih =>
      rw [List.forall_mem_cons] at hbody
      -- An empty row is dropped only in front of a header, and none comes next.
      have hnext : (more ++ rest).head?.any isHeader = false := by
        cases more with
        | nil => exact hrest
        | cons next _ => exact hbody.2 next (List.mem_cons_self ..)
      rw [List.cons_append, sections, ih hbody.2]
      simp only [hbody.1, hnext, Bool.false_eq_true, and_false, if_false]
      rfl

theorem head?_streamRows (artifact : Artifact) (more : List Artifact) :
    (streamRows (artifact :: more)).head?.any isHeader = true := by
  cases more <;> simp [streamRows, isHeader_headerRow]

/-- A stream is cut into its artifacts. -/
theorem sections_streamRows {artifacts : List Artifact}
    (hframed : ∀ artifact ∈ artifacts, artifact.Framed) :
    sections (streamRows artifacts) =
      ([], artifacts.map fun artifact => (artifact.fileName, rows artifact.contents)) := by
  have hplain : ∀ artifact ∈ artifacts, ∀ row ∈ rows artifact.contents, isHeader row = false :=
    fun artifact hmem row hrow => isHeader_of_isRow ((hframed artifact hmem).isRow row hrow)
  fun_induction streamRows artifacts with
  | case1 => rfl
  | case2 last =>
      have hbody := sections_append (hplain last (List.mem_singleton_self _)) [] rfl
      rw [List.append_nil] at hbody
      rw [sections, hbody]
      simp only [isHeader_headerRow, drop_headerRow, if_true, sections, List.append_nil]
      rfl
  | case3 artifact next more ih =>
      rw [List.forall_mem_cons] at hframed hplain
      -- The empty row between two artifacts is the one in front of the next header.
      have hrest : sections ([] :: streamRows (next :: more)) =
          ([], (next :: more).map fun artifact =>
            (artifact.fileName, rows artifact.contents)) := by
        rw [sections, ih hframed.2 hplain.2]
        simp only [head?_streamRows, and_self, if_true]
        rfl
      have hbody := sections_append hplain.1 ([] :: streamRows (next :: more)) rfl
      rw [sections, hbody, hrest]
      simp only [isHeader_headerRow, drop_headerRow, if_true, List.append_nil]
      rfl

theorem artifactText_eq {artifact : Artifact} (hframed : artifact.Framed) :
    artifactText artifact = ofRows (headerRow artifact :: rows artifact.contents) := by
  rw [artifactText, ofRows_cons, hframed.contents, headerRow, String.ofList_append,
    String.ofList_toList, String.ofList_toList]

theorem renderedText_eq {artifacts : List Artifact}
    (hframed : ∀ artifact ∈ artifacts, artifact.Framed) :
    renderedText artifacts = ofRows (streamRows artifacts) := by
  unfold renderedText
  fun_induction streamRows artifacts with
  | case1 => rfl
  | case2 last =>
      rw [List.map_singleton, String.intercalate_singleton]
      exact artifactText_eq (hframed last (List.mem_singleton_self _))
  | case3 artifact next more ih =>
      rw [List.forall_mem_cons] at hframed
      have hfeed : "\n" = ofRows [[]] := rfl
      rw [List.map_cons, List.map_cons, String.intercalate_cons_cons, ← List.map_cons,
        ih hframed.2, artifactText_eq hframed.1, hfeed, ← ofRows_append, ← ofRows_append]
      simp only [List.cons_append, List.append_assoc, List.nil_append]

theorem not_mem_headerRow {artifact : Artifact} (hframed : artifact.Framed) :
    '\n' ∉ headerRow artifact := by
  have hextension : '\n' ∉ artifact.kind.extension.toList := by
    cases artifact.kind <;> decide
  simp [headerRow, Artifact.fileName, hframed.name, hextension]

theorem not_mem_of_mem_streamRows {artifacts : List Artifact}
    (hframed : ∀ artifact ∈ artifacts, artifact.Framed) {row : List Char}
    (hrow : row ∈ streamRows artifacts) : '\n' ∉ row := by
  fun_induction streamRows artifacts with
  | case1 => cases hrow
  | case2 last =>
      have hlast := hframed last (List.mem_singleton_self _)
      rcases List.mem_cons.mp hrow with rfl | hbody
      · exact not_mem_headerRow hlast
      · exact (hlast.isRow row hbody).unbroken
  | case3 artifact next more ih =>
      rw [List.forall_mem_cons] at hframed
      simp only [List.mem_cons, List.mem_append] at hrow
      rcases hrow with rfl | hbody | rfl | hmore
      · exact not_mem_headerRow hframed.1
      · exact (hframed.1.isRow row hbody).unbroken
      · exact List.not_mem_nil
      · exact ih hframed.2 hmore

/-- A stream is read back as the file names and the contents of its artifacts. -/
theorem readArtifacts?_renderedText {artifacts : List Artifact}
    (hframed : ∀ artifact ∈ artifacts, artifact.Framed) :
    readArtifacts? (renderedText artifacts) =
      some (artifacts.map fun artifact => (artifact.fileName, artifact.contents)) := by
  have hcontents : ∀ artifact ∈ artifacts, ofRows (rows artifact.contents) = artifact.contents :=
    fun artifact hmem => (hframed artifact hmem).contents
  rw [readArtifacts?, renderedText_eq hframed,
    rows_ofRows fun _ => not_mem_of_mem_streamRows hframed, sections_streamRows hframed]
  simp only [if_true, List.map_map, Option.some.injEq]
  exact List.map_congr_left fun artifact hmem => by
    rw [Function.comp_apply, hcontents artifact hmem]

end CommandLine

/-! ## What is asked for -/

theorem Pipe.declaredArtifact_eq_error_iff {pipe : Pipe} {name : String} :
    (∃ error, pipe.declaredArtifact name = .error error) ↔
      ∃ cause, pipe.declaredText = .error cause := by
  unfold declaredArtifact
  cases pipe.declaredText <;> simp [artifactOf]

namespace Project

/-- The names of definitions and the texts that stand inside one row hold no line feed. -/
structure OneLine (project : Project) : Prop where
  datasourceNames : ∀ name ∈ project.datasources.names, '\n' ∉ name.toList
  pipeNames : ∀ name ∈ project.pipes.names, '\n' ∉ name.toList
  datasources : ∀ entry ∈ project.datasources.toList, entry.2.OneLine

instance (project : Project) : Decidable project.OneLine :=
  decidable_of_iff ((∀ name ∈ project.datasources.names, '\n' ∉ name.toList) ∧
    (∀ name ∈ project.pipes.names, '\n' ∉ name.toList) ∧
    ∀ entry ∈ project.datasources.toList, entry.2.OneLine)
    ⟨fun ⟨hdatasources, hpipes, hlines⟩ => ⟨hdatasources, hpipes, hlines⟩,
      fun hlines => ⟨hlines.datasourceNames, hlines.pipeNames, hlines.datasources⟩⟩

/-- Whether a definition that is asked for is missing or a pipe without a text. -/
def Fails (project : Project) : Option String → Prop
  | none => ∃ entry ∈ project.pipes.toList, ∃ cause, entry.2.declaredText = .error cause
  | some name => project.datasources.get? name = none ∧
      ∀ pipe, project.pipes.get? name = some pipe → ∃ cause, pipe.declaredText = .error cause

end Project

namespace CommandLine

open Project

variable {project : Project}

/-- There are artifacts unless a definition that is asked for fails. -/
theorem requestedArtifacts_eq_error_iff {only : Option String} :
    (∃ error, requestedArtifacts project only = .error error) ↔ project.Fails only := by
  cases only with
  | none =>
      have hpipes : project.Fails none ↔ ∃ error, project.pipes.toList.mapM
          (fun entry => entry.2.declaredArtifact entry.1) = .error error := by
        rw [mapM_eq_error_iff]
        simp only [Pipe.declaredArtifact_eq_error_iff]
        rfl
      rw [hpipes, requestedArtifacts, artifacts_eq]
      cases project.pipes.toList.mapM fun entry => entry.2.declaredArtifact entry.1 <;>
        simp [Except.map]
  | some name =>
      rw [requestedArtifacts, Project.artifact, Fails]
      cases project.datasources.get? name with
      | some datasource => simp [Except.map]
      | none =>
          cases project.pipes.get? name with
          | none => simp [Except.map]
          | some pipe =>
              have hpipe : (∃ error, (pipe.declaredArtifact name).map ([·]) = .error error) ↔
                  ∃ error, pipe.declaredArtifact name = .error error := by
                cases pipe.declaredArtifact name <;> simp [Except.map]
              simp only [hpipe, Pipe.declaredArtifact_eq_error_iff, true_and, Option.some.injEq,
                forall_eq']

theorem framed_of_mem_artifacts (hlines : project.OneLine) {artifacts : List Artifact}
    (hartifacts : project.artifacts = .ok artifacts) :
    ∀ artifact ∈ artifacts, artifact.Framed := by
  rw [artifacts_eq] at hartifacts
  cases hpipes : project.pipes.toList.mapM fun entry => entry.2.declaredArtifact entry.1 with
  | error error =>
      rw [hpipes] at hartifacts
      cases hartifacts
  | ok found =>
      rw [hpipes] at hartifacts
      cases hartifacts
      rw [List.forall_mem_append]
      constructor
      · intro artifact hmem
        obtain ⟨⟨name, datasource⟩, hentry, rfl⟩ := List.mem_map.mp hmem
        exact Datasource.framed_artifact (hlines.datasources _ hentry)
          (hlines.datasourceNames name (List.mem_map_of_mem hentry))
      · intro artifact hmem
        obtain ⟨⟨name, pipe⟩, hentry, hartifact⟩ := exists_of_mem_mapM hpipes artifact hmem
        exact Pipe.framed_declaredArtifact (hlines.pipeNames name (List.mem_map_of_mem hentry))
          hartifact

theorem framed_artifact (hlines : project.OneLine) {name : String} {artifact : Artifact}
    (hartifact : project.artifact name = .ok artifact) : artifact.Framed := by
  unfold Project.artifact at hartifact
  cases hdatasource : project.datasources.get? name with
  | some datasource =>
      rw [hdatasource] at hartifact
      cases hartifact
      have hmem := NameMap.mem_toList_of_get? hdatasource
      exact Datasource.framed_artifact (hlines.datasources _ hmem)
        (hlines.datasourceNames name (List.mem_map_of_mem hmem))
  | none =>
      rw [hdatasource] at hartifact
      cases hpipe : project.pipes.get? name with
      | none =>
          rw [hpipe] at hartifact
          cases hartifact
      | some pipe =>
          rw [hpipe] at hartifact
          exact Pipe.framed_declaredArtifact
            (hlines.pipeNames name (List.mem_map_of_mem (NameMap.mem_toList_of_get? hpipe)))
            hartifact

theorem framed_of_mem_requestedArtifacts (hlines : project.OneLine) {only : Option String}
    {artifacts : List Artifact} (hartifacts : requestedArtifacts project only = .ok artifacts) :
    ∀ artifact ∈ artifacts, artifact.Framed := by
  cases only with
  | none => exact framed_of_mem_artifacts hlines hartifacts
  | some name =>
      cases hone : project.artifact name with
      | error error =>
          rw [requestedArtifacts, hone] at hartifacts
          cases hartifacts
      | ok artifact =>
          rw [requestedArtifacts, hone] at hartifacts
          cases hartifacts
          rw [List.forall_mem_singleton]
          exact framed_artifact hlines hone

/-! ## The outcome -/

/-- The reader has no part in what becomes of a project that was loaded. -/
theorem perform_render_of_loaded {reader : Reader} {files : String → FileEntry}
    {environment : Environment} {file : Option String}
    (hload : loadWith reader files environment file = .ok project) (only : Option String) :
    perform reader files environment (.render file only) = render only project := by
  rw [perform, withProject, hload]

theorem render_of_fails {only : Option String} (hfails : project.Fails only) :
    (render only project).code = 1 ∧ (render only project).output = "" := by
  obtain ⟨error, hrequested⟩ := requestedArtifacts_eq_error_iff.mpr hfails
  rw [render, hrequested]
  exact ⟨rfl, rfl⟩

theorem render_of_not_fails {only : Option String} (hfine : ¬ project.Fails only) :
    ∃ artifacts, requestedArtifacts project only = .ok artifacts ∧
      render only project = .success (renderedText artifacts) := by
  cases hrequested : requestedArtifacts project only with
  | error error => exact absurd (requestedArtifacts_eq_error_iff.mp ⟨error, hrequested⟩) hfine
  | ok artifacts =>
      rw [render, hrequested]
      exact ⟨artifacts, rfl, rfl⟩

/-- **A rendering prints everything or nothing.**  Whatever reader stands between the expanded text
and the check: if the project is not loaded, or a definition that is asked for is not generated, the
rendering fails without output.  Otherwise it succeeds.  Then, if names and texts inside one row
hold no line feed, the output is read back as the file names and the contents of the artifacts in
their order, whatever SQL, descriptions and comments hold, and no row of the contents is a
header. -/
theorem perform_render (reader : Reader) (files : String → FileEntry) (environment : Environment)
    (file only : Option String) :
    (∀ error, loadWith reader files environment file = .error error →
      (perform reader files environment (.render file only)).code = 1 ∧
        (perform reader files environment (.render file only)).output = "") ∧
    ∀ project, loadWith reader files environment file = .ok project →
      (project.Fails only →
        (perform reader files environment (.render file only)).code = 1 ∧
          (perform reader files environment (.render file only)).output = "") ∧
      (¬ project.Fails only → ∃ artifacts, requestedArtifacts project only = .ok artifacts ∧
        (perform reader files environment (.render file only)).code = 0 ∧
        (project.OneLine →
          readArtifacts? (perform reader files environment (.render file only)).output =
            some (artifacts.map fun artifact => (artifact.fileName, artifact.contents)) ∧
          ∀ artifact ∈ artifacts, ∀ row ∈ rows artifact.contents, isHeader row = false)) := by
  refine ⟨fun error hload => ?_, fun project hload => ?_⟩
  · rw [perform, withProject, hload]
    exact ⟨rfl, rfl⟩
  · rw [perform_render_of_loaded hload]
    refine ⟨render_of_fails, fun hfine => ?_⟩
    obtain ⟨artifacts, hrequested, hrender⟩ := render_of_not_fails hfine
    rw [hrender]
    refine ⟨artifacts, hrequested, rfl, fun hlines => ?_⟩
    have hframed := framed_of_mem_requestedArtifacts hlines hrequested
    exact ⟨readArtifacts?_renderedText hframed, fun artifact hmem row hrow =>
      isHeader_of_isRow ((hframed artifact hmem).isRow row hrow)⟩

/-- A project file in which the free texts begin like headers, and the SQL ends in an empty line. -/
def dashedFiles (path : String) : FileEntry :=
  if path = "pipeql.toml" then
    .file ("datasources.a=\x7bdescription=\"-- b\"," ++
      "columns.c=\x7btype=\"D\",comment=\"-- e\"\x7d\x7d\npipes.f.sql=\"-- g\\n\\n\"").toUTF8
  else
    .missing

/-- The file names and the contents of its artifacts. -/
def dashedArtifacts : List (String × String) := [
  ("a.datasource", "DESCRIPTION >\n    -- b\n\nSCHEMA >\n    `c` D `json:$.c`\n    # -- e\n\n" ++
    "ENGINE \"MergeTree\"\n"),
  ("f.pipe", "NODE endpoint\nSQL >\n    %\n    -- g\n\n")]

/-- The artifacts of this file are read back from what is printed. -/
theorem readArtifacts?_dashedFiles :
    (∃ project, load dashedFiles (fun _ => none) = .ok project ∧ project.OneLine ∧
      ¬ project.Fails none) ∧
    readArtifacts? (perform read dashedFiles (fun _ => none) (.render none none)).output =
      some dashedArtifacts := by
  have hcheck : (load dashedFiles fun _ => none).toOption.any (fun project =>
      decide project.OneLine &&
        decide ((requestedArtifacts project none).toOption.map
          (·.map fun artifact => (artifact.fileName, artifact.contents)) =
            some dashedArtifacts)) = true := by
    decide +kernel
  cases hload : load dashedFiles fun _ => none with
  | error error =>
      rw [hload] at hcheck
      cases hcheck
  | ok project =>
      rw [hload, Except.toOption, Option.any_some, Bool.and_eq_true, decide_eq_true_eq,
        decide_eq_true_eq] at hcheck
      obtain ⟨hlines, hshown⟩ := hcheck
      have hfine : ¬ project.Fails none := by
        intro hfails
        obtain ⟨error, herror⟩ := requestedArtifacts_eq_error_iff.mpr hfails
        rw [herror] at hshown
        cases hshown
      obtain ⟨artifacts, hrequested, -, hread⟩ :=
        ((perform_render read dashedFiles (fun _ => none) none none).2 project hload).2 hfine
      rw [hrequested] at hshown
      exact ⟨⟨project, rfl, hlines, hfine⟩, (hread hlines).1.trans hshown⟩

end CommandLine
end QueryArtifacts
