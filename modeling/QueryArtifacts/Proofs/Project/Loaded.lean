import QueryArtifacts.Project.Load
import QueryArtifacts.Proofs.Artifact.PipeText
import QueryArtifacts.Proofs.Project.Artifacts
import QueryArtifacts.Proofs.Template.Insertions

/-!
# Loaded projects

Whatever a text is read as, a project is not loaded unless each datasource has a column and each
pipe has SQL with a visible character.  Such a project fails to generate in one way only: a pipe
refers to a parameter that it does not declare.

* `Project.defects_eq_nil_iff` — what a project without defects has.
* `Pipe.undeclared?` — the first token of a pipe with a known type and an undeclared name.
* `Pipe.ShowsSql` — a definition text that shows the SQL of its pipe.
* `Project.artifacts_of_parseWith` — how a loaded project generates.
-/

namespace QueryArtifacts

open Text Template

/-! ## Definitions without defects -/

theorem Datasource.defect?_eq_none_iff {datasource : Datasource} :
    datasource.defect? = none ↔ datasource.columns.toList ≠ [] := by
  rw [defect?, ite_eq_right_iff, NameMap.isEmpty, ← List.isEmpty_eq_false_iff]
  simp

theorem exists_visible_iff {cs : List Char} :
    (∃ c ∈ cs, isBlank c = false) ↔ allBlank cs = false := by
  rw [allBlank, List.all_eq_false]
  simp

namespace Pipe

variable {pipe : Pipe} {name sql : String}

/-- A pipe has SQL with a visible character. -/
def HasSql (pipe : Pipe) : Prop :=
  ∃ sql, pipe.sql = some sql ∧ ∃ c ∈ sql.toList, isBlank c = false

theorem defect?_eq_none_iff : pipe.defect? = none ↔ pipe.HasSql := by
  unfold defect? HasSql
  cases pipe.sql with
  | none => simp
  | some sql => simp [exists_visible_iff]

/-! ## Declared SQL -/

/-- The first token of the SQL of a pipe with a known type and an undeclared name. -/
def undeclared? (pipe : Pipe) : Option Token :=
  pipe.sql.bind fun sql => (scan sql).find? (·.IsUndeclared pipe.parameters)

/-- A definition text shows SQL as the body of a pipe: below the mark stand the rows of the wrapped
SQL, one of them visible. -/
structure ShowsSql (pipe : Pipe) (sql body contents : String) : Prop where
  declared : pipe.sql = some sql
  wrapped : wrap pipe.parameters sql = .ok body
  kept : sql.toList.Sublist body.toList
  rows : rows contents = (headsOf pipe.version pipe.description).rows ++
    "NODE endpoint".toList :: "SQL >".toList :: "    %".toList :: blockRows (plainLines body)
  visible : ∃ row ∈ blockRows (plainLines body), allBlank row = false

/-- SQL is taken as it is, so that only wrapping can refuse it. -/
theorem declaredText_of_sql (hsql : pipe.sql = some sql) :
    pipe.declaredText =
      (wrap pipe.parameters sql).map (textOfBody pipe.version pipe.description) := by
  rw [declaredText, hsql]
  rfl

theorem declaredArtifact_of_undeclared {token : Token} (hfind : pipe.undeclared? = some token) :
    pipe.declaredArtifact name = .error (.pipe name (.unknownParameter token.name token.text)) := by
  obtain ⟨sql, hsql, htoken⟩ := Option.bind_eq_some_iff.mp hfind
  rw [declaredArtifact, declaredText_of_sql hsql, wrap_of_undeclared htoken]
  rfl

theorem declaredArtifact_of_declared (hdefect : pipe.HasSql) (hfind : pipe.undeclared? = none) :
    ∃ sql body contents, pipe.declaredArtifact name = .ok ⟨name, .pipe, contents⟩ ∧
      pipe.ShowsSql sql body contents := by
  obtain ⟨sql, hsql, c, hc, hvisible⟩ := hdefect
  rw [undeclared?, hsql, Option.bind_some] at hfind
  obtain ⟨body, hwrapped, hkept⟩ := wrap_of_declared hfind
  refine ⟨sql, body, textOfBody pipe.version pipe.description body, ?_, ?_⟩
  · rw [declaredArtifact, declaredText_of_sql hsql, hwrapped]
    rfl
  · obtain ⟨row, hrow, hmem⟩ := exists_visible_row (hkept.subset hc) hvisible
    exact {
      declared := hsql
      wrapped := hwrapped
      kept := hkept
      rows := rows_textOfBody pipe.version pipe.description body
      visible := ⟨row, hrow, exists_visible_iff.mp ⟨c, hmem, hvisible⟩⟩ }

end Pipe

namespace Project

variable {project : Project}

/-! ## Loading -/

/-- A project without defects has columns and SQL throughout. -/
theorem defects_eq_nil_iff :
    project.defects = [] ↔
      (∀ entry ∈ project.datasources.toList, entry.2.columns.toList ≠ []) ∧
        ∀ entry ∈ project.pipes.toList, entry.2.HasSql := by
  rw [defects, List.append_eq_nil_iff, List.filterMap_eq_nil_iff, List.filterMap_eq_nil_iff]
  simp only [Option.map_eq_none_iff, Datasource.defect?_eq_none_iff, Pipe.defect?_eq_none_iff]

theorem eq_of_check {found : Project} (hcheck : project.check = .ok found) :
    project = found ∧ project.defects = [] := by
  unfold check at hcheck
  split at hcheck
  · next hnone => exact ⟨Except.ok.inj hcheck, hnone⟩
  · cases hcheck

/-- No reader gets a project with a defect past the check. -/
theorem defects_of_parseWith {reader : Reader} {environment : Environment} {text : String}
    (hparse : parseWith reader environment text = .ok project) : project.defects = [] := by
  obtain ⟨expanded, -, hrest⟩ := exists_of_bind_eq_ok hparse
  obtain ⟨found, -, hcheck⟩ := exists_of_bind_eq_ok hrest
  obtain ⟨rfl, hnone⟩ := eq_of_check hcheck
  exact hnone

/-! ## Generating -/

/-- The first pipe with an undeclared token is the error. -/
theorem artifacts_of_undeclared (hpipes : ∀ entry ∈ project.pipes.toList, entry.2.HasSql)
    {before after : List (String × Pipe)} {name : String} {pipe : Pipe} {token : Token}
    (hlist : project.pipes.toList = before ++ (name, pipe) :: after)
    (hbefore : ∀ entry ∈ before, entry.2.undeclared? = none)
    (hfind : pipe.undeclared? = some token) :
    project.artifacts = .error (.pipe name (.unknownParameter token.name token.text)) := by
  refine artifacts_eq_error_iff.mpr ⟨before, (name, pipe), after, hlist, ?_,
    Pipe.declaredArtifact_of_undeclared hfind⟩
  intro entry hentry
  have hmem : entry ∈ project.pipes.toList := hlist ▸ List.mem_append_left _ hentry
  obtain ⟨sql, body, contents, hartifact, -⟩ :=
    Pipe.declaredArtifact_of_declared (hpipes entry hmem) (hbefore entry hentry)
  exact ⟨_, hartifact⟩

/-- Without undeclared tokens all artifacts are generated, and those of the pipes show their SQL. -/
theorem artifacts_of_declared (hpipes : ∀ entry ∈ project.pipes.toList, entry.2.HasSql)
    (hdeclared : ∀ entry ∈ project.pipes.toList, entry.2.undeclared? = none) :
    ∃ artifacts, project.artifacts = .ok artifacts ∧
      ∀ artifact ∈ artifacts, artifact.kind = .pipe → ∃ entry ∈ project.pipes.toList,
        artifact.name = entry.1 ∧ ∃ sql body, entry.2.ShowsSql sql body artifact.contents := by
  have hall : ∀ entry ∈ project.pipes.toList, ∃ sql body contents,
      entry.2.declaredArtifact entry.1 = .ok ⟨entry.1, .pipe, contents⟩ ∧
        entry.2.ShowsSql sql body contents :=
    fun entry hentry => Pipe.declaredArtifact_of_declared (hpipes entry hentry)
      (hdeclared entry hentry)
  have hsome : ∃ artifacts, project.artifacts = .ok artifacts := by
    refine exists_artifacts_eq_ok_iff.mpr fun entry hentry => ?_
    obtain ⟨sql, body, contents, hartifact, -⟩ := hall entry hentry
    exact ⟨_, hartifact⟩
  obtain ⟨artifacts, hartifacts⟩ := hsome
  refine ⟨artifacts, hartifacts, fun artifact hmem hkind => ?_⟩
  obtain ⟨pipes, rfl, hrendered⟩ := artifacts_eq_ok_iff.mp hartifacts
  rcases List.mem_append.mp hmem with hdatasource | hpipe
  · obtain ⟨entry, -, rfl⟩ := List.mem_map.mp hdatasource
    cases hkind
  · obtain ⟨entry, hentry, hartifact⟩ := exists_of_mem_mapM (mapM_eq_ok_iff.mpr hrendered) _ hpipe
    obtain ⟨sql, body, contents, hown, hshows⟩ := hall entry hentry
    obtain rfl : artifact = ⟨entry.1, .pipe, contents⟩ := Except.ok.inj (hartifact.symm.trans hown)
    exact ⟨entry, hentry, rfl, sql, body, hshows⟩

/-- **A loaded project fails to generate in one way only.**  Whatever reader stands between the
expanded text and the check, a loaded project has columns and SQL throughout.  It generates all its
artifacts, those of the pipes with their SQL, unless some pipe has an undeclared token; then the
first such pipe and its first such token are the error. -/
theorem artifacts_of_parseWith :
    (∀ environment text, parse environment text = parseWith read environment text) ∧
    ∀ reader environment text project, parseWith reader environment text = .ok project →
      (∀ entry ∈ project.datasources.toList, entry.2.columns.toList ≠ []) ∧
      (∀ entry ∈ project.pipes.toList, entry.2.HasSql) ∧
      ((∀ entry ∈ project.pipes.toList, entry.2.undeclared? = none) ∧
          (∃ artifacts, project.artifacts = .ok artifacts ∧
            ∀ artifact ∈ artifacts, artifact.kind = .pipe → ∃ entry ∈ project.pipes.toList,
              artifact.name = entry.1 ∧
                ∃ sql body, entry.2.ShowsSql sql body artifact.contents) ∨
        ∃ before name pipe after token,
          project.pipes.toList = before ++ (name, pipe) :: after ∧
          (∀ entry ∈ before, entry.2.undeclared? = none) ∧
          pipe.undeclared? = some token ∧
          project.artifacts =
            .error (.pipe name (.unknownParameter token.name token.text))) := by
  refine ⟨fun environment text => rfl, fun reader environment text project hparse => ?_⟩
  obtain ⟨hcolumns, hpipes⟩ := defects_eq_nil_iff.mp (defects_of_parseWith hparse)
  refine ⟨hcolumns, hpipes, ?_⟩
  cases hfirst : project.pipes.toList.find? (·.2.undeclared?.isSome) with
  | none =>
      have hdeclared : ∀ entry ∈ project.pipes.toList, entry.2.undeclared? = none := by
        simpa using hfirst
      exact Or.inl ⟨hdeclared, artifacts_of_declared hpipes hdeclared⟩
  | some entry =>
      obtain ⟨hsome, before, after, hlist, hbefore⟩ := List.find?_eq_some_iff_append.mp hfirst
      obtain ⟨token, hfind⟩ := Option.isSome_iff_exists.mp hsome
      have hearlier : ∀ earlier ∈ before, earlier.2.undeclared? = none := by
        simpa using hbefore
      exact Or.inr ⟨before, entry.1, entry.2, after, token, hlist, hearlier, hfind,
        artifacts_of_undeclared hpipes hlist hearlier hfind⟩

/-- A datasource, a pipe that takes its SQL from the environment, and a pipe with given SQL. -/
def reportText (sql : String) : String :=
  "datasources.d.columns.c.type=\"D\"\npipes.f.sql=\"$\x7bHEAD\x7d\"\npipes.g.sql=\"" ++ sql ++ "\""

/-- The environment of the report. -/
def reportEnvironment : Environment :=
  .ofVariables [("HEAD", "SELECT 1")]

/-- The last pipe is the error if it has an undeclared token; if not, both pipes show their SQL. -/
theorem artifacts_reportText :
    (∃ project, parse reportEnvironment (reportText "\x7b\x7bInt64(x)\x7d\x7d") = .ok project ∧
      project.artifacts =
        .error (.pipe "g" (.unknownParameter "x" "\x7b\x7bInt64(x)\x7d\x7d")) ∧
      ∃ before name pipe after token, project.pipes.toList = before ++ (name, pipe) :: after ∧
        pipe.undeclared? = some token) ∧
    ∃ project artifacts, parse reportEnvironment (reportText "SELECT 2") = .ok project ∧
      project.artifacts = .ok artifacts ∧ artifacts.map Artifact.fileName =
        ["d.datasource", "f.pipe", "g.pipe"] ∧
      ∀ artifact ∈ artifacts, artifact.kind = .pipe →
        ∃ pipe sql body, Pipe.ShowsSql pipe sql body artifact.contents := by
  have hloaded : ∀ sql (test : Project → Bool),
      (parse reportEnvironment (reportText sql)).toOption.any test = true →
        ∃ project, parse reportEnvironment (reportText sql) = .ok project ∧
          test project = true := by
    intro sql test htest
    cases hload : parse reportEnvironment (reportText sql) with
    | error error =>
        rw [hload] at htest
        cases htest
    | ok project =>
        rw [hload] at htest
        exact ⟨project, rfl, htest⟩
  obtain ⟨hparse, hgenerates⟩ := artifacts_of_parseWith
  constructor
  · obtain ⟨project, hload, htest⟩ := hloaded "\x7b\x7bInt64(x)\x7d\x7d"
      (fun project => decide (project.artifacts =
        .error (.pipe "g" (.unknownParameter "x" "\x7b\x7bInt64(x)\x7d\x7d"))))
      (by decide +kernel)
    have hfails := of_decide_eq_true htest
    obtain ⟨-, -, hdeclared | hundeclared⟩ := hgenerates _ _ _ _ ((hparse _ _).symm.trans hload)
    · obtain ⟨-, artifacts, hsome, -⟩ := hdeclared
      rw [hfails] at hsome
      cases hsome
    · obtain ⟨before, name, pipe, after, token, hlist, -, hfind, -⟩ := hundeclared
      exact ⟨project, hload, hfails, before, name, pipe, after, token, hlist, hfind⟩
  · obtain ⟨project, hload, htest⟩ := hloaded "SELECT 2"
      (fun project => decide (project.artifacts.toOption.map (·.map Artifact.fileName) =
        some ["d.datasource", "f.pipe", "g.pipe"]))
      (by decide +kernel)
    have hnames := of_decide_eq_true htest
    obtain ⟨-, -, hdeclared | hundeclared⟩ := hgenerates _ _ _ _ ((hparse _ _).symm.trans hload)
    · obtain ⟨-, artifacts, hsome, hshown⟩ := hdeclared
      rw [hsome] at hnames
      refine ⟨project, artifacts, hload, hsome, Option.some.inj hnames,
        fun artifact hmem hkind => ?_⟩
      obtain ⟨entry, -, -, sql, body, hshows⟩ := hshown artifact hmem hkind
      exact ⟨entry.2, sql, body, hshows⟩
    · obtain ⟨_, _, _, _, _, -, -, -, hfails⟩ := hundeclared
      rw [hfails] at hnames
      cases hnames

end Project
end QueryArtifacts
