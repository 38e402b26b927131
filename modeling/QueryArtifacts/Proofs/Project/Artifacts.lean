import Mathlib.Data.List.Nodup
import QueryArtifacts.Project.Basic
import QueryArtifacts.Proofs.Project.Steps

/-!
# One definition and all of them

The artifacts of a project are those of its definitions, one each.  Asking for a definition by its
name gives the first of them that has the name, and an answer also where the project as a whole has
none.

* `Artifact.fileName_inj` — kind and name can be read off a file name.
* `Project.artifacts_eq_ok_iff` — what the artifacts of a project are.
* `Project.artifact_eq_find?` — the artifact of a name is the first one of that name.
* `Project.Rendering` — what is true of the artifacts of a project.
* `Project.artifact_agrees` — the two ways of rendering agree.
-/

namespace QueryArtifacts

/-! ## File names -/

theorem Artifact.fileName_inj {artifact artifact' : Artifact}
    (hsame : artifact.fileName = artifact'.fileName) :
    artifact.kind = artifact'.kind ∧ artifact.name = artifact'.name := by
  have hlist := congrArg String.toList hsame
  simp only [fileName, String.toList_append, List.append_assoc] at hlist
  have hkind : artifact.kind = artifact'.kind := by
    -- Neither ending is an ending of the other.
    have hending : ∀ kind kind' : ArtifactKind,
        (".".toList ++ kind.extension.toList) <:+ (".".toList ++ kind'.extension.toList) →
          kind = kind' := by
      intro kind kind'
      cases kind <;> cases kind' <;> decide
    have hleft := List.suffix_append artifact.name.toList
      (".".toList ++ artifact.kind.extension.toList)
    have hright := List.suffix_append artifact'.name.toList
      (".".toList ++ artifact'.kind.extension.toList)
    rw [hlist] at hleft
    rcases List.suffix_or_suffix_of_suffix hleft hright with hshort | hshort
    · exact hending _ _ hshort
    · exact (hending _ _ hshort).symm
  rw [hkind] at hlist
  exact ⟨hkind, String.toList_inj.mp (List.append_cancel_right hlist)⟩

theorem Artifact.nodup_fileName {artifacts : List Artifact}
    (hdistinct : (artifacts.map fun artifact => (artifact.kind, artifact.name)).Nodup) :
    (artifacts.map fileName).Nodup := by
  rw [List.Nodup, List.pairwise_map] at hdistinct ⊢
  refine hdistinct.imp fun hne hsame => hne ?_
  obtain ⟨hkind, hname⟩ := fileName_inj hsame
  rw [hkind, hname]

/-! ## Pipes -/

/-- The artifact of a pipe is a pipe of its name. -/
theorem Pipe.kind_and_name_of_declaredArtifact {pipe : Pipe} {name : String} {artifact : Artifact}
    (hartifact : pipe.declaredArtifact name = .ok artifact) :
    artifact.kind = .pipe ∧ artifact.name = name := by
  unfold declaredArtifact at hartifact
  cases htext : pipe.declaredText with
  | error cause =>
      rw [htext] at hartifact
      cases hartifact
  | ok contents =>
      rw [htext] at hartifact
      cases hartifact
      exact ⟨rfl, rfl⟩

namespace Project

variable {project : Project}

/-- The artifacts of the datasources of a project. -/
def datasourceArtifacts (project : Project) : List Artifact :=
  project.datasources.toList.map fun entry => entry.2.artifact entry.1

theorem artifacts_eq (project : Project) :
    project.artifacts = Except.map (project.datasourceArtifacts ++ ·)
      (project.pipes.toList.mapM fun entry => entry.2.declaredArtifact entry.1) :=
  rfl

/-- The artifacts are those of the datasources, and then one for each pipe. -/
theorem artifacts_eq_ok_iff {artifacts : List Artifact} :
    project.artifacts = .ok artifacts ↔ ∃ pipes, artifacts = project.datasourceArtifacts ++ pipes ∧
      List.Forall₂ (fun entry artifact => entry.2.declaredArtifact entry.1 = .ok artifact)
        project.pipes.toList pipes := by
  rw [artifacts_eq]
  simp only [← mapM_eq_ok_iff]
  cases project.pipes.toList.mapM fun entry => entry.2.declaredArtifact entry.1 with
  | error error => simp [Except.map]
  | ok pipes => simp [Except.map, eq_comm]

/-- The error is that of the first pipe that fails. -/
theorem artifacts_eq_error_iff {error : GenerateError} :
    project.artifacts = .error error ↔
      ∃ before entry after, project.pipes.toList = before ++ entry :: after ∧
        (∀ earlier ∈ before, ∃ artifact, earlier.2.declaredArtifact earlier.1 = .ok artifact) ∧
        entry.2.declaredArtifact entry.1 = .error error := by
  have hrun : (project.pipes.toList.mapM fun entry => entry.2.declaredArtifact entry.1) =
      .error error ↔ _ := mapM_eq_error_first_iff
  rw [← hrun, artifacts_eq]
  cases project.pipes.toList.mapM fun entry => entry.2.declaredArtifact entry.1 <;>
    simp [Except.map]

theorem exists_artifacts_eq_ok_iff :
    (∃ artifacts, project.artifacts = .ok artifacts) ↔
      ∀ entry ∈ project.pipes.toList,
        ∃ artifact, entry.2.declaredArtifact entry.1 = .ok artifact := by
  have hrun : (∃ pipes, (project.pipes.toList.mapM fun entry => entry.2.declaredArtifact entry.1) =
      .ok pipes) ↔ _ := exists_mapM_eq_ok_iff
  rw [← hrun, artifacts_eq]
  cases project.pipes.toList.mapM fun entry => entry.2.declaredArtifact entry.1 <;>
    simp [Except.map]

/-! ## Kinds and names -/

/-- Kinds and names of the artifacts are those of the definitions. -/
theorem kinds_and_names_of_artifacts {artifacts : List Artifact}
    (hartifacts : project.artifacts = .ok artifacts) :
    (artifacts.map fun artifact => (artifact.kind, artifact.name)) =
      project.datasources.names.map (ArtifactKind.datasource, ·) ++
        project.pipes.names.map (ArtifactKind.pipe, ·) := by
  obtain ⟨pipes, rfl, hpipes⟩ := artifacts_eq_ok_iff.mp hartifacts
  rw [List.map_append]
  congr 1
  · simp only [datasourceArtifacts, NameMap.names, List.map_map]
    rfl
  · unfold NameMap.names
    clear hartifacts
    generalize project.pipes.toList = entries at hpipes ⊢
    induction hpipes with
    | nil => rfl
    | cons hartifact _ ih =>
        obtain ⟨hkind, hname⟩ := Pipe.kind_and_name_of_declaredArtifact hartifact
        simp only [List.map_cons, ih, hkind, hname]

theorem nodup_kinds_and_names (project : Project) :
    (project.datasources.names.map (ArtifactKind.datasource, ·) ++
      project.pipes.names.map (ArtifactKind.pipe, ·)).Nodup := by
  have hpair : ∀ kind : ArtifactKind, ∀ names : List String, names.Nodup →
      (names.map (kind, ·)).Nodup := by
    intro kind names hnames
    exact List.Nodup.map (fun _ _ hsame => (Prod.mk.inj hsame).2) hnames
  refine List.nodup_append.mpr ⟨hpair _ _ project.datasources.distinct,
    hpair _ _ project.pipes.distinct, ?_⟩
  intro pair hdatasource pair' hpipe hsame
  obtain ⟨name, -, rfl⟩ := List.mem_map.mp hdatasource
  obtain ⟨name', -, rfl⟩ := List.mem_map.mp hpipe
  cases hsame

/-! ## Asking by name -/

theorem find?_datasourceArtifacts (project : Project) (name : String) :
    project.datasourceArtifacts.find? (·.name = name) =
      (project.datasources.get? name).map fun datasource => datasource.artifact name := by
  unfold datasourceArtifacts NameMap.get?
  induction project.datasources.toList with
  | nil => rfl
  | cons entry rest ih =>
      obtain ⟨other, datasource⟩ := entry
      rw [List.map_cons, List.find?_cons, List.lookup_cons]
      by_cases hname : other = name
      · subst hname
        simp [Datasource.artifact]
      · have hother : (name == other) = false := beq_eq_false_iff_ne.mpr (Ne.symm hname)
        simp only [hother, ih]
        simp [Datasource.artifact, hname]

/-- The first artifact of a name comes from the definition of that name. -/
theorem find?_of_forall₂ {entries : List (String × Pipe)} {pipes : List Artifact}
    (hpipes : List.Forall₂ (fun entry artifact => entry.2.declaredArtifact entry.1 = .ok artifact)
      entries pipes) (name : String) :
    match entries.lookup name with
    | some pipe => ∃ artifact, pipes.find? (·.name = name) = some artifact ∧
        pipe.declaredArtifact name = .ok artifact
    | none => pipes.find? (·.name = name) = none := by
  induction hpipes with
  | nil => rfl
  | @cons entry artifact rest more hartifact _ ih =>
      obtain ⟨other, pipe⟩ := entry
      obtain ⟨-, hartifactName⟩ := Pipe.kind_and_name_of_declaredArtifact hartifact
      rw [List.lookup_cons]
      by_cases hname : other = name
      · subst hname
        simp only [beq_self_eq_true]
        exact ⟨artifact, by simp [hartifactName], hartifact⟩
      · have hother : (name == other) = false := beq_eq_false_iff_ne.mpr (Ne.symm hname)
        have hskip : (artifact :: more).find? (·.name = name) = more.find? (·.name = name) :=
          List.find?_cons_of_neg (by simp [hartifactName, hname])
        simp only [hother, hskip]
        exact ih

/-- The artifact of a name is the first one of that name. -/
theorem artifact_eq_find? {artifacts : List Artifact}
    (hartifacts : project.artifacts = .ok artifacts) (name : String) :
    project.artifact name =
      match artifacts.find? (·.name = name) with
      | some artifact => .ok artifact
      | none => .error (.notFound name) := by
  obtain ⟨pipes, rfl, hpipes⟩ := artifacts_eq_ok_iff.mp hartifacts
  have hfind := find?_of_forall₂ hpipes name
  rw [artifact, List.find?_append, find?_datasourceArtifacts]
  cases project.datasources.get? name with
  | some datasource => rfl
  | none =>
      change match project.pipes.get? name with
        | some pipe => ∃ artifact, pipes.find? (·.name = name) = some artifact ∧
            pipe.declaredArtifact name = .ok artifact
        | none => pipes.find? (·.name = name) = none at hfind
      cases hpipe : project.pipes.get? name with
      | none =>
          rw [hpipe] at hfind
          simp only [Option.map_none, Option.none_or, hfind]
      | some pipe =>
          rw [hpipe] at hfind
          obtain ⟨artifact, hfound, hartifact⟩ := hfind
          simp only [Option.map_none, Option.none_or, hfound, hartifact]

/-- A datasource is rendered on its own whatever becomes of the pipes. -/
theorem artifact_of_mem_datasources {entry : String × Datasource}
    (hentry : entry ∈ project.datasources.toList) :
    project.artifact entry.1 = .ok (entry.2.artifact entry.1) := by
  rw [artifact, NameMap.get?_of_mem_toList hentry]

/-- A pipe that renders is rendered on its own whatever becomes of the others, unless a datasource
of its name comes before it. -/
theorem artifact_of_mem_pipes {entry : String × Pipe} (hentry : entry ∈ project.pipes.toList)
    {artifact : Artifact} (hartifact : entry.2.declaredArtifact entry.1 = .ok artifact) :
    ∃ found, project.artifact entry.1 = .ok found := by
  cases hdatasource : project.datasources.get? entry.1 with
  | some datasource => exact ⟨_, by rw [Project.artifact, hdatasource]⟩
  | none =>
      refine ⟨artifact, ?_⟩
      rw [Project.artifact, hdatasource, NameMap.get?_of_mem_toList hentry]
      exact hartifact

/-! ## All artifacts -/

/-- A list of artifacts renders a project: one artifact for each definition, in the order of the
definitions, with file names that differ, and the ones that are given for the names. -/
structure Rendering (project : Project) (artifacts : List Artifact) : Prop where
  definitions : ∃ pipes, artifacts = project.datasourceArtifacts ++ pipes ∧
    List.Forall₂ (fun entry artifact => entry.2.declaredArtifact entry.1 = .ok artifact)
      project.pipes.toList pipes
  kinds_and_names : (artifacts.map fun artifact => (artifact.kind, artifact.name)) =
    project.datasources.names.map (ArtifactKind.datasource, ·) ++
      project.pipes.names.map (ArtifactKind.pipe, ·)
  fileNames : (artifacts.map Artifact.fileName).Nodup
  by_name : ∀ name, project.artifact name =
    match artifacts.find? (·.name = name) with
    | some artifact => .ok artifact
    | none => .error (.notFound name)

theorem rendering_of_artifacts {artifacts : List Artifact}
    (hartifacts : project.artifacts = .ok artifacts) : project.Rendering artifacts := by
  have hkinds := kinds_and_names_of_artifacts hartifacts
  have hdistinct : (artifacts.map fun artifact => (artifact.kind, artifact.name)).Nodup := by
    rw [hkinds]
    exact nodup_kinds_and_names project
  exact {
    definitions := artifacts_eq_ok_iff.mp hartifacts
    kinds_and_names := hkinds
    fileNames := Artifact.nodup_fileName hdistinct
    by_name := artifact_eq_find? hartifacts }

/-- **One definition and all of them agree.**  A project has artifacts exactly if each of its pipes
has one, and its error is that of the first pipe without.  The artifacts render the project, so that
a name stands for the first artifact that has it.  Where the pipes of a project do not all have an
artifact, its datasources and the pipes that have one are still given by their names. -/
theorem artifact_agrees (project : Project) :
    ((∃ artifacts, project.artifacts = .ok artifacts) ↔
      ∀ entry ∈ project.pipes.toList,
        ∃ artifact, entry.2.declaredArtifact entry.1 = .ok artifact) ∧
    (∀ error, project.artifacts = .error error ↔
      ∃ before entry after, project.pipes.toList = before ++ entry :: after ∧
        (∀ earlier ∈ before, ∃ artifact, earlier.2.declaredArtifact earlier.1 = .ok artifact) ∧
        entry.2.declaredArtifact entry.1 = .error error) ∧
    (∀ artifacts, project.artifacts = .ok artifacts → project.Rendering artifacts) ∧
    (∀ error, project.artifacts = .error error →
      (∀ entry ∈ project.datasources.toList,
        project.artifact entry.1 = .ok (entry.2.artifact entry.1)) ∧
      (∀ entry ∈ project.pipes.toList, ∀ artifact,
        entry.2.declaredArtifact entry.1 = .ok artifact →
          ∃ found, project.artifact entry.1 = .ok found)) := by
  refine ⟨exists_artifacts_eq_ok_iff, fun error => artifacts_eq_error_iff,
    fun artifacts => rendering_of_artifacts, fun error _ => ⟨fun entry => ?_, fun entry => ?_⟩⟩
  · exact artifact_of_mem_datasources
  · exact fun hentry artifact => artifact_of_mem_pipes hentry

/-- A datasource and a pipe of one name, and a pipe of another. -/
def namesakes (sql : String) : Project where
  datasources := .ofList [("a", {})]
  pipes := .ofList [("a", { sql := some "SELECT 1" }), ("b", { sql := some sql })]

/-- The name that is used twice stands for the datasource, whether or not the last pipe fails. -/
theorem artifact_namesakes :
    (∃ artifacts, (namesakes "SELECT 2").artifacts = .ok artifacts ∧
      (namesakes "SELECT 2").Rendering artifacts ∧
      artifacts.map Artifact.fileName = ["a.datasource", "a.pipe", "b.pipe"]) ∧
    (namesakes "SELECT {{Int64(x)}}").artifacts =
      .error (.pipe "b" (.unknownParameter "x" "{{Int64(x)}}")) ∧
    (namesakes "SELECT {{Int64(x)}}").artifact "a" =
      .ok (Datasource.artifact {} "a") := by
  have hsome : ((namesakes "SELECT 2").artifacts.toOption.map (·.map Artifact.fileName)) =
      some ["a.datasource", "a.pipe", "b.pipe"] := by
    decide +kernel
  have hfails : (namesakes "SELECT {{Int64(x)}}").artifacts =
      .error (.pipe "b" (.unknownParameter "x" "{{Int64(x)}}")) := by
    decide +kernel
  refine ⟨?_, hfails, ?_⟩
  · cases hartifacts : (namesakes "SELECT 2").artifacts with
    | error error =>
        rw [hartifacts] at hsome
        cases hsome
    | ok artifacts =>
        rw [hartifacts] at hsome
        have hrendering := (artifact_agrees (namesakes "SELECT 2")).2.2.1 artifacts hartifacts
        exact ⟨artifacts, rfl, hrendering, Option.some.inj hsome⟩
  · obtain ⟨hdatasources, -⟩ := (artifact_agrees _).2.2.2 _ hfails
    exact hdatasources ("a", {}) (by decide)

end Project
end QueryArtifacts
