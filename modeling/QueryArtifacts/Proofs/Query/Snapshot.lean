import QueryArtifacts.Proofs.Query.Isolation

/-!
# Snapshots keep their text

A snapshot shares the queries below it with the query that it was taken of.  It keeps the text of
that moment as long as nothing below changes, and of the queries below only those that were recorded
as operands can change: the others are snapshots themselves.

* `Store.text_eq_of_below` — two states that agree have the same text if the stores agree below.
* `Session.state_run_induction` — the state of one query changes only through its own log.
* `Session.text_snapshot_run` — the text of a snapshot at the end of a run.
* `Session.snapshots_freeze` — copies, subqueries and common table expressions.
-/

namespace QueryArtifacts

namespace Store

/-- The text of a state is settled by the states below. -/
theorem text_eq_of_below {store store' : Store} {query copy : QueryId}
    (hcopy : store'.state copy = store.state query)
    (hbelow : ∀ other, store.Below query other → store'.state other = store.state other) :
    store'.text copy = store.text query := by
  rw [text_eq, text_eq, hcopy]
  refine QueryState.text_congr fun first hfirst => ?_
  refine text_congr (fun kept hkept other hother => ?_) hbelow ⟨first, hfirst, .refl first⟩
  obtain ⟨start, hstart, hpath⟩ := hkept
  exact ⟨start, hstart, hpath.snoc hother⟩

end Store

namespace Session

theorem log_cons (query : QueryId) (session : Session) (action : Action String)
    (rest : List (Action String)) :
    log query session (action :: rest) =
      match session.stated? action with
      | some (target, entry) =>
          if target = query then entry :: log query (session.step action) rest
          else log query (session.step action) rest
      | none => log query (session.step action) rest := rfl

/-- The state of one query changes through the entries of its own log and in no other way. -/
theorem state_run_induction (Good : QueryState → Prop) {session : Session} {query : QueryId}
    {actions : List (Action String)} (hquery : session.store.Holds query)
    (hstart : Good (session.store.state query))
    (hentry : ∀ store, ∀ entry ∈ log query session actions, ∀ state, Good state →
      Good (state.apply (Entry.call store entry))) :
    Good ((session.run actions).store.state query) := by
  induction actions generalizing session with
  | nil => exact hstart
  | cons action rest ih =>
      have hheld := hquery.mono (session.size_le_step action)
      rw [run_cons]
      rw [log_cons] at hentry
      cases hstated : session.stated? action with
      | none =>
          rw [hstated] at hentry
          refine ih hheld ?_ hentry
          rw [state_step_of_ne hquery (by simp [hstated])]
          exact hstart
      | some stated =>
          obtain ⟨target, entry⟩ := stated
          simp only [hstated] at hentry
          by_cases htarget : target = query
          · subst htarget
            rw [if_pos rfl] at hentry
            refine ih hheld ?_ fun store later hlater =>
              hentry store later (List.mem_cons_of_mem _ hlater)
            rw [state_step_self hstated hquery]
            exact hentry session.store entry (List.mem_cons_self ..) _ hstart
          · rw [if_neg htarget] at hentry
            refine ih hheld ?_ hentry
            rw [step_of_stated hstated]
            change Good ((record session.store target entry).state query)
            rw [state_record_of_ne entry hquery (Ne.symm htarget)]
            exact hstart

/-- What stands behind `FROM` stays until the next statement about it. -/
theorem source_run {session : Session} {query : QueryId} {actions : List (Action String)}
    (hquery : session.store.Holds query)
    (hclause : ∀ entry ∈ log query session actions, entry.clause ≠ .source) :
    ((session.run actions).store.state query).source = (session.store.state query).source := by
  refine state_run_induction (fun state => state.source = (session.store.state query).source)
    hquery rfl fun store entry hentry state hstate => ?_
  rw [← hstate]
  have hother := hclause entry hentry
  cases entry with
  | statement said =>
      cases said with
      | table name => exact absurd rfl hother
      | select | filter | join | groupBy | having | orderBy | limit | offset | commonTable | raw =>
          rfl
  | attachment role other =>
      cases role with
      | subquery name => exact absurd rfl hother
      | operand operator | commonTable name => rfl

/-- Common table expressions are only ever added, behind those that are there. -/
theorem commonTables_run {session : Session} {query : QueryId} (actions : List (Action String))
    (hquery : session.store.Holds query) :
    (session.store.state query).commonTables <+:
      ((session.run actions).store.state query).commonTables := by
  refine state_run_induction
    (fun state => (session.store.state query).commonTables <+: state.commonTables)
    hquery (List.prefix_refl _) fun store entry _ state hstate => ?_
  have hadd : ∀ table, (session.store.state query).commonTables <+: state.commonTables ++ [table] :=
    fun table => hstate.trans (List.prefix_append _ _)
  cases entry with
  | statement said =>
      cases said with
      | commonTable name sql => exact hadd _
      | select | table | filter | join | groupBy | having | orderBy | limit | offset | raw =>
          exact hstate
  | attachment role other =>
      cases role with
      | commonTable name => exact hadd _
      | operand operator | subquery name => exact hstate

/-! ## The snapshot of one statement -/

section Attachment

variable {session : Session} {action : Action String} {outer other : QueryId} {role : Role String}

/-- A statement that uses `other` as subquery or common table expression takes the next query of
the store for its snapshot, in the present state of `other`. -/
theorem state_step_snapshot (hseparated : session.Separated)
    (hstated : session.stated? action = some (outer, .attachment role other))
    (hrole : role.clause ≠ .branches) :
    (session.step action).store.state ⟨session.store.size⟩ = session.store.state other := by
  have houter := hseparated.held outer (mem_handles_of_stated? hstated)
  have hne : (⟨session.store.size⟩ : QueryId) ≠ outer := by
    rintro rfl
    exact session.store.not_holds_next houter
  rw [step_of_stated hstated]
  change (record session.store outer (.attachment role other)).state ⟨session.store.size⟩ = _
  rw [record_eq, Store.state_call_of_ne _ hne]
  cases role with
  | operand operator => exact absurd rfl hrole
  | subquery name | commonTable name => exact Store.state_add_next _ _

theorem mem_snapshots_step (hseparated : session.Separated)
    (hstated : session.stated? action = some (outer, .attachment role other))
    (hrole : role.clause ≠ .branches) :
    ⟨session.store.size⟩ ∈ ((session.step action).store.state outer).snapshots := by
  rw [state_step_self hstated (hseparated.held outer (mem_handles_of_stated? hstated)),
    QueryState.mem_snapshots_iff]
  cases role with
  | operand operator => exact absurd rfl hrole
  | subquery name => exact Or.inr ⟨name, rfl⟩
  | commonTable name =>
      exact Or.inl ⟨name, List.mem_append_right _ (List.mem_singleton_self _)⟩

/-- If using `other` in `outer` closes no cycle, `outer` is not below `other`. -/
theorem not_below_of_acyclic (hseparated : session.Separated)
    (hstated : session.stated? action = some (outer, .attachment role other))
    (hrole : role.clause ≠ .branches)
    (hacyclic : (session.step action).store.Acyclic) : ¬ session.store.Below other outer := by
  rintro ⟨first, hfirst, hpath⟩
  -- The path down from `other` survives the step and starts from the snapshot as well.
  have hpath' : (session.step action).store.Reaches first outer := by
    refine hpath.transfer fun query hquery hne => ?_
    refine state_step_of_ne hquery fun target entry hsaid => ?_
    rw [hstated] at hsaid
    cases hsaid
    exact hne
  rw [← state_step_snapshot hseparated hstated hrole] at hfirst
  have hmem := mem_snapshots_step hseparated hstated hrole
  exact hacyclic outer _ (QueryState.snapshots_subset_references _ hmem) (.step hfirst hpath')

/-- The snapshot that a statement takes keeps the text of that moment through every run that leaves
the operands below it alone. -/
theorem text_snapshot_run {future : List (Action String)} (hseparated : session.Separated)
    (hstated : session.stated? action = some (outer, .attachment role other))
    (hrole : role.clause ≠ .branches)
    (hacyclic : (session.step action).store.Acyclic)
    (hfuture : ∀ changed ∈ (session.step action).mutated future,
      ¬ session.store.Combines other changed) :
    ((session.step action).run future).store.text ⟨session.store.size⟩ =
      session.store.text other := by
  have hseparated' := separated_step hseparated action
  have hother := hseparated.held other (mem_handles_of_attachment hstated)
  apply Store.text_eq_of_below
  · have hmem := mem_snapshots_step hseparated hstated hrole
    rw [(hseparated'.snapshot_run hmem future).2, state_step_snapshot hseparated hstated hrole]
  · intro kept hbelow
    have hheld : session.store.Holds kept := by
      obtain ⟨first, hfirst, hpath⟩ := hbelow
      exact hseparated.holds_of_reaches hother (.step hfirst hpath)
    have hstep : (session.step action).store.state kept = session.store.state kept := by
      refine state_step_of_ne hheld fun target entry hsaid heq => ?_
      rw [hstated] at hsaid
      cases hsaid
      exact not_below_of_acyclic hseparated hstated hrole hacyclic (heq ▸ hbelow)
    -- A snapshot has no handle, and the operands below are left alone.
    have hmutated : kept ∉ (session.step action).mutated future := by
      rcases hbelow.snapshot_or_combines with ⟨owner, hsnapshot⟩ | hcombines
      · have hhandle : kept ∉ (session.step action).handles := by
          rw [step_of_stated hstated]
          exact (hseparated.fits owner).hidden kept hsnapshot
        exact (not_mem_mutated_of_not_mem_handles future
          (hheld.mono (session.size_le_step action)) hhandle).1
      · exact fun hmem => hfuture kept hmem hcombines
    rw [state_run_of_not_mem_mutated (hheld.mono (session.size_le_step action)) hmutated, hstep]

/-- What stands behind `FROM` after `other` has been given as subquery. -/
theorem source_run_subquery {name : String} {future : List (Action String)}
    (hquery : session.store.Holds outer)
    (hstated : session.stated? action = some (outer, .attachment (.subquery name) other))
    (hclause : ∀ entry ∈ log outer (session.step action) future, entry.clause ≠ .source) :
    (((session.step action).run future).store.state outer).source =
      some (.subquery ⟨session.store.size⟩ name) := by
  rw [source_run (hquery.mono (session.size_le_step action)) hclause,
    state_step_self hstated hquery]
  rfl

/-- The common table expression that `other` has been given as, at its place among the others. -/
theorem commonTable_run {name : String} (future : List (Action String))
    (hquery : session.store.Holds outer)
    (hstated : session.stated? action = some (outer, .attachment (.commonTable name) other)) :
    (((session.step action).run future).store.state outer).commonTables[
        (session.store.state outer).commonTables.length]? =
      some ⟨name, .query ⟨session.store.size⟩⟩ := by
  obtain ⟨later, hlater⟩ :=
    commonTables_run future (hquery.mono (session.size_le_step action))
  rw [← hlater, state_step_self hstated hquery]
  change ((_ ++ [_]) ++ later)[_]? = _
  rw [List.append_assoc, List.getElem?_append_right (Nat.le_refl _), Nat.sub_self]
  rfl

end Attachment

/-! ## Copies -/

/-- A copy has the text of the query that it was taken of, which keeps that text. -/
theorem Separated.text_copy {session : Session} (hseparated : session.Separated) {query : QueryId}
    (hquery : query ∈ session.handles) :
    (session.store.copy query).2.text (session.store.copy query).1 = session.store.text query ∧
      (session.store.copy query).2.text query = session.store.text query := by
  have hheld := hseparated.held query hquery
  have hkept : ∀ other, session.store.Holds other →
      (session.store.copy query).2.state other = session.store.state other :=
    fun other hother => Store.state_add_of_holds hother
  constructor
  · refine Store.text_eq_of_below (Store.state_add_next _ _) ?_
    rintro other ⟨first, hfirst, hpath⟩
    exact hkept other (hseparated.holds_of_reaches hheld (.step hfirst hpath))
  · exact Store.text_congr (fun owner _ => (hseparated.fits owner).closed) hkept hheld

/-- **Snapshots freeze the text.**  In every session:

* A copy has the text of the query that it was taken of, found or failed, and leaves that text as it
  is.
* After `outer` has been given `other` as subquery or as common table expression, what stands behind
  `FROM`, up to the next statement about it, and the common table expression, for good, read as
  the text that `other` had, whatever is said about `other` and the rest; `outer` may be `other`.
  The run may not touch what had been combined into `other`, at any depth, and the statement itself
  may not close a cycle. -/
theorem snapshots_freeze (past : List (Action String)) :
    let session := ({} : Session).run past
    (∀ query ∈ session.handles,
      (session.store.copy query).2.text (session.store.copy query).1 =
          (session.store.copy query).2.text query ∧
        (session.store.copy query).2.text query = session.store.text query) ∧
    ∀ (action : Action String) (outer other : QueryId) (role : Role String) (text : String)
      (future : List (Action String)),
      session.stated? action = some (outer, .attachment role other) →
      session.store.text other = .ok text →
      (session.step action).store.Acyclic →
      (∀ changed ∈ (session.step action).mutated future,
        ¬ session.store.Combines other changed) →
      let final := ((session.step action).run future).store
      final.text outer = (final.state outer).text final.text ∧
      (∀ name, role = .subquery name →
        (∀ entry ∈ log outer (session.step action) future, entry.clause ≠ .source) →
        ∃ source, (final.state outer).source = some source ∧
          source.text final.text = .ok ("(" ++ text ++ ") AS " ++ name)) ∧
      (∀ name, role = .commonTable name →
        ∃ table, (final.state outer).commonTables[
            (session.store.state outer).commonTables.length]? = some table ∧
          table.text final.text = .ok (name ++ " AS (" ++ text ++ ")")) := by
  intro session
  have hseparated : session.Separated := separated_run past separated_empty
  constructor
  · intro query hquery
    obtain ⟨hcopy, hsame⟩ := hseparated.text_copy hquery
    exact ⟨hcopy.trans hsame.symm, hsame⟩
  · intro action outer other role text future hstated htext hacyclic hfuture final
    have houter := hseparated.held outer (mem_handles_of_stated? hstated)
    have hsnapshot (hrole : role.clause ≠ .branches) :
        final.text ⟨session.store.size⟩ = .ok text :=
      (text_snapshot_run hseparated hstated hrole hacyclic hfuture).trans htext
    refine ⟨final.text_eq outer, ?_, ?_⟩
    · rintro name rfl hclause
      refine ⟨_, source_run_subquery houter hstated hclause, ?_⟩
      rw [FromClause.text, hsnapshot (by simp [Role.clause])]
      rfl
    · rintro name rfl
      refine ⟨_, commonTable_run future houter hstated, ?_⟩
      simp only [CommonTable.text, hsnapshot (by simp [Role.clause])]
      rfl

/-- Three queries: the third has been combined into the second, which selects from a table. -/
def operandBelow : List (Action String) :=
  [.create none, .create none, .create none, .state 1 (.table "events"),
    .attach 1 (.operand .union) 2]

/-- The first query uses the second one; then both change, and the first one even selects from a
snapshot of itself. -/
theorem snapshots_freeze_operandBelow :
    let session := ({} : Session).run operandBelow
    let future : List (Action String) :=
      [.state 1 (.limit 1), .attach 0 (.commonTable "self") 0, .state 1 (.raw "SELECT 1")]
    let after (role : Role String) := session.step (.attach 0 role 1)
    let final (role : Role String) := ((after role).run future).store
    (session.store.text ⟨1⟩ = .ok "SELECT *\nFROM events\nUNION\nSELECT *" ∧
      ∀ role ∈ [Role.subquery "e", .commonTable "e"],
        session.stated? (.attach 0 role 1) = some (⟨0⟩, .attachment role ⟨1⟩) ∧
        (after role).store.Acyclic ∧
        (∀ changed ∈ (after role).mutated future, ¬ session.store.Combines ⟨1⟩ changed) ∧
        ∀ entry ∈ log ⟨0⟩ (after role) future, entry.clause ≠ .source) ∧
    (∃ source, ((final (.subquery "e")).state ⟨0⟩).source = some source ∧
      source.text (final (.subquery "e")).text =
        .ok "(SELECT *\nFROM events\nUNION\nSELECT *) AS e") ∧
    (∃ table, ((final (.commonTable "e")).state ⟨0⟩).commonTables[0]? = some table ∧
      table.text (final (.commonTable "e")).text =
        .ok "e AS (SELECT *\nFROM events\nUNION\nSELECT *)") := by
  intro session future after final
  have hrank : ∀ role ∈ [Role.subquery "e", .commonTable "e"], ∀ index < 4,
      ∀ other ∈ ((after role).store.state ⟨index⟩).references,
        [2, 1, 0, 1].getD other.index 0 < [2, 1, 0, 1].getD index 0 := by decide
  have hsize : ∀ role ∈ [Role.subquery "e", .commonTable "e"], (after role).store.size = 4 := by
    decide
  have hmutated : ∀ role ∈ [Role.subquery "e", .commonTable "e"],
      ∀ changed ∈ (after role).mutated future, changed.index ∈ [0, 1] := by decide
  have hbelow : ∀ index ∈ [1, 2], ∀ other ∈ (session.store.state ⟨index⟩).references,
      other.index ∈ [1, 2] := by decide
  have hoperands : ∀ index ∈ [1, 2], ∀ other ∈ (session.store.state ⟨index⟩).operands,
      other.index ∉ [0, 1] := by decide
  have hcalm : ∀ role ∈ [Role.subquery "e", .commonTable "e"],
      session.stated? (.attach 0 role 1) = some (⟨0⟩, .attachment role ⟨1⟩) ∧
      (after role).store.Acyclic ∧
      (∀ changed ∈ (after role).mutated future, ¬ session.store.Combines ⟨1⟩ changed) ∧
      ∀ entry ∈ log ⟨0⟩ (after role) future, entry.clause ≠ .source := by
    intro role hrole
    refine ⟨rfl, Store.acyclic_of_rank (fun query => [2, 1, 0, 1].getD query.index 0) ?_, ?_, ?_⟩
    · intro query other hother
      have hheld : query.index < (after role).store.size := Store.holds_of_reference hother
      rw [hsize role hrole] at hheld
      exact hrank role hrole query.index hheld other hother
    · rintro changed hchanged ⟨owner, hpath, hoperand⟩
      have howner : owner.index ∈ [1, 2] :=
        hpath.mem (fun query hquery => hbelow query.index hquery) (by decide)
      exact hoperands owner.index howner changed hoperand (hmutated role hrole changed hchanged)
    · revert role
      decide
  have htext : session.store.text ⟨1⟩ = .ok "SELECT *\nFROM events\nUNION\nSELECT *" := by rfl
  refine ⟨⟨htext, hcalm⟩, ?_, ?_⟩
  · obtain ⟨hstated, hacyclic, hfuture, hclause⟩ := hcalm (.subquery "e") (by simp)
    exact ((snapshots_freeze operandBelow).2 _ _ _ _ _ future hstated htext hacyclic hfuture).2.1
      "e" rfl hclause
  · obtain ⟨hstated, hacyclic, hfuture, -⟩ := hcalm (.commonTable "e") (by simp)
    exact ((snapshots_freeze operandBelow).2 _ _ _ _ _ future hstated htext hacyclic hfuture).2.2
      "e" rfl

end Session
end QueryArtifacts
