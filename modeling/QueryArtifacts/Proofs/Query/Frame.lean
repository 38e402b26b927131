import QueryArtifacts.Proofs.Query.References
import QueryArtifacts.Proofs.Query.Session

/-!
# What an operation leaves alone

Frame lemmas, from single store operations up to whole runs.

* `Entry.snapshots_call`, `Entry.operands_call` — the references that an entry adds to a state.
* `Session.state_step_of_ne` — a step changes the query that it makes a statement about, no other.
* `Session.state_run_of_not_mem_mutated` — the same for runs.
* `Session.not_mem_mutated_of_not_mem_handles` — a query without a handle stays without one, so that
  no run makes a statement about it.
-/

namespace QueryArtifacts

/-! ## The frame of an operation -/

namespace Store

theorem Holds.mono {store store' : Store} {query : QueryId} (hquery : store.Holds query)
    (hsize : store.size ≤ store'.size) : store'.Holds query :=
  Nat.lt_of_lt_of_le hquery hsize

theorem not_holds_next (store : Store) : ¬ store.Holds ⟨store.size⟩ :=
  Nat.lt_irrefl _

theorem holds_next_add (store : Store) (new : QueryState) :
    (store.add new).2.Holds ⟨store.size⟩ := by
  unfold Holds
  rw [size_add]
  exact Nat.lt_succ_self _

theorem state_add_next (store : Store) (new : QueryState) :
    (store.add new).2.state ⟨store.size⟩ = new := by
  have hnext : (⟨store.size⟩ : QueryId).index ≤ store.size := Nat.le_refl _
  rw [state_add store new hnext, if_pos rfl]

theorem state_add_cases (store : Store) (new : QueryState) (query : QueryId) :
    (store.add new).2.state query = new ∨
      (store.add new).2.state query = store.state query := by
  rcases Nat.lt_trichotomy query.index store.size with hlt | heq | hgt
  · exact Or.inr (state_add_of_holds hlt)
  · left
    rw [state_add store new (Nat.le_of_eq heq), if_pos heq]
  · right
    unfold size at hgt
    have hold : store.states.length ≤ query.index := by omega
    have hnew : (store.states ++ [new]).length ≤ query.index := by
      rw [List.length_append, List.length_singleton]
      omega
    simp only [add, state, List.getElem?_eq_none hold, List.getElem?_eq_none hnew]

theorem state_update_of_ne {store : Store} {query other : QueryId} (new : QueryState)
    (hne : other ≠ query) : (store.update query new).state other = store.state other := by
  obtain ⟨index⟩ := query
  obtain ⟨otherIndex⟩ := other
  have hindex : index ≠ otherIndex := fun heq => hne (by rw [heq])
  simp [update, state, List.getElem?_set_ne hindex]

/-- A statement leaves all other queries as they are. -/
theorem state_call_of_ne {store : Store} {query other : QueryId} (statement : Call)
    (hne : other ≠ query) : (store.call query statement).state other = store.state other :=
  state_update_of_ne _ hne

theorem state_call_self {store : Store} {query : QueryId} (statement : Call)
    (hquery : store.Holds query) :
    (store.call query statement).state query = (store.state query).apply statement := by
  rw [state_call statement query hquery, if_pos rfl]

end Store

/-! ## The frame of an entry -/

namespace Entry

theorem size_le_prepared (store : Store) (entry : Entry QueryId) :
    store.size ≤ (entry.prepared store).size := by
  cases entry with
  | statement said => exact Nat.le_refl _
  | attachment role other => cases role <;> simp [prepared, Store.copy]

theorem state_prepared_of_holds {store : Store} (entry : Entry QueryId) {query : QueryId}
    (hquery : store.Holds query) : (entry.prepared store).state query = store.state query := by
  cases entry with
  | statement said => rfl
  | attachment role other =>
      cases role with
      | operand operator => rfl
      | subquery name | commonTable name => exact Store.state_add_of_holds hquery

/-- Preparing an entry brings in no state that the store did not have. -/
theorem state_prepared_cases (store : Store) (entry : Entry QueryId) (query : QueryId) :
    ∃ other, (entry.prepared store).state query = store.state other := by
  cases entry with
  | statement said => exact ⟨query, rfl⟩
  | attachment role other =>
      cases role with
      | operand operator => exact ⟨query, rfl⟩
      | subquery name | commonTable name =>
          rcases store.state_add_cases (store.state other) query with hnew | hold
          · exact ⟨other, hnew⟩
          · exact ⟨query, hold⟩

theorem snapshots_call {store : Store} {entry : Entry QueryId} {snapshot : QueryId}
    (hsnapshot : snapshot ∈ (entry.call store).snapshots) :
    snapshot = ⟨store.size⟩ ∧ (entry.prepared store).size = store.size + 1 := by
  cases entry with
  | statement said => cases said <;> cases hsnapshot
  | attachment role other =>
      cases role with
      | operand operator => cases hsnapshot
      | subquery name | commonTable name =>
          exact ⟨List.mem_singleton.mp hsnapshot, store.size_add _⟩

theorem operands_call {store : Store} {entry : Entry QueryId} {operand : QueryId}
    (hoperand : operand ∈ (entry.call store).operands) :
    ∃ role, entry = .attachment role operand := by
  cases entry with
  | statement said => cases said <;> cases hoperand
  | attachment role other =>
      cases role with
      | operand operator =>
          obtain rfl : operand = other := List.mem_singleton.mp hoperand
          exact ⟨_, rfl⟩
      | subquery name | commonTable name => cases hoperand

end Entry

namespace Session

theorem size_le_record (store : Store) (query : QueryId) (entry : Entry QueryId) :
    store.size ≤ (record store query entry).size := by
  rw [record_eq, Store.size_call]
  exact entry.size_le_prepared store

theorem state_record_of_ne {store : Store} {query other : QueryId} (entry : Entry QueryId)
    (hother : store.Holds other) (hne : other ≠ query) :
    (record store query entry).state other = store.state other := by
  rw [record_eq, Store.state_call_of_ne _ hne, entry.state_prepared_of_holds hother]

theorem state_record_self {store : Store} {query : QueryId} (entry : Entry QueryId)
    (hquery : store.Holds query) :
    (record store query entry).state query = (store.state query).apply (entry.call store) := by
  have hprepared := hquery.mono (entry.size_le_prepared store)
  rw [record_eq, Store.state_call_self _ hprepared, entry.state_prepared_of_holds hquery]

theorem size_le_step (session : Session) (action : Action String) :
    session.store.size ≤ (session.step action).store.size := by
  cases session.step_effect action with
  | made new _ _ hstep =>
      rw [hstep, grant, Store.size_add]
      exact Nat.le_succ _
  | named handles _ _ hstep => exact Nat.le_of_eq (by rw [hstep])
  | said query entry _ hstep =>
      rw [hstep]
      exact size_le_record ..

/-- A step changes the state of the query that it makes a statement about, and no other. -/
theorem state_step_of_ne {session : Session} {action : Action String} {other : QueryId}
    (hother : session.store.Holds other)
    (hne : ∀ query entry, session.stated? action = some (query, entry) → other ≠ query) :
    (session.step action).store.state other = session.store.state other := by
  cases session.step_effect action with
  | made new _ _ hstep =>
      rw [hstep, grant]
      exact Store.state_add_of_holds hother
  | named handles _ _ hstep => rw [hstep]
  | said query entry hstated hstep =>
      rw [hstep]
      exact state_record_of_ne entry hother (hne query entry hstated)

theorem step_of_stated {session : Session} {action : Action String} {query : QueryId}
    {entry : Entry QueryId} (hstated : session.stated? action = some (query, entry)) :
    session.step action = { session with store := record session.store query entry } := by
  cases session.step_effect action with
  | made new _ hnone _ => rw [hnone] at hstated; cases hstated
  | named handles _ hnone _ => rw [hnone] at hstated; cases hstated
  | said target said hsaid hstep =>
      rw [hsaid] at hstated
      cases hstated
      exact hstep

/-- The query that a step makes a statement about changes by one call. -/
theorem state_step_self {session : Session} {action : Action String} {query : QueryId}
    {entry : Entry QueryId} (hstated : session.stated? action = some (query, entry))
    (hquery : session.store.Holds query) :
    (session.step action).store.state query =
      (session.store.state query).apply (entry.call session.store) := by
  rw [step_of_stated hstated]
  exact state_record_self entry hquery

theorem mutated_cons (session : Session) (action : Action String) (rest : List (Action String)) :
    session.mutated (action :: rest) =
      ((session.stated? action).map Prod.fst).toList ++ (session.step action).mutated rest := rfl

/-- A run changes the states of the queries that it makes statements about, and no others. -/
theorem state_run_of_not_mem_mutated {session : Session} {actions : List (Action String)}
    {other : QueryId} (hother : session.store.Holds other)
    (hmutated : other ∉ session.mutated actions) :
    (session.run actions).store.state other = session.store.state other := by
  induction actions generalizing session with
  | nil => rfl
  | cons action rest ih =>
      rw [mutated_cons, List.mem_append, not_or] at hmutated
      have hstep : (session.step action).store.state other = session.store.state other := by
        refine state_step_of_ne hother fun query entry hstated heq => hmutated.1 ?_
        rw [hstated, heq]
        exact List.mem_singleton_self _
      rw [run_cons, ih (hother.mono (session.size_le_step action)) hmutated.2, hstep]

/-- A query without a handle is never the subject of a statement, and never gets a handle. -/
theorem not_mem_mutated_of_not_mem_handles {session : Session}
    (actions : List (Action String)) {other : QueryId} (hother : session.store.Holds other)
    (hhandle : other ∉ session.handles) :
    other ∉ session.mutated actions ∧ other ∉ (session.run actions).handles := by
  induction actions generalizing session with
  | nil => exact ⟨List.not_mem_nil, hhandle⟩
  | cons action rest ih =>
      -- A new handle leads to the next query of the store or to a query that has one already.
      have hstep : other ∉ (session.step action).handles := by
        cases session.step_effect action with
        | made new _ _ hstep =>
            rw [hstep, grant]
            intro hmem
            rcases List.mem_append.mp hmem with hold | hnew
            · exact hhandle hold
            · rw [List.mem_singleton.mp hnew] at hother
              exact session.store.not_holds_next hother
        | named handles hsubset _ hstep =>
            rw [hstep]
            exact fun hmem => hhandle (hsubset hmem)
        | said _ _ _ hstep =>
            rw [hstep]
            exact hhandle
      obtain ⟨hrest, hrun⟩ := ih (hother.mono (session.size_le_step action)) hstep
      refine ⟨fun hmem => ?_, hrun⟩
      rw [mutated_cons, List.mem_append] at hmem
      rcases hmem with hnow | hlater
      · obtain ⟨⟨query, entry⟩, hstated, rfl⟩ :=
          Option.map_eq_some_iff.mp (Option.mem_toList.mp hnow)
        exact hhandle (mem_handles_of_stated? hstated)
      · exact hrest hlater

end Session
end QueryArtifacts
