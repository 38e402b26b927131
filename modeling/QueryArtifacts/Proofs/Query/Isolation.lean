import QueryArtifacts.Proofs.Query.Frame
import QueryArtifacts.Proofs.Query.Rendering

/-!
# Who can change the text of a query

A statement about a query changes the text of that query and of those that reach it.  The frame of
a step says which state changes; what is missing is that references never lead out of the store and
that the snapshots which states own are out of the caller's hands.

* `Session.Separated` — that invariant.  A copy shares its snapshots with the original, so that one
  snapshot may belong to several states; it has no handle nevertheless.
* `Session.separated_run` — every session has it.
* `Session.text_step_of_not_reaches` — the isolation of queries, and the fate of snapshots.
-/

namespace QueryArtifacts

namespace Session

/-- A state that belongs into a session: it refers to queries of the store, and no handle leads to
the snapshots that it owns. -/
structure Fits (session : Session) (state : QueryState) : Prop where
  closed : ∀ other ∈ state.references, session.store.Holds other
  hidden : ∀ snapshot ∈ state.snapshots, snapshot ∉ session.handles

/-- Handles lead to queries of the store, and all states fit. -/
structure Separated (session : Session) : Prop where
  held : ∀ query ∈ session.handles, session.store.Holds query
  fits : ∀ query, session.Fits (session.store.state query)

/-- A state that names no query fits. -/
theorem fits_schema (session : Session) (schema : Option Schema) :
    session.Fits { schema } where
  closed := fun _ hother => absurd hother List.not_mem_nil
  hidden := fun _ hsnapshot => absurd hsnapshot List.not_mem_nil

/-- A state still fits when the store has grown and old queries got no handle but through a handle
that they had. -/
theorem Fits.mono {session session' : Session} {state : QueryState} (hfits : session.Fits state)
    (hsize : session.store.size ≤ session'.store.size)
    (hhandles : ∀ query, session.store.Holds query → query ∈ session'.handles →
      query ∈ session.handles) : session'.Fits state where
  closed := fun other hother => (hfits.closed other hother).mono hsize
  hidden := fun snapshot hsnapshot hmem =>
    have hheld := hfits.closed snapshot (state.snapshots_subset_references hsnapshot)
    hfits.hidden snapshot hsnapshot (hhandles snapshot hheld hmem)

/-- An entry adds a snapshot that is new, or an operand that has a handle. -/
theorem Fits.apply {session : Session} {action : Action String} {query : QueryId}
    {entry : Entry QueryId} {state : QueryState} (hseparated : session.Separated)
    (hstated : session.stated? action = some (query, entry)) (hfits : session.Fits state) :
    ({ session with store := record session.store query entry } : Session).Fits
      (state.apply (entry.call session.store)) where
  closed := by
    intro other hother
    rcases QueryState.mem_references_apply hother with hold | hsnapshot | hoperand
    · exact (hfits.closed other hold).mono (size_le_record ..)
    · obtain ⟨rfl, hsize⟩ := Entry.snapshots_call hsnapshot
      change session.store.size < (record session.store query entry).size
      rw [record_eq, Store.size_call, hsize]
      exact Nat.lt_succ_self _
    · obtain ⟨role, rfl⟩ := Entry.operands_call hoperand
      exact (hseparated.held other (mem_handles_of_attachment hstated)).mono (size_le_record ..)
  hidden := by
    intro snapshot hsnapshot hmem
    rcases QueryState.mem_snapshots_apply hsnapshot with hold | hnew
    · exact hfits.hidden snapshot hold hmem
    · obtain ⟨rfl, -⟩ := Entry.snapshots_call hnew
      exact session.store.not_holds_next (hseparated.held _ hmem)

theorem separated_empty : ({} : Session).Separated where
  held := fun _ hquery => absurd hquery List.not_mem_nil
  fits := fun _ => fits_schema _ none

theorem separated_step {session : Session} (hseparated : session.Separated)
    (action : Action String) : (session.step action).Separated := by
  cases session.step_effect action with
  | made new hnew _ hstep =>
      rw [hstep]
      have hsize : session.store.size ≤ (session.grant (session.store.add new)).store.size := by
        rw [grant, Store.size_add]
        exact Nat.le_succ _
      -- The new handle leads to the next query, so that no snapshot gets one.
      have hhandles : ∀ query, session.store.Holds query →
          query ∈ (session.grant (session.store.add new)).handles → query ∈ session.handles := by
        intro query hquery hmem
        rcases List.mem_append.mp hmem with hold | hlast
        · exact hold
        · rw [List.mem_singleton.mp hlast] at hquery
          exact absurd hquery session.store.not_holds_next
      have hfits : session.Fits new := by
        rcases hnew with ⟨schema, rfl⟩ | ⟨query, rfl⟩
        · exact fits_schema session schema
        · exact hseparated.fits query
      constructor
      · intro query hquery
        rcases List.mem_append.mp hquery with hold | hlast
        · exact (hseparated.held query hold).mono hsize
        · rw [List.mem_singleton.mp hlast]
          exact session.store.holds_next_add new
      · intro query
        rcases session.store.state_add_cases new query with hstate | hstate
        · change Fits _ ((session.store.add new).2.state query)
          rw [hstate]
          exact hfits.mono hsize hhandles
        · change Fits _ ((session.store.add new).2.state query)
          rw [hstate]
          exact (hseparated.fits query).mono hsize hhandles
  | named handles hsubset _ hstep =>
      rw [hstep]
      constructor
      · exact fun query hquery => hseparated.held query (hsubset hquery)
      · exact fun query => (hseparated.fits query).mono (Nat.le_refl _) fun _ _ hmem => hsubset hmem
  | said query entry hstated hstep =>
      rw [hstep]
      have hquery := hseparated.held query (mem_handles_of_stated? hstated)
      constructor
      · exact fun other hother => (hseparated.held other hother).mono (size_le_record ..)
      · intro other
        by_cases hother : other = query
        · subst hother
          have hself := state_record_self entry hquery
          change Fits _ ((record session.store other entry).state other)
          rw [hself]
          exact Fits.apply hseparated hstated (hseparated.fits other)
        -- Elsewhere the states are those of before, or the copy of one of them.
        · obtain ⟨origin, horigin⟩ := entry.state_prepared_cases session.store other
          have hstate : (record session.store query entry).state other =
              session.store.state origin := by
            rw [record_eq, Store.state_call_of_ne _ hother, horigin]
          change Fits _ ((record session.store query entry).state other)
          rw [hstate]
          exact (hseparated.fits origin).mono (size_le_record ..) fun _ _ hmem => hmem

/-- Every session is separated. -/
theorem separated_run (actions : List (Action String)) {session : Session}
    (hseparated : session.Separated) : (session.run actions).Separated := by
  induction actions generalizing session with
  | nil => exact hseparated
  | cons action rest ih => exact ih (separated_step hseparated action)

/-- A snapshot stays without a handle and keeps its state, whatever the caller does. -/
theorem Separated.snapshot_run {session : Session} (hseparated : session.Separated)
    {owner snapshot : QueryId} (hsnapshot : snapshot ∈ (session.store.state owner).snapshots)
    (future : List (Action String)) :
    snapshot ∉ (session.run future).handles ∧
      (session.run future).store.state snapshot = session.store.state snapshot := by
  have hheld := (hseparated.fits owner).closed snapshot
    (QueryState.snapshots_subset_references _ hsnapshot)
  obtain ⟨hmutated, hhandle⟩ := not_mem_mutated_of_not_mem_handles future hheld
    ((hseparated.fits owner).hidden snapshot hsnapshot)
  exact ⟨hhandle, state_run_of_not_mem_mutated hheld hmutated⟩

/-- What a query of the store reaches belongs to the store. -/
theorem Separated.holds_of_reaches {session : Session} (hseparated : session.Separated)
    {query other : QueryId} (hquery : session.store.Holds query)
    (hreaches : session.store.Reaches query other) : session.store.Holds other :=
  hreaches.mem (fun owner _ => (hseparated.fits owner).closed) hquery

/-- **Isolation.**  In every session, a statement leaves the text of a query as it is, found or
failed, unless the query reaches the one that the statement is about; and a snapshot that a state
owns never has a handle, so that no run of actions changes it. -/
theorem text_step_of_not_reaches (past : List (Action String)) :
    let session := ({} : Session).run past
    (∀ (action : Action String) (changed query : QueryId) (entry : Entry QueryId),
      session.stated? action = some (changed, entry) → query ∈ session.handles →
      ¬ session.store.Reaches query changed →
      (session.step action).store.text query = session.store.text query) ∧
    (∀ owner, ∀ snapshot ∈ (session.store.state owner).snapshots,
      ∀ future : List (Action String),
        snapshot ∉ (session.run future).handles ∧
          (session.run future).store.state snapshot = session.store.state snapshot) := by
  intro session
  have hseparated : session.Separated := separated_run past separated_empty
  constructor
  · intro action changed query entry hstated hquery hreaches
    refine Store.text_congr (fun _ hkept _ hother => hkept.snoc hother) (fun kept hkept => ?_)
      (Store.Reaches.refl query)
    have hheld := hseparated.holds_of_reaches (hseparated.held query hquery) hkept
    refine state_step_of_ne hheld fun target said hsaid heq => hreaches ?_
    obtain ⟨rfl, -⟩ := Prod.mk.inj (Option.some.inj (hsaid.symm.trans hstated))
    exact heq ▸ hkept
  · intro owner snapshot hsnapshot future
    exact hseparated.snapshot_run hsnapshot future

/-- Three queries: the first is combined with the second and selects from a snapshot of the third,
to which the last two handles lead. -/
def threeQueries : List (Action String) :=
  [.create none, .create none, .create none, .state 1 (.table "b"),
    .attach 0 (.operand .unionAll) 1, .attach 0 (.subquery "s") 2, .clone 2]

/-- A limit on the third query through its second handle does not show in the first query, whose
snapshot of it is safe. -/
theorem text_step_threeQueries :
    let session := ({} : Session).run threeQueries
    (session.stated? (.state 3 (.limit 5)) = some (⟨2⟩, .statement (.limit 5)) ∧
      ¬ session.store.Reaches ⟨0⟩ ⟨2⟩ ∧
      (session.step (.state 3 (.limit 5))).store.text ⟨0⟩ = session.store.text ⟨0⟩) ∧
    (⟨3⟩ ∈ (session.store.state ⟨0⟩).snapshots ∧
      ∀ future : List (Action String), ⟨3⟩ ∉ (session.run future).handles ∧
        (session.run future).store.state ⟨3⟩ = session.store.state ⟨3⟩) := by
  intro session
  have hreaches : ¬ session.store.Reaches ⟨0⟩ ⟨2⟩ := by
    intro hpath
    have hclosed : ∀ query : QueryId, query.index ∈ [0, 1, 3] →
        ∀ other ∈ (session.store.state query).references, other.index ∈ [0, 1, 3] := by
      rintro ⟨index⟩ hindex
      have hlist : ∀ index ∈ [0, 1, 3], ∀ other ∈ (session.store.state ⟨index⟩).references,
          other.index ∈ [0, 1, 3] := by decide
      exact hlist index hindex
    exact absurd (hpath.mem hclosed (by decide)) (by decide)
  obtain ⟨hisolated, hsnapshots⟩ := text_step_of_not_reaches threeQueries
  exact ⟨⟨rfl, hreaches, hisolated _ _ _ _ rfl (by decide) hreaches⟩,
    by decide, hsnapshots ⟨0⟩ ⟨3⟩ (by decide)⟩

end Session
end QueryArtifacts
