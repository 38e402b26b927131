import QueryArtifacts.Proofs.Query.Isolation
import QueryArtifacts.Proofs.Query.Termination

/-!
# Runs that close no cycle

A step closes a cycle only if it lets a query refer to one that leads back to it.  A new query has
no reference to itself, and a snapshot leads back only if the query that it is taken of has the
changed query strictly below it, so that a query can always take a snapshot of itself.

* `Store.Acyclic.add`, `Store.Acyclic.call` — the two operations that change references.
* `Session.ClosesCycle` — the steps to avoid; `Session.Careful` — the runs that avoid them.
* `Session.acyclic_step`, `Session.acyclic_run` — the invariant.
* `Session.ends_run` — a careful run keeps the store acyclic, and rendering ends.
-/

namespace QueryArtifacts

namespace Store

/-! ## Operations on an acyclic store -/

/-- References never lead out of the store. -/
def Closed (store : Store) : Prop :=
  ∀ query, ∀ other ∈ (store.state query).references, store.Holds other

/-- A path inside a closed set is a path of every store that agrees on the set. -/
theorem Reaches.of_agree {store store' : Store} {Kept : QueryId → Prop}
    (hclosed : ∀ query, Kept query → ∀ other ∈ (store.state query).references, Kept other)
    (hagree : ∀ query, Kept query → store'.state query = store.state query)
    {a c : QueryId} (hreaches : store.Reaches a c) (ha : Kept a) : store'.Reaches a c := by
  induction hreaches with
  | refl query => exact .refl query
  | step hstep _ ih =>
      refine .step ?_ (ih (hclosed _ ha _ hstep))
      rwa [hagree _ ha]

section Add

variable {store : Store} {new : QueryState}

theorem references_add (hclosed : store.Closed) (hnew : ∀ other ∈ new.references, store.Holds other)
    (query : QueryId) :
    ∀ other ∈ ((store.add new).2.state query).references, store.Holds other := by
  rcases store.state_add_cases new query with hstate | hstate
  · rwa [hstate]
  · rw [hstate]
    exact hclosed query

/-- A path that starts in the old store stays there. -/
theorem Reaches.of_add (hclosed : store.Closed) {a c : QueryId}
    (hreaches : (store.add new).2.Reaches a c) (ha : store.Holds a) : store.Reaches a c := by
  have hkept : ∀ query, store.Holds query →
      ∀ other ∈ ((store.add new).2.state query).references, store.Holds other := by
    intro query hquery
    rw [state_add_of_holds hquery]
    exact hclosed query
  exact hreaches.of_agree hkept (fun query hquery => (state_add_of_holds hquery).symm) ha

/-- No reference leads to a new query, so that it closes no cycle. -/
theorem Acyclic.add (hacyclic : store.Acyclic) (hclosed : store.Closed)
    (hnew : ∀ other ∈ new.references, store.Holds other) : (store.add new).2.Acyclic := by
  intro a b hb hreaches
  have hheld := references_add hclosed hnew
  have hold : store.Holds a := hreaches.mem (fun query _ => hheld query) (hheld a b hb)
  rw [state_add_of_holds hold] at hb
  exact hacyclic a b hb (hreaches.of_add hclosed (hclosed a b hb))

end Add

section Call

variable {store : Store} {query : QueryId} {statement : Call}

/-- A path to the changed query is one of before. -/
theorem Reaches.of_call {a : QueryId} (hreaches : (store.call query statement).Reaches a query) :
    store.Reaches a query :=
  hreaches.transfer fun _ _ hne => (state_call_of_ne statement hne).symm

/-- A path is one of before, or it visits the changed query. -/
theorem Reaches.call_cases {a c : QueryId} (hreaches : (store.call query statement).Reaches a c) :
    store.Reaches a c ∨
      (store.call query statement).Reaches a query ∧
        (store.call query statement).Reaches query c := by
  induction hreaches with
  | refl a => exact Or.inl (.refl a)
  | @step a b c hstep hrest ih =>
      by_cases ha : a = query
      · subst ha
        exact Or.inr ⟨.refl a, .step hstep hrest⟩
      · rcases ih with hold | ⟨hvisit, hleave⟩
        · rw [state_call_of_ne statement ha] at hstep
          exact Or.inl (.step hstep hold)
        · exact Or.inr ⟨.step hstep hvisit, hleave⟩

/-- A call closes no cycle if none of the queries that it brings along leads back. -/
theorem Acyclic.call (hacyclic : store.Acyclic) (hquery : store.Holds query)
    (hsnapshots : ∀ other ∈ statement.snapshots, ¬ store.Reaches other query)
    (hoperands : ∀ other ∈ statement.operands, ¬ store.Reaches other query) :
    (store.call query statement).Acyclic := by
  have hself : ¬ (store.call query statement).Below query query := by
    rintro ⟨first, hfirst, hpath⟩
    have hold := hpath.of_call
    rw [state_call_self statement hquery] at hfirst
    rcases QueryState.mem_references_apply hfirst with hmem | hsnapshot | hoperand
    · exact hacyclic query first hmem hold
    · exact hsnapshots first hsnapshot hold
    · exact hoperands first hoperand hold
  intro a b hb hreaches
  -- A cycle that visits the changed query can be read from there.
  have hturn : (store.call query statement).Reaches b query →
      ¬ (store.call query statement).Reaches query a := by
    intro hvisit hleave
    cases hleave with
    | refl => exact hself ⟨b, hb, hvisit⟩
    | step hfirst hrest => exact hself ⟨_, hfirst, hrest.trans (.step hb hvisit)⟩
  rcases hreaches.call_cases with hold | ⟨hvisit, hleave⟩
  · have hne : a ≠ query := by
      rintro rfl
      exact hturn hreaches (.refl a)
    rw [state_call_of_ne statement hne] at hb
    exact hacyclic a b hb hold
  · exact hturn hvisit hleave

end Call

/-- A snapshot leads back only if what it was taken of has the query below it. -/
theorem not_reaches_snapshot {store : Store} (hclosed : store.Closed) {query other : QueryId}
    (hquery : store.Holds query) (hbelow : ¬ store.Below other query) :
    ¬ (store.copy other).2.Reaches ⟨store.size⟩ query := by
  intro hreaches
  cases hreaches with
  | refl => exact store.not_holds_next hquery
  | @step _ first _ hfirst hrest =>
      have hstate : (store.copy other).2.state ⟨store.size⟩ = store.state other :=
        store.state_add_next _
      rw [hstate] at hfirst
      exact hbelow ⟨first, hfirst, hrest.of_add hclosed (hclosed other first hfirst)⟩

end Store

namespace Session

/-! ## Steps and runs -/

/-- A step closes a cycle: it combines a query with one that reaches it, or gives it a snapshot of
one that has it below. -/
def ClosesCycle (session : Session) (action : Action String) : Prop :=
  ∃ query role other, session.stated? action = some (query, .attachment role other) ∧
    match role with
    | .operand _ => session.store.Reaches other query
    | .subquery _ | .commonTable _ => session.store.Below other query

/-- No step of a run closes a cycle. -/
def Careful (session : Session) : List (Action String) → Prop
  | [] => True
  | action :: rest => ¬ session.ClosesCycle action ∧ Careful (session.step action) rest

theorem Separated.closed {session : Session} (hseparated : session.Separated) :
    session.store.Closed :=
  fun query => (hseparated.fits query).closed

/-- An entry keeps the store acyclic if its step closes no cycle. -/
theorem acyclic_record {session : Session} (hseparated : session.Separated)
    (hacyclic : session.store.Acyclic) {action : Action String} {query : QueryId}
    {entry : Entry QueryId} (hstated : session.stated? action = some (query, entry))
    (hcareful : ¬ session.ClosesCycle action) :
    (record session.store query entry).Acyclic := by
  have hclosed := hseparated.closed
  have hquery := hseparated.held query (mem_handles_of_stated? hstated)
  have hprepared := hquery.mono (entry.size_le_prepared session.store)
  rw [record_eq]
  cases entry with
  | statement said =>
      refine hacyclic.call hquery (fun other hother => ?_) fun other hother => ?_
      · cases said <;> cases hother
      · cases said <;> cases hother
  | attachment role other =>
      cases role with
      | operand operator =>
          refine hacyclic.call hquery (fun _ hmem => absurd hmem List.not_mem_nil) ?_
          intro operand hoperand hreaches
          rw [List.mem_singleton.mp hoperand] at hreaches
          exact hcareful ⟨query, .operand operator, other, hstated, hreaches⟩
      | subquery name | commonTable name =>
          have hbelow : ¬ session.store.Below other query :=
            fun hbelow => hcareful ⟨query, _, other, hstated, hbelow⟩
          refine Store.Acyclic.call (hacyclic.add hclosed (hclosed other)) hprepared ?_
            fun _ hmem => absurd hmem List.not_mem_nil
          intro snapshot hsnapshot
          rw [List.mem_singleton.mp hsnapshot]
          exact Store.not_reaches_snapshot hclosed hquery hbelow

theorem acyclic_step {session : Session} (hseparated : session.Separated)
    (hacyclic : session.store.Acyclic) {action : Action String}
    (hcareful : ¬ session.ClosesCycle action) : (session.step action).store.Acyclic := by
  cases session.step_effect action with
  | made new hnew _ hstep =>
      rw [hstep]
      refine hacyclic.add hseparated.closed ?_
      rcases hnew with ⟨schema, rfl⟩ | ⟨query, rfl⟩
      · exact (session.fits_schema schema).closed
      · exact hseparated.closed query
  | named handles _ _ hstep =>
      rw [hstep]
      exact hacyclic
  | said query entry hstated hstep =>
      rw [hstep]
      exact acyclic_record hseparated hacyclic hstated hcareful

theorem acyclic_run {session : Session} {actions : List (Action String)}
    (hseparated : session.Separated) (hacyclic : session.store.Acyclic)
    (hcareful : session.Careful actions) : (session.run actions).store.Acyclic := by
  induction actions generalizing session with
  | nil => exact hacyclic
  | cons action rest ih =>
      exact ih (separated_step hseparated action) (acyclic_step hseparated hacyclic hcareful.1)
        hcareful.2

/-! ## Snapshots of the query itself -/

/-- A query is given a snapshot of itself, through one handle or through two. -/
def SnapshotsItself (session : Session) (action : Action String) : Prop :=
  ∃ target role other, action = .attach target role other ∧ role.clause ≠ .branches ∧
    session.query? target = session.query? other

theorem handles_step_attach (session : Session) (target other : Handle) (role : Role String) :
    (session.step (.attach target role other)).handles = session.handles := by
  simp only [step]
  split <;> rfl

theorem not_closesCycle_of_snapshotsItself {session : Session} (hacyclic : session.store.Acyclic)
    {action : Action String} (hitself : session.SnapshotsItself action) :
    ¬ session.ClosesCycle action := by
  obtain ⟨target, role, other, rfl, hrole, hsame⟩ := hitself
  rintro ⟨query, said, used, hstated, hcycle⟩
  have hquery : query = used ∧ role = said := by
    simp only [stated?, hsame] at hstated
    split at hstated
    · rename_i _ _ hfound hfound'
      cases hstated
      exact ⟨Option.some.inj (hfound.symm.trans hfound'), rfl⟩
    · cases hstated
  obtain ⟨rfl, rfl⟩ := hquery
  cases role with
  | operand operator => exact hrole rfl
  | subquery name | commonTable name => exact hacyclic.not_below_self query hcycle

theorem careful_of_snapshotsItself {session : Session} {actions : List (Action String)}
    (hseparated : session.Separated) (hacyclic : session.store.Acyclic)
    (hitself : ∀ action ∈ actions, session.SnapshotsItself action) : session.Careful actions := by
  induction actions generalizing session with
  | nil => trivial
  | cons action rest ih =>
      rw [List.forall_mem_cons] at hitself
      have hcareful := not_closesCycle_of_snapshotsItself hacyclic hitself.1
      refine ⟨hcareful, ih (separated_step hseparated action)
        (acyclic_step hseparated hacyclic hcareful) fun later hlater => ?_⟩
      -- Giving snapshots leaves the handles alone, so that they lead to the same queries later.
      obtain ⟨target, role, other, rfl, -⟩ := hitself.1
      obtain ⟨target', role', other', heq, hrole, hsame⟩ := hitself.2 later hlater
      refine ⟨target', role', other', heq, hrole, ?_⟩
      unfold query? at hsame ⊢
      rwa [handles_step_attach]

/-- **Rendering ends on runs that close no cycle.**  From every session whose store is acyclic, a
run in which no query is combined with one that reaches it, or given a snapshot of one that has it
below, leads to an acyclic store, and there rendering ends for every query.  Snapshots that queries
are given of themselves, as many as one likes, make such a run. -/
theorem ends_run (past : List (Action String)) :
    let session := ({} : Session).run past
    session.store.Acyclic →
    (∀ future, session.Careful future →
      (session.run future).store.Acyclic ∧ ∀ query, (session.run future).store.Ends query) ∧
    (∀ future, (∀ action ∈ future, session.SnapshotsItself action) →
      (session.run future).store.Acyclic ∧ ∀ query, (session.run future).store.Ends query) := by
  intro session hacyclic
  have hseparated : session.Separated := separated_run past separated_empty
  have hends : ∀ future, session.Careful future →
      (session.run future).store.Acyclic ∧ ∀ query, (session.run future).store.Ends query := by
    intro future hcareful
    have hfinal := acyclic_run hseparated hacyclic hcareful
    exact ⟨hfinal, hfinal.ends⟩
  exact ⟨hends, fun future hitself =>
    hends future (careful_of_snapshotsItself hseparated hacyclic hitself)⟩

/-- Three queries, the first combined with the second. -/
def unionBelow : List (Action String) :=
  [.create none, .create none, .create none, .attach 0 (.operand .union) 1]

/-- The first query gets two snapshots of itself. -/
def nestedSelves : List (Action String) :=
  [.attach 0 (.subquery "self") 0, .attach 0 (.commonTable "again") 0]

/-- After the two snapshots the first query is combined into the third, and rendering all of them
ends. -/
theorem ends_run_unionBelow :
    let session := ({} : Session).run unionBelow
    let future := nestedSelves ++ [.attach 2 (.operand .except) 0]
    (session.store.Acyclic ∧ session.Careful future ∧
      ∀ action ∈ nestedSelves, session.SnapshotsItself action) ∧
    ((session.run future).store.Acyclic ∧ ∀ query, (session.run future).store.Ends query) ∧
    ((session.run nestedSelves).store.Acyclic ∧
      ∀ query, (session.run nestedSelves).store.Ends query) := by
  intro session future
  have hacyclic : session.store.Acyclic := by
    have hrank : ∀ index < 3, ∀ other ∈ (session.store.state ⟨index⟩).references,
        [1, 0, 0].getD other.index 0 < [1, 0, 0].getD index 0 := by decide
    refine Store.acyclic_of_rank (fun query => [1, 0, 0].getD query.index 0) ?_
    intro query other hother
    exact hrank query.index (Store.holds_of_reference hother) other hother
  have hitself : ∀ action ∈ nestedSelves, session.SnapshotsItself action := by
    intro action haction
    rcases List.mem_pair.mp haction with rfl | rfl
    · exact ⟨0, .subquery "self", 0, rfl, by decide, rfl⟩
    · exact ⟨0, .commonTable "again", 0, rfl, by decide, rfl⟩
  -- The first query reaches the second one and its snapshots, but not the third.
  have hlast : ¬ (session.run nestedSelves).ClosesCycle (.attach 2 (.operand .except) 0) := by
    rintro ⟨query, role, other, hstated, hcycle⟩
    have hclosed : ∀ index ∈ [0, 1, 3, 4],
        ∀ other ∈ ((session.run nestedSelves).store.state ⟨index⟩).references,
          other.index ∈ [0, 1, 3, 4] := by decide
    cases hstated
    have hkept : ∀ query : QueryId, query.index ∈ [0, 1, 3, 4] →
        ∀ other ∈ ((session.run nestedSelves).store.state query).references,
          other.index ∈ [0, 1, 3, 4] :=
      fun query => hclosed query.index
    exact absurd (hcycle.mem hkept (by decide)) (by decide)
  obtain ⟨hfirst, hsecond, -⟩ :=
    careful_of_snapshotsItself (separated_run unionBelow separated_empty) hacyclic hitself
  have hcareful : session.Careful future := ⟨hfirst, hsecond, hlast, trivial⟩
  obtain ⟨hends, hselves⟩ := ends_run unionBelow hacyclic
  exact ⟨⟨hacyclic, hcareful, hitself⟩, hends future hcareful, hselves nestedSelves hitself⟩

end Session
end QueryArtifacts
