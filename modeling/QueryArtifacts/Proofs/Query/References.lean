import QueryArtifacts.Query.Store

/-!
# References between queries

What a state refers to, what a call adds to that, and what a query reaches by following references.

* `QueryState.mem_snapshots_iff` — where a snapshot can stand in a state.
* `Call.snapshots`, `Call.operands` — the references that a call brings along.
* `QueryState.mem_references_apply` — a call adds no other references.
* `Store.Reaches.mem` — what a query reaches stays inside every closed set.
-/

namespace QueryArtifacts

/-! ## References of a state -/

namespace QueryState

/-- A snapshot is the body of a common table expression or the subquery behind `FROM`. -/
theorem mem_snapshots_iff {state : QueryState} {query : QueryId} :
    query ∈ state.snapshots ↔
      (∃ name, ⟨name, .query query⟩ ∈ state.commonTables) ∨
        ∃ name, state.source = some (.subquery query name) := by
  unfold snapshots
  rw [List.mem_append, List.mem_filterMap]
  refine or_congr ⟨?_, ?_⟩ ?_
  · rintro ⟨⟨name, body⟩, hmem, hbody⟩
    cases body with
    | sql text => simp at hbody
    | query other =>
        obtain rfl : other = query := by simpa using hbody
        exact ⟨name, hmem⟩
  · rintro ⟨name, hmem⟩
    exact ⟨⟨name, .query query⟩, hmem, rfl⟩
  · rcases hsource : state.source with _ | source
    · simp
    · cases source with
      | table name => simp
      | subquery other name => simp [eq_comm]

theorem mem_references_of_commonTable {state : QueryState} {query : QueryId} {name : String}
    (htable : ⟨name, .query query⟩ ∈ state.commonTables) : query ∈ state.references :=
  List.mem_append_left _ (mem_snapshots_iff.mpr (Or.inl ⟨name, htable⟩))

theorem mem_references_of_source {state : QueryState} {query : QueryId} {name : String}
    (hsource : state.source = some (.subquery query name)) : query ∈ state.references :=
  List.mem_append_left _ (mem_snapshots_iff.mpr (Or.inr ⟨name, hsource⟩))

theorem mem_references_of_branch {state : QueryState} {branch : SetOperator × QueryId}
    (hbranch : branch ∈ state.branches) : branch.2 ∈ state.references :=
  List.mem_append_right _ (List.mem_map_of_mem hbranch)

theorem snapshots_subset_references (state : QueryState) : state.snapshots ⊆ state.references :=
  List.subset_append_left ..

theorem operands_subset_references (state : QueryState) : state.operands ⊆ state.references :=
  List.subset_append_right ..

end QueryState

/-! ## References that a call adds -/

/-- The snapshots that a call brings along. -/
def Call.snapshots : Call → List QueryId
  | .source (.subquery snapshot _) => [snapshot]
  | .commonTable ⟨_, .query snapshot⟩ => [snapshot]
  | _ => []

/-- The queries with which a call combines a query. -/
def Call.operands : Call → List QueryId
  | .combine _ operand => [operand]
  | _ => []

namespace QueryState

theorem mem_snapshots_apply {state : QueryState} {call : Call} {query : QueryId}
    (hquery : query ∈ (state.apply call).snapshots) :
    query ∈ state.snapshots ∨ query ∈ call.snapshots := by
  rw [mem_snapshots_iff] at hquery
  cases call with
  | source source =>
      rcases hquery with htable | ⟨name, hsource⟩
      · exact Or.inl (mem_snapshots_iff.mpr (Or.inl htable))
      · obtain rfl : source = .subquery query name := Option.some.inj hsource
        exact Or.inr (List.mem_singleton_self _)
  | commonTable table =>
      rcases hquery with ⟨name, htable⟩ | hsource
      · rcases List.mem_append.mp htable with hold | hnew
        · exact Or.inl (mem_snapshots_iff.mpr (Or.inl ⟨name, hold⟩))
        · obtain rfl := List.mem_singleton.mp hnew
          exact Or.inr (List.mem_singleton_self _)
      · exact Or.inl (mem_snapshots_iff.mpr (Or.inr hsource))
  | select | filter | join | groupBy | having | orderBy | limit | offset | combine | raw =>
      exact Or.inl (mem_snapshots_iff.mpr hquery)

theorem operands_apply (state : QueryState) (call : Call) :
    (state.apply call).operands = state.operands ++ call.operands := by
  cases call <;> simp [apply, operands, Call.operands]

theorem mem_references_apply {state : QueryState} {call : Call} {query : QueryId}
    (hquery : query ∈ (state.apply call).references) :
    query ∈ state.references ∨ query ∈ call.snapshots ∨ query ∈ call.operands := by
  rcases List.mem_append.mp hquery with hsnapshot | hoperand
  · rcases mem_snapshots_apply hsnapshot with hold | hnew
    · exact Or.inl (state.snapshots_subset_references hold)
    · exact Or.inr (Or.inl hnew)
  · rw [operands_apply] at hoperand
    rcases List.mem_append.mp hoperand with hold | hnew
    · exact Or.inl (state.operands_subset_references hold)
    · exact Or.inr (Or.inr hnew)

end QueryState

/-! ## Following references -/

namespace Store

/-- What a query reaches stays inside every set that contains the references of its members. -/
theorem Reaches.mem {store : Store} {Kept : QueryId → Prop}
    (hclosed : ∀ query, Kept query → ∀ other ∈ (store.state query).references, Kept other)
    {query other : QueryId} (hreaches : store.Reaches query other) (hquery : Kept query) :
    Kept other := by
  induction hreaches with
  | refl => exact hquery
  | step hstep _ ih => exact ih (hclosed _ hquery _ hstep)

theorem Reaches.trans {store : Store} {a b c : QueryId} (hab : store.Reaches a b)
    (hbc : store.Reaches b c) : store.Reaches a c := by
  induction hab with
  | refl => exact hbc
  | step hstep _ ih => exact .step hstep (ih hbc)

/-- One more reference at the end of a path. -/
theorem Reaches.snoc {store : Store} {a b c : QueryId} (hab : store.Reaches a b)
    (hbc : c ∈ (store.state b).references) : store.Reaches a c :=
  hab.trans (.step hbc (.refl c))

theorem state_of_not_holds {store : Store} {query : QueryId} (hquery : ¬ store.Holds query) :
    store.state query = {} := by
  unfold Holds size at hquery
  simp [state, List.getElem?_eq_none (Nat.le_of_not_lt hquery)]

theorem holds_of_reference {store : Store} {query other : QueryId}
    (hother : other ∈ (store.state query).references) : store.Holds query := by
  by_cases hquery : store.Holds query
  · exact hquery
  · rw [state_of_not_holds hquery] at hother
    exact absurd hother List.not_mem_nil

/-- A path survives in every store in which no query on the way to its end has changed. -/
theorem Reaches.transfer {store store' : Store} {a c : QueryId} (hreaches : store.Reaches a c)
    (hagree : ∀ query, store.Holds query → query ≠ c →
      store'.state query = store.state query) : store'.Reaches a c := by
  induction hreaches with
  | refl query => exact .refl query
  | @step a b c hstep _ ih =>
      by_cases hend : a = c
      · rw [hend]
        exact .refl c
      · rw [← hagree a (holds_of_reference hstep) hend] at hstep
        exact .step hstep (ih hagree)

/-- A path is empty or has a last reference. -/
theorem Reaches.eq_or_last {store : Store} {a c : QueryId} (hreaches : store.Reaches a c) :
    a = c ∨ ∃ b, store.Reaches a b ∧ c ∈ (store.state b).references := by
  induction hreaches with
  | refl => exact Or.inl rfl
  | step hstep hrest ih =>
      right
      rcases ih with rfl | ⟨last, hlast, hmem⟩
      · exact ⟨_, .refl _, hstep⟩
      · exact ⟨last, .step hstep hlast, hmem⟩

/-- `store.Below query other`: following at least one reference from `query` leads to `other`. -/
def Below (store : Store) (query other : QueryId) : Prop :=
  ∃ first ∈ (store.state query).references, store.Reaches first other

/-- `store.Combines query operand`: `operand` has been combined into `query`, or into a query that
`query` reaches. -/
def Combines (store : Store) (query operand : QueryId) : Prop :=
  ∃ owner, store.Reaches query owner ∧ operand ∈ (store.state owner).operands

/-- What lies below a query is a snapshot that some state owns, or has been combined into it. -/
theorem Below.snapshot_or_combines {store : Store} {query other : QueryId}
    (hbelow : store.Below query other) :
    (∃ owner, other ∈ (store.state owner).snapshots) ∨ store.Combines query other := by
  obtain ⟨first, hfirst, hreaches⟩ := hbelow
  have hlast : ∃ owner, store.Reaches query owner ∧ other ∈ (store.state owner).references := by
    rcases hreaches.eq_or_last with rfl | ⟨last, hpath, hmem⟩
    · exact ⟨query, .refl query, hfirst⟩
    · exact ⟨last, .step hfirst hpath, hmem⟩
  obtain ⟨owner, hpath, hmem⟩ := hlast
  rcases List.mem_append.mp hmem with hsnapshot | hoperand
  · exact Or.inl ⟨owner, hsnapshot⟩
  · exact Or.inr ⟨owner, hpath, hoperand⟩

/-- References that go down in rank make no cycle. -/
theorem acyclic_of_rank {store : Store} (rank : QueryId → Nat)
    (hrank : ∀ query, ∀ other ∈ (store.state query).references, rank other < rank query) :
    store.Acyclic := by
  intro query other hother hreaches
  have hle : ∀ a b, store.Reaches a b → rank b ≤ rank a := by
    intro a b hab
    induction hab with
    | refl => exact Nat.le_refl _
    | step hstep _ ih => exact Nat.le_trans ih (Nat.le_of_lt (hrank _ _ hstep))
  exact absurd (hrank query other hother) (Nat.not_lt_of_le (hle other query hreaches))

end Store

end QueryArtifacts
