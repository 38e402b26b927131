import QueryArtifacts.Query.State

/-!
# Query stores

A store holds the states of all queries made so far.  A `QueryId` is a handle:
whoever holds it sees every later statement about the query.

* `Store.create`, `Store.copy` — a fresh query, and an independent copy of one.
* `Store.call` — a statement about a query.
* `Store.selectFrom`, `Store.withQuery` — use another query as subquery or as
  common table expression; both keep a copy made at that moment.
* `state_add`, `state_update`, `state_call` — what an operation does to the
  state of every query.
* `Store.Reaches` — the queries that the text of a query can depend on.
-/

namespace QueryArtifacts

/-- The states of all queries made so far. -/
structure Store where
  states : List QueryState := []
  deriving Inhabited

namespace Store

/-- The store without queries. -/
def empty : Store := {}

/-- The number of queries. -/
def size (store : Store) : Nat :=
  store.states.length

/-- Whether a handle belongs to a store. -/
def Holds (store : Store) (query : QueryId) : Prop :=
  query.index < store.size

/-- The state of a query; nothing has been said about a query that does not
exist. -/
def state (store : Store) (query : QueryId) : QueryState :=
  store.states[query.index]?.getD {}

/-- Add a query with the given state. -/
def add (store : Store) (state : QueryState) : QueryId × Store :=
  (⟨store.size⟩, ⟨store.states ++ [state]⟩)

/-- A fresh query. -/
def create (store : Store) (schema : Option Schema := none) : QueryId × Store :=
  store.add { schema }

/-- A query of its own with the present state of another one. -/
def copy (store : Store) (query : QueryId) : QueryId × Store :=
  store.add (store.state query)

/-- Replace the state of a query. -/
def update (store : Store) (query : QueryId) (state : QueryState) : Store :=
  ⟨store.states.set query.index state⟩

/-- A statement about a query. -/
def call (store : Store) (query : QueryId) (statement : Call) : Store :=
  store.update query ((store.state query).apply statement)

/-- Select from a copy of `other`. -/
def selectFrom (store : Store) (query : QueryId) (name : String) (other : QueryId) : Store :=
  let (snapshot, store) := store.copy other
  store.call query (.source (.subquery snapshot name))

/-- Add a copy of `other` as a common table expression. -/
def withQuery (store : Store) (query : QueryId) (name : String) (other : QueryId) : Store :=
  let (snapshot, store) := store.copy other
  store.call query (.commonTable ⟨name, .query snapshot⟩)

@[simp] theorem size_add (store : Store) (state : QueryState) :
    (store.add state).2.size = store.size + 1 := by
  simp [add, size]

@[simp] theorem size_update (store : Store) (query : QueryId) (state : QueryState) :
    (store.update query state).size = store.size := by
  simp [update, size]

@[simp] theorem size_call (store : Store) (query : QueryId) (statement : Call) :
    (store.call query statement).size = store.size :=
  size_update ..

/-- The new query has the given state and all others keep theirs. -/
theorem state_add (store : Store) (new : QueryState) {query : QueryId}
    (hquery : query.index ≤ store.size) :
    (store.add new).2.state query =
      if query.index = store.size then new else store.state query := by
  by_cases hlast : query.index = store.size
  · simp [add, state, size, hlast]
  · have hold : query.index < store.states.length := by
      unfold size at hquery hlast
      omega
    simp [add, state, hlast, List.getElem?_append_left hold]

/-- A query made earlier keeps its state. -/
theorem state_add_of_holds {store : Store} {new : QueryState} {query : QueryId}
    (hquery : store.Holds query) : (store.add new).2.state query = store.state query := by
  unfold Holds at hquery
  rw [state_add store new (Nat.le_of_lt hquery), if_neg (Nat.ne_of_lt hquery)]

/-- Only the updated query gets the new state. -/
theorem state_update {store : Store} {query : QueryId} (new : QueryState) (other : QueryId)
    (hquery : store.Holds query) :
    (store.update query new).state other = if other = query then new else store.state other := by
  unfold Holds size at hquery
  obtain ⟨index⟩ := query
  obtain ⟨otherIndex⟩ := other
  by_cases hsame : otherIndex = index
  · subst hsame
    simp [update, state, hquery]
  · simp [update, state, hsame, Ne.symm hsame]

/-- A statement changes its own query and no other. -/
theorem state_call {store : Store} {query : QueryId} (statement : Call) (other : QueryId)
    (hquery : store.Holds query) :
    (store.call query statement).state other =
      if other = query then (store.state query).apply statement else store.state other :=
  state_update _ _ hquery

/-- `store.Reaches a b`: following references from `a` leads to `b`. -/
inductive Reaches (store : Store) : QueryId → QueryId → Prop where
  | refl (query : QueryId) : Reaches store query query
  | step {a b c : QueryId} (hstep : b ∈ (store.state a).references)
      (hrest : Reaches store b c) : Reaches store a c

/-- No query is reached from one of its own references. -/
def Acyclic (store : Store) : Prop :=
  ∀ a b : QueryId, b ∈ (store.state a).references → ¬ store.Reaches b a

end Store
end QueryArtifacts
