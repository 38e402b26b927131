import QueryArtifacts.Proofs.Query.Rendering

/-!
# Rendering ends on acyclic stores

`Store.text` bounds the depth of its recursion and answers `circular` when the bound is used up.  On
an acyclic store the bound is never met, and the recursion ends by itself: every reference leads to
a query that reaches fewer queries.

* `FailsWith` — what can be said of every error of an answer; `QueryState.text_failsWith` — the
  errors of a text are those of its conditions and of its references.
* `Store.rank` — the number of queries that a query reaches.
* `Store.Acyclic.induction`, `Store.Acyclic.fold` — induction and recursion along the references of
  an acyclic store.
* `Store.Renders` — rendering without a bound, as a finite tree of calls.
* `Store.Acyclic.ends` — rendering ends for every query of an acyclic store.
-/

namespace QueryArtifacts

/-! ## Errors of an answer -/

/-- Every error of an answer satisfies `P`. -/
def FailsWith {α : Type} (P : QueryError → Prop) (a : Except QueryError α) : Prop :=
  ∀ error, a = .error error → P error

namespace FailsWith

variable {α β : Type} {P : QueryError → Prop}

theorem ok (x : α) : FailsWith P (.ok x) := by
  intro error herror
  cases herror

theorem bind {a : Except QueryError α} {f : α → Except QueryError β} (ha : FailsWith P a)
    (hf : ∀ x, FailsWith P (f x)) : FailsWith P (a >>= f) := by
  cases a with
  | ok x => exact hf x
  | error failure =>
      intro error herror
      cases herror
      exact ha failure rfl

theorem mapM {f : α → Except QueryError β} {items : List α}
    (hf : ∀ x ∈ items, FailsWith P (f x)) : FailsWith P (items.mapM f) := by
  induction items with
  | nil => exact ok []
  | cons x rest ih =>
      rw [List.mapM_cons]
      rw [List.forall_mem_cons] at hf
      exact hf.1.bind fun _ => (ih hf.2).bind fun _ => ok _

end FailsWith

section Text

variable {P : QueryError → Prop}

theorem Condition.sql_failsWith (hvalue : ∀ column failure, P (.value column failure))
    (condition : Condition) : FailsWith P condition.sql := by
  cases condition with
  | raw sql => exact .ok sql
  | compare column operator value =>
      simp only [Condition.sql]
      cases value.sql with
      | ok text => exact .ok _
      | error failure =>
          intro error herror
          cases herror
          exact hvalue column failure

theorem Fragment.sql_failsWith (hvalue : ∀ column failure, P (.value column failure))
    (fragment : Fragment) : FailsWith P fragment.sql := by
  have hcondition := fragment.condition.sql_failsWith hvalue
  unfold Fragment.sql
  cases hsql : fragment.condition.sql with
  | ok sql => exact .ok _
  | error failure =>
      intro error herror
      cases herror
      exact hcondition failure hsql

/-- The errors of a text are those of its conditions and those of the texts that it refers to. -/
theorem QueryState.text_failsWith {state : QueryState} {textOf : TextOf}
    (hvalue : ∀ column failure, P (.value column failure))
    (hbelow : ∀ query ∈ state.references, FailsWith P (textOf query)) :
    FailsWith P (state.text textOf) := by
  have hopening : FailsWith P (state.withClause textOf) := by
    refine FailsWith.bind (.mapM fun table htable => ?_) fun _ => .ok _
    obtain ⟨name, body⟩ := table
    cases body with
    | sql text => exact .ok _
    | query other => exact (hbelow other (mem_references_of_commonTable htable)).bind fun _ => .ok _
  have hsource : FailsWith P (state.source.toList.mapM (FromClause.text textOf)) := by
    refine .mapM fun source hsource => ?_
    cases source with
    | table name => exact .ok name
    | subquery other name =>
        have hother := mem_references_of_source (Option.mem_toList.mp hsource)
        exact (hbelow other hother).bind fun _ => .ok _
  have hlines : FailsWith P (state.lines textOf) :=
    hsource.bind fun _ =>
      (FailsWith.mapM fun fragment _ => fragment.sql_failsWith hvalue).bind fun _ =>
        (FailsWith.mapM fun condition _ => condition.sql_failsWith hvalue).bind fun _ => .ok _
  have hhead : FailsWith P (state.headText textOf) := by
    unfold headText
    cases state.raw with
    | some sql => exact .ok sql
    | none => exact hopening.bind fun _ => hlines.bind fun _ => .ok _
  refine hhead.bind fun head => ?_
  by_cases hraw : state.raw.isSome = true
  · rw [if_pos hraw]
    exact .ok head
  · rw [if_neg hraw]
    refine FailsWith.bind (.mapM fun branch hbranch => ?_) fun _ => .ok _
    exact (hbelow branch.2 (mem_references_of_branch hbranch)).bind fun _ => .ok _

end Text

namespace Store

/-! ## Going down along references -/

open Classical in
/-- The queries of the store that a query reaches. -/
noncomputable def reached (store : Store) (query : QueryId) : Finset Nat :=
  (Finset.range store.size).filter fun index => store.Reaches query ⟨index⟩

theorem mem_reached_iff {store : Store} {query : QueryId} {index : Nat} :
    index ∈ store.reached query ↔ store.Holds ⟨index⟩ ∧ store.Reaches query ⟨index⟩ := by
  simp [reached, Holds]

/-- The number of queries that a query reaches. -/
noncomputable def rank (store : Store) (query : QueryId) : Nat :=
  (store.reached query).card

/-- A reference of an acyclic store leads to a query that reaches fewer queries. -/
theorem Acyclic.rank_lt {store : Store} (hacyclic : store.Acyclic) {query other : QueryId}
    (hother : other ∈ (store.state query).references) : store.rank other < store.rank query := by
  have hsubset : store.reached other ⊆ store.reached query := by
    intro index hindex
    rw [mem_reached_iff] at hindex ⊢
    exact ⟨hindex.1, .step hother hindex.2⟩
  -- The query reaches itself, and is not reached from below.
  refine Finset.card_lt_card
    ((Finset.ssubset_iff_of_subset hsubset).mpr ⟨query.index, ?_, fun hmem => ?_⟩)
  · exact mem_reached_iff.mpr ⟨holds_of_reference hother, .refl query⟩
  · exact hacyclic query other hother (mem_reached_iff.mp hmem).2

/-- What a query of an acyclic store takes over from its references holds of every query. -/
theorem Acyclic.induction {store : Store} (hacyclic : store.Acyclic) {P : QueryId → Prop}
    (hstep : ∀ query, (∀ other ∈ (store.state query).references, P other) → P query)
    (query : QueryId) : P query := by
  induction hrank : store.rank query using Nat.strong_induction_on generalizing query with
  | _ rank ih =>
      refine hstep query fun other hother => ih (store.rank other) ?_ other rfl
      rw [← hrank]
      exact hacyclic.rank_lt hother

/-- What `part` makes of the state of a query, given what it makes of the queries that the state
refers to. -/
def Acyclic.fold {store : Store} {α : Type} [Inhabited α]
    (part : QueryState → (QueryId → α) → α) (hacyclic : store.Acyclic) (query : QueryId) : α :=
  part (store.state query) fun other =>
    if other ∈ (store.state query).references then fold part hacyclic other else default
termination_by store.rank query
decreasing_by exact hacyclic.rank_lt ‹_›

/-- A `part` that looks at references only is carried through the whole store. -/
theorem Acyclic.fold_eq {store : Store} {α : Type} [Inhabited α]
    {part : QueryState → (QueryId → α) → α} (hacyclic : store.Acyclic)
    (hpart : ∀ (state : QueryState) (f g : QueryId → α),
      (∀ other ∈ state.references, f other = g other) → part state f = part state g)
    (query : QueryId) :
    hacyclic.fold part query = part (store.state query) (hacyclic.fold part) := by
  rw [fold]
  exact hpart _ _ _ fun other hother => if_pos hother

/-- No query of an acyclic store stands below itself. -/
theorem Acyclic.not_below_self {store : Store} (hacyclic : store.Acyclic) (query : QueryId) :
    ¬ store.Below query query := by
  rintro ⟨first, hfirst, hpath⟩
  exact hacyclic query first hfirst hpath

/-! ## Rendering without a bound -/

/-- Rendering a query ends with an answer: the text of its state over answers with which rendering
its references ends.  Nothing bounds the depth, so that a query which contains itself has no
answer. -/
inductive Renders (store : Store) : QueryId → Except QueryError String → Prop where
  | state {query : QueryId} {textOf : TextOf}
      (hbelow : ∀ other ∈ (store.state query).references, Renders store other (textOf other)) :
      Renders store query ((store.state query).text textOf)

/-- Rendering without a bound gives no other answer than the text. -/
theorem Renders.eq_text {store : Store} {query : QueryId} {answer : Except QueryError String}
    (hrenders : store.Renders query answer) : answer = store.text query := by
  induction hrenders with
  | state _ ih =>
      rw [text_eq]
      exact QueryState.text_congr ih

/-- Rendering a query ends: without a bound on the depth its only answer is the text, and the bound
that `text` puts on the depth is not met. -/
structure Ends (store : Store) (query : QueryId) : Prop where
  renders : ∀ answer, store.Renders query answer ↔ answer = store.text query
  unbounded : store.text query ≠ .error .circular

theorem Acyclic.renders {store : Store} (hacyclic : store.Acyclic) (query : QueryId) :
    store.Renders query (store.text query) := by
  induction query using hacyclic.induction with
  | hstep query hbelow =>
      rw [text_eq]
      exact .state hbelow

theorem Acyclic.text_ne_circular {store : Store} (hacyclic : store.Acyclic) (query : QueryId) :
    store.text query ≠ .error .circular := by
  have hfails : FailsWith (· ≠ .circular) (store.text query) := by
    induction query using hacyclic.induction with
    | hstep query hbelow =>
        rw [text_eq]
        exact QueryState.text_failsWith (fun _ _ => nofun) hbelow
  exact fun heq => hfails .circular heq rfl

/-- Rendering ends for every query of an acyclic store. -/
theorem Acyclic.ends {store : Store} (hacyclic : store.Acyclic) (query : QueryId) :
    store.Ends query where
  renders := fun _ => ⟨Renders.eq_text, fun heq => heq ▸ hacyclic.renders query⟩
  unbounded := hacyclic.text_ne_circular query

end Store
end QueryArtifacts
