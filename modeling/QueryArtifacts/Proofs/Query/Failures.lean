import QueryArtifacts.Proofs.Query.Session
import QueryArtifacts.Proofs.Query.Termination

/-!
# Why a query has no text

On an acyclic store the only reason is a comparison with a value that has no SQL text.  Rendering
meets the conditions of a query and of the queries below it in a fixed order, and stops at the first
one at fault.  A raw text stands for everything, so that nothing is met in its query or from there.

* `Literal.Refused`, `Condition.AtFault` — the values without SQL text, and comparisons with them.
* `Store.visit` — the conditions that rendering meets, in order.
* `FailsFirst` — an answer that fails over the first of some conditions at fault.
* `Store.Acyclic.text_failsFirst` — the text of a query is such an answer.
* `Store.Exposes` — references that no raw text cuts off; `Store.mem_visit_iff` — rendering meets
  the conditions of the queries at their ends.
-/

namespace QueryArtifacts

/-! ## Conditions at fault -/

/-- A value has no SQL text, for a reason: it is an array, an object, or no finite number. -/
inductive Literal.Refused : Literal → Literal.Failure → Prop where
  | array (items : List Literal) : Refused (.array items) (.unsupported .array)
  | object (members : List (String × Json)) : Refused (.object members) (.unsupported .object)
  | nan : Refused (.float .nan) (.nonFinite .nan)
  | infinite (negative : Bool) :
      Refused (.float (.infinite negative)) (.nonFinite (.infinite negative))

theorem Literal.sql_eq_error_iff {value : Literal} {failure : Literal.Failure} :
    value.sql = .error failure ↔ value.Refused failure := by
  constructor
  · intro hsql
    cases value with
    | null | bool | int | string => cases hsql
    | array items => cases hsql; exact .array items
    | object members => cases hsql; exact .object members
    | float number =>
        cases number with
        | nan => cases hsql; exact .nan
        | infinite negative => cases hsql; exact .infinite negative
        | finite => cases hsql
  · intro hrefused
    cases hrefused <;> rfl

/-- A condition at fault, and the error for it: a comparison with a value that has no SQL text. -/
inductive Condition.AtFault : Condition → QueryError → Prop where
  | compare (column operator : String) {value : Literal} {failure : Literal.Failure}
      (hvalue : value.Refused failure) :
      AtFault (.compare column operator value) (.value column failure)

/-- What is wrong with a condition, if anything. -/
def Condition.failure? (condition : Condition) : Option QueryError :=
  match condition.sql with
  | .ok _ => none
  | .error error => some error

theorem Condition.failure?_eq_some_iff {condition : Condition} {error : QueryError} :
    condition.failure? = some error ↔ condition.AtFault error := by
  cases condition with
  | raw sql =>
      constructor
      · intro heq
        cases heq
      · intro hfault
        cases hfault
  | compare column operator value =>
      simp only [failure?, Condition.sql]
      cases hsql : value.sql with
      | ok text =>
          constructor
          · intro heq
            cases heq
          · intro hfault
            cases hfault with
            | compare _ _ hvalue =>
                rw [Literal.sql_eq_error_iff.mpr hvalue] at hsql
                cases hsql
      | error failure =>
          constructor
          · intro heq
            cases heq
            exact .compare column operator (Literal.sql_eq_error_iff.mp hsql)
          · intro hfault
            cases hfault with
            | compare _ _ hvalue =>
                rw [Literal.sql_eq_error_iff.mpr hvalue] at hsql
                cases hsql
                rfl

/-- An answer fails exactly over the first of the conditions that is at fault. -/
def FailsFirst {α : Type} (a : Except QueryError α) (conditions : List Condition) : Prop :=
  ∀ error, a = .error error ↔ conditions.findSome? Condition.failure? = some error

namespace FailsFirst

variable {α β : Type} {a : Except QueryError α} {first more : List Condition}

theorem ok (x : α) : FailsFirst (.ok x) [] :=
  fun _ => iff_of_false nofun nofun

theorem findSome?_eq_none {x : α} (hok : FailsFirst (.ok x) first) :
    first.findSome? Condition.failure? = none := by
  refine Option.eq_none_iff_forall_ne_some.mpr fun error hfault => ?_
  cases (hok error).mpr hfault

/-- The conditions of the second part count once the first part has succeeded. -/
theorem bind {f : α → Except QueryError β} (ha : FailsFirst a first)
    (hf : ∀ x, FailsFirst (f x) more) : FailsFirst (a >>= f) (first ++ more) := by
  intro error
  rw [List.findSome?_append]
  cases a with
  | ok x =>
      rw [ha.findSome?_eq_none, Option.none_or]
      exact hf x error
  | error failure =>
      rw [(ha failure).mp rfl, Option.some_or]
      constructor
      · rintro ⟨⟩
        rfl
      · rintro ⟨⟩
        rfl

/-- What is done with a result adds no condition. -/
theorem bind_ok (ha : FailsFirst a first) (f : α → β) :
    FailsFirst (a >>= fun x => .ok (f x)) first := by
  have hbind := ha.bind fun x => ok (f x)
  rwa [List.append_nil] at hbind

theorem mapM {ι : Type} {f : ι → Except QueryError β} {met : ι → List Condition} {items : List ι}
    (hf : ∀ x ∈ items, FailsFirst (f x) (met x)) :
    FailsFirst (items.mapM f) (items.flatMap met) := by
  induction items with
  | nil => exact ok []
  | cons x rest ih =>
      rw [List.forall_mem_cons] at hf
      rw [List.mapM_cons, List.flatMap_cons]
      exact hf.1.bind fun _ => (ih hf.2).bind_ok _

end FailsFirst

theorem Condition.sql_failsFirst (condition : Condition) :
    FailsFirst condition.sql [condition] := by
  intro error
  simp only [List.findSome?_cons, failure?]
  cases condition.sql <;> simp

theorem Fragment.sql_failsFirst (fragment : Fragment) :
    FailsFirst fragment.sql [fragment.condition] := by
  have hsql : fragment.sql = fragment.condition.sql >>= fun sql =>
      .ok (textWith fragment.connective sql) := by
    rw [Fragment.sql]
    cases fragment.condition.sql <;> rfl
  rw [hsql]
  exact fragment.condition.sql_failsFirst.bind_ok _

/-! ## One state -/

/-- The query whose text a common table expression holds, if any. -/
def CommonTable.queries (table : CommonTable) : List QueryId :=
  match table.body with
  | .query query => [query]
  | .sql _ => []

/-- The query that stands behind `FROM`, if any. -/
def FromClause.queries : FromClause → List QueryId
  | .table _ => []
  | .subquery query _ => [query]

namespace QueryState

/-- The conditions of a state, those of `WHERE` before those of `HAVING`. -/
def conditions (state : QueryState) : List Condition :=
  state.filters.map Fragment.condition ++ state.having

/-- The conditions that are met in a state, given those that are met from the queries it refers to.
A raw text stands for everything; otherwise the common table expressions come first, then the
subquery, the conditions of the state itself, and its operands. -/
def met (state : QueryState) (below : QueryId → List Condition) : List Condition :=
  match state.raw with
  | some _ => []
  | none =>
      (state.commonTables.flatMap CommonTable.queries).flatMap below ++
      (state.source.toList.flatMap FromClause.queries).flatMap below ++
      state.conditions ++ state.operands.flatMap below

theorem snapshots_eq (state : QueryState) :
    state.snapshots = state.commonTables.flatMap CommonTable.queries ++
      state.source.toList.flatMap FromClause.queries := by
  rw [snapshots, List.filterMap_eq_flatMap_toList]
  refine congrArg₂ (· ++ ·) (List.flatMap_congr fun table _ => ?_) ?_
  · rcases table with ⟨name, _ | _⟩ <;> rfl
  · rcases state.source with _ | _ | _ <;> rfl

variable {state : QueryState} {textOf : TextOf} {below : QueryId → List Condition}

theorem withClause_failsFirst
    (hbelow : ∀ query ∈ state.references, FailsFirst (textOf query) (below query)) :
    FailsFirst (state.withClause textOf)
      ((state.commonTables.flatMap CommonTable.queries).flatMap below) := by
  rw [List.flatMap_assoc]
  refine FailsFirst.bind_ok (FailsFirst.mapM fun table htable => ?_) _
  obtain ⟨name, body⟩ := table
  cases body with
  | sql text => exact .ok _
  | query other =>
      simp only [CommonTable.queries, List.flatMap_singleton]
      exact (hbelow other (mem_references_of_commonTable htable)).bind_ok _

theorem source_failsFirst
    (hbelow : ∀ query ∈ state.references, FailsFirst (textOf query) (below query)) :
    FailsFirst (state.source.toList.mapM (FromClause.text textOf))
      ((state.source.toList.flatMap FromClause.queries).flatMap below) := by
  rw [List.flatMap_assoc]
  refine FailsFirst.mapM fun source hsource => ?_
  cases source with
  | table name => exact .ok name
  | subquery other name =>
      have hother := mem_references_of_source (Option.mem_toList.mp hsource)
      simp only [FromClause.queries, List.flatMap_singleton]
      exact (hbelow other hother).bind_ok _

/-- The lines fail behind `FROM`, then over the conditions of the state itself. -/
theorem lines_failsFirst
    (hbelow : ∀ query ∈ state.references, FailsFirst (textOf query) (below query)) :
    FailsFirst (state.lines textOf)
      ((state.source.toList.flatMap FromClause.queries).flatMap below ++ state.conditions) := by
  have hfilters : FailsFirst (state.filters.mapM Fragment.sql)
      (state.filters.map Fragment.condition) := by
    rw [List.map_eq_flatMap]
    exact FailsFirst.mapM fun fragment _ => fragment.sql_failsFirst
  have hhaving : FailsFirst (state.having.mapM Condition.sql) state.having := by
    have hmapM := FailsFirst.mapM fun condition (_ : condition ∈ state.having) =>
      condition.sql_failsFirst
    rwa [List.flatMap_singleton'] at hmapM
  exact (source_failsFirst hbelow).bind fun _ => hfilters.bind fun _ => hhaving.bind_ok _

/-- The text of a state fails over the first condition at fault that is met, if that holds of the
texts that it refers to. -/
theorem text_failsFirst
    (hbelow : ∀ query ∈ state.references, FailsFirst (textOf query) (below query)) :
    FailsFirst (state.text textOf) (state.met below) := by
  have hbranches : FailsFirst (state.branches.mapM (branchText textOf))
      (state.operands.flatMap below) := by
    rw [operands, List.flatMap_map]
    exact FailsFirst.mapM fun branch hbranch =>
      (hbelow branch.2 (mem_references_of_branch hbranch)).bind_ok _
  unfold text headText met
  cases state.raw with
  | some sql => exact .ok sql
  | none =>
      have hhead := (withClause_failsFirst hbelow).bind fun opening =>
        (lines_failsFirst hbelow).bind_ok fun lines => opening ++ "\n".intercalate lines
      have htext := hhead.bind fun head =>
        hbranches.bind_ok fun branches => head ++ String.join branches
      rw [← List.append_assoc] at htext
      exact htext

/-- Only the conditions below the references of a state are met there. -/
theorem met_congr {below' : QueryId → List Condition}
    (hbelow : ∀ query ∈ state.references, below query = below' query) :
    state.met below = state.met below' := by
  have hsnapshots : state.snapshots.flatMap below = state.snapshots.flatMap below' :=
    List.flatMap_congr fun query hmem => hbelow query (state.snapshots_subset_references hmem)
  have hoperands : state.operands.flatMap below = state.operands.flatMap below' :=
    List.flatMap_congr fun query hmem => hbelow query (state.operands_subset_references hmem)
  rw [snapshots_eq, List.flatMap_append, List.flatMap_append] at hsnapshots
  unfold met
  rw [hsnapshots, hoperands]

theorem mem_met_iff {condition : Condition} :
    condition ∈ state.met below ↔ state.raw = none ∧
      (condition ∈ state.conditions ∨ ∃ other ∈ state.references, condition ∈ below other) := by
  unfold met
  cases state.raw with
  | some sql => simp
  | none =>
      rw [← List.flatMap_append, ← snapshots_eq]
      simp only [List.mem_append, List.mem_flatMap, references, true_and]
      constructor
      · rintro ((⟨other, hother, hmem⟩ | hmem) | ⟨other, hother, hmem⟩)
        · exact Or.inr ⟨other, Or.inl hother, hmem⟩
        · exact Or.inl hmem
        · exact Or.inr ⟨other, Or.inr hother, hmem⟩
      · rintro (hmem | ⟨other, hother | hother, hmem⟩)
        · exact Or.inl (Or.inr hmem)
        · exact Or.inl (Or.inl ⟨other, hother, hmem⟩)
        · exact Or.inr ⟨other, hother, hmem⟩

end QueryState

namespace Store

/-! ## Queries of a store -/

/-- The conditions that rendering a query meets, in order. -/
def visit (store : Store) (hacyclic : store.Acyclic) : QueryId → List Condition :=
  hacyclic.fold QueryState.met

variable {store : Store}

theorem visit_eq (hacyclic : store.Acyclic) (query : QueryId) :
    store.visit hacyclic query = (store.state query).met (store.visit hacyclic) :=
  hacyclic.fold_eq (fun _ _ _ => QueryState.met_congr) query

/-- The text of a query fails over the first condition at fault that is met. -/
theorem Acyclic.text_failsFirst (hacyclic : store.Acyclic) (query : QueryId) :
    FailsFirst (store.text query) (store.visit hacyclic query) := by
  induction query using hacyclic.induction with
  | hstep query hbelow =>
      rw [text_eq, visit_eq]
      exact QueryState.text_failsFirst hbelow

/-- References lead from one query to another, and neither these two nor those on the way have a raw
text. -/
inductive Exposes (store : Store) : QueryId → QueryId → Prop where
  | refl {query : QueryId} (hraw : (store.state query).raw = none) : Exposes store query query
  | step {a b c : QueryId} (hraw : (store.state a).raw = none)
      (hstep : b ∈ (store.state a).references) (hrest : Exposes store b c) : Exposes store a c

/-- Rendering meets the conditions of all queries that no raw text shields. -/
theorem mem_visit_iff (hacyclic : store.Acyclic) {query : QueryId} {condition : Condition} :
    condition ∈ store.visit hacyclic query ↔
      ∃ owner, store.Exposes query owner ∧ condition ∈ (store.state owner).conditions := by
  induction query using hacyclic.induction with
  | hstep query hbelow =>
      rw [visit_eq, QueryState.mem_met_iff]
      constructor
      · rintro ⟨hraw, hhere | ⟨other, hother, hmem⟩⟩
        · exact ⟨query, .refl hraw, hhere⟩
        · obtain ⟨owner, hpath, howner⟩ := (hbelow other hother).mp hmem
          exact ⟨owner, .step hraw hother hpath, howner⟩
      · rintro ⟨owner, hpath, howner⟩
        cases hpath with
        | refl hraw => exact ⟨hraw, Or.inl howner⟩
        | step hraw hstep hrest =>
            exact ⟨hraw, Or.inr ⟨_, hstep, (hbelow _ hstep).mpr ⟨owner, hrest, howner⟩⟩⟩

/-- **A text fails over the first condition at fault.**  On an acyclic store the conditions that
rendering meets are given by recursion along the references of each state.  A query has no text
exactly if one of them is a comparison with a value that has no SQL text, and the error is that of
the first one.  Met are the conditions of those queries that are reached without passing a raw
text. -/
theorem text_eq_error_iff_first (hacyclic : store.Acyclic) :
    (∀ query, store.visit hacyclic query =
      (store.state query).met (store.visit hacyclic)) ∧
    (∀ query error, store.text query = .error error ↔
      ∃ before culprit after, store.visit hacyclic query = before ++ culprit :: after ∧
        (∀ earlier ∈ before, ∀ fault, ¬ earlier.AtFault fault) ∧ culprit.AtFault error) ∧
    (∀ query, (∃ error, store.text query = .error error) ↔
      ∃ condition ∈ store.visit hacyclic query, ∃ fault, condition.AtFault fault) ∧
    (∀ query condition, condition ∈ store.visit hacyclic query ↔
      ∃ owner, store.Exposes query owner ∧ condition ∈ (store.state owner).conditions) := by
  have hnone : ∀ condition : Condition,
      condition.failure? = none ↔ ∀ fault, ¬ condition.AtFault fault := by
    intro condition
    simp only [Option.eq_none_iff_forall_ne_some, ne_eq, Condition.failure?_eq_some_iff]
  refine ⟨visit_eq hacyclic, fun query error => ?_, fun query => ?_,
    fun _ _ => mem_visit_iff hacyclic⟩
  · rw [hacyclic.text_failsFirst query error, List.findSome?_eq_some_iff]
    simp only [hnone, Condition.failure?_eq_some_iff]
    constructor
    · rintro ⟨before, culprit, after, hvisit, hculprit, hbefore⟩
      exact ⟨before, culprit, after, hvisit, hbefore, hculprit⟩
    · rintro ⟨before, culprit, after, hvisit, hbefore, hculprit⟩
      exact ⟨before, culprit, after, hvisit, hculprit, hbefore⟩
  · simp only [hacyclic.text_failsFirst query _]
    rw [← Option.isSome_iff_exists, List.findSome?_isSome_iff]
    simp only [Option.isSome_iff_exists, Condition.failure?_eq_some_iff]

/-- A comparison with an array, which a raw text shields; one with no number behind `FROM`; and one
with an object in the query itself, which is combined with a query without conditions. -/
def comparisonsAtFault : List (Action String) :=
  [.create none, .create none, .create none, .create none,
    .state 1 (.filter none (.compare "tags" "=" (.value (.array []) (by decide)))),
    .state 1 (.raw "SELECT 1"),
    .state 2 (.having (.compare "share" ">" (.value (.float .nan) (by decide)))),
    .state 0 (.filter none (.compare "meta" "=" (.value (.object []) (by decide)))),
    .attach 0 (.commonTable "t") 1, .attach 0 (.subquery "s") 2, .attach 0 (.operand .union) 3]

/-- The query has no text over the comparison behind `FROM`. -/
theorem text_comparisonsAtFault :
    let store := (({} : Session).run comparisonsAtFault).store
    ∃ hacyclic : store.Acyclic,
      store.visit hacyclic ⟨0⟩ =
        [.compare "share" ">" (.float .nan), .compare "meta" "=" (.object [])] ∧
      store.text ⟨0⟩ = .error (.value "share" (.nonFinite .nan)) := by
  intro store
  have hacyclic : store.Acyclic := by
    have hrank : ∀ index < 6, ∀ other ∈ (store.state ⟨index⟩).references,
        [1, 0, 0, 0, 0, 0].getD other.index 0 < [1, 0, 0, 0, 0, 0].getD index 0 := by decide
    refine acyclic_of_rank (fun query => [1, 0, 0, 0, 0, 0].getD query.index 0) ?_
    intro query other hother
    exact hrank query.index (holds_of_reference hother) other hother
  obtain ⟨hvisit, hfirst, -⟩ := text_eq_error_iff_first hacyclic
  have hmet : store.visit hacyclic ⟨0⟩ =
      [.compare "share" ">" (.float .nan), .compare "meta" "=" (.object [])] := by
    have hempty : store.visit hacyclic ⟨3⟩ = [] := hvisit ⟨3⟩
    have hshielded : store.visit hacyclic ⟨4⟩ = [] := hvisit ⟨4⟩
    have hsubquery : store.visit hacyclic ⟨5⟩ = [.compare "share" ">" (.float .nan)] := hvisit ⟨5⟩
    have hquery : store.visit hacyclic ⟨0⟩ = store.visit hacyclic ⟨4⟩ ++ [] ++
        (store.visit hacyclic ⟨5⟩ ++ []) ++ [.compare "meta" "=" (.object [])] ++
        (store.visit hacyclic ⟨3⟩ ++ []) := hvisit ⟨0⟩
    rw [hquery, hempty, hshielded, hsubquery]
    rfl
  refine ⟨hacyclic, hmet, (hfirst ⟨0⟩ _).mpr ⟨[], _, _, hmet, ?_, ?_⟩⟩
  · exact fun _ hmem => absurd hmem List.not_mem_nil
  · exact .compare "share" ">" .nan

end Store
end QueryArtifacts
