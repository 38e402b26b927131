import QueryArtifacts.Proofs.Project.Steps
import QueryArtifacts.Proofs.Query.Frame
import QueryArtifacts.Proofs.Query.Termination

/-!
# Set operations in a row

A query that is combined with others is a tree: the operands have operands of their own.  The text
has no parentheses and shows the tree in pre-order, every query by its text without set operations
and behind the operator with which it was combined.  Nothing but the present states counts, whatever
they were when the queries were combined.

* `Store.headText` — the text that a query would have without set operations.
* `Store.operations` — the set operations below a query, in pre-order.
* `Store.Acyclic.text_eq_operations` — the text, or its failure, put together from the two.
* `Store.text_eq_preorder` — the same for a text that is found, with each part in its own words.
-/

namespace QueryArtifacts

namespace QueryState

/-! ## One state -/

/-- The state without its set operations. -/
def withoutBranches (state : QueryState) : QueryState :=
  { state with branches := [] }

/-- The set operations below a state in pre-order, given those below its operands: each operation in
turn, with those of its operand right behind it.  Below a raw text there are none. -/
def operations (state : QueryState) (below : QueryId → List (SetOperator × QueryId)) :
    List (SetOperator × QueryId) :=
  match state.raw with
  | some _ => []
  | none => state.branches.flatMap fun branch => branch :: below branch.2

/-- The texts of set operations, one behind the other. -/
def joinedText (textOf : TextOf) (branches : List (SetOperator × QueryId)) :
    Except QueryError String := do
  return String.join (← branches.mapM (branchText textOf))

theorem joinedText_cons (textOf : TextOf) (branch : SetOperator × QueryId)
    (more : List (SetOperator × QueryId)) :
    joinedText textOf (branch :: more) = do
      let first ← branchText textOf branch
      let rest ← joinedText textOf more
      return first ++ rest := by
  simp [joinedText, List.mapM_cons]

theorem joinedText_append (textOf : TextOf) (branches more : List (SetOperator × QueryId)) :
    joinedText textOf (branches ++ more) = do
      let first ← joinedText textOf branches
      let rest ← joinedText textOf more
      return first ++ rest := by
  simp [joinedText, List.mapM_append]

theorem text_eq_joinedText (state : QueryState) (textOf : TextOf) :
    state.text textOf = do
      let head ← state.headText textOf
      let branches ← joinedText textOf (if state.raw.isSome then [] else state.branches)
      return head ++ branches := by
  unfold text
  cases state.raw <;> simp [joinedText]

/-- Operands are shown in pre-order, if each of their texts is its head with the set operations
below behind it. -/
theorem joinedText_flatMap {textOf headOf : TextOf}
    {below : QueryId → List (SetOperator × QueryId)} {branches : List (SetOperator × QueryId)}
    (hbelow : ∀ branch ∈ branches, textOf branch.2 = do
      let head ← headOf branch.2
      let rest ← joinedText headOf (below branch.2)
      return head ++ rest) :
    joinedText textOf branches =
      joinedText headOf (branches.flatMap fun branch => branch :: below branch.2) := by
  induction branches with
  | nil => rfl
  | cons branch more ih =>
      rw [List.forall_mem_cons] at hbelow
      rw [List.flatMap_cons, List.cons_append, joinedText_cons, joinedText_cons, joinedText_append,
        ih hbelow.2, branchText, branchText, hbelow.1]
      simp only [bind_assoc, pure_bind, String.append_assoc]

theorem text_eq_operations {state : QueryState} {textOf headOf : TextOf}
    {below : QueryId → List (SetOperator × QueryId)}
    (hbelow : ∀ other ∈ state.references, textOf other = do
      let head ← headOf other
      let rest ← joinedText headOf (below other)
      return head ++ rest) :
    state.text textOf = do
      let head ← state.headText textOf
      let rest ← joinedText headOf (state.operations below)
      return head ++ rest := by
  rw [text_eq_joinedText, operations]
  cases state.raw with
  | some sql => rfl
  | none =>
      rw [← joinedText_flatMap fun branch hbranch =>
        hbelow branch.2 (mem_references_of_branch hbranch)]
      rfl

theorem operations_congr {state : QueryState}
    {below below' : QueryId → List (SetOperator × QueryId)}
    (hbelow : ∀ other ∈ state.references, below other = below' other) :
    state.operations below = state.operations below' := by
  have hbranches : (state.branches.flatMap fun branch => branch :: below branch.2) =
      state.branches.flatMap fun branch => branch :: below' branch.2 :=
    List.flatMap_congr fun branch hbranch => by
      rw [hbelow branch.2 (mem_references_of_branch hbranch)]
  unfold operations
  rw [hbranches]

theorem text_withoutBranches (state : QueryState) (textOf : TextOf) :
    state.withoutBranches.text textOf = state.headText textOf := by
  have hhead : state.withoutBranches.headText textOf = state.headText textOf := rfl
  rw [text_eq_joinedText, hhead]
  have hnone : (if state.withoutBranches.raw.isSome then [] else state.withoutBranches.branches) =
      [] := ite_self _
  rw [hnone]
  simp [joinedText]

/-- A text says what a state says by itself: it is the raw text, or made of the common table
expressions of the state and of its lines. -/
def Says (state : QueryState) (textOf : TextOf) (sql : String) : Prop :=
  match state.raw with
  | some raw => sql = raw
  | none => ∃ tables lines,
      state.commonTables.mapM (CommonTable.text textOf) = .ok tables ∧
      state.lines textOf = .ok lines ∧
      sql = (if tables.isEmpty then "" else "WITH " ++ ",\n".intercalate tables ++ "\n") ++
        "\n".intercalate lines

theorem says_of_headText {state : QueryState} {textOf : TextOf} {sql : String}
    (hhead : state.headText textOf = .ok sql) : state.Says textOf sql := by
  unfold headText at hhead
  unfold Says
  cases hraw : state.raw with
  | some raw =>
      rw [hraw] at hhead
      cases hhead
      rfl
  | none =>
      rw [hraw] at hhead
      obtain ⟨opening, hopening, hhead⟩ := exists_of_bind_eq_ok hhead
      obtain ⟨lines, hlines, hhead⟩ := exists_of_bind_eq_ok hhead
      obtain ⟨tables, htables, hopening⟩ := exists_of_bind_eq_ok hopening
      cases hhead
      cases hopening
      exact ⟨tables, lines, htables, hlines, rfl⟩

theorem references_withoutBranches (state : QueryState) :
    state.withoutBranches.references = state.snapshots :=
  List.append_nil _

end QueryState

namespace Store

/-! ## Queries of a store -/

/-- The text that a query would have without its set operations. -/
def headText (store : Store) (query : QueryId) : Except QueryError String :=
  (store.update query (store.state query).withoutBranches).text query

/-- The set operations below a query, in pre-order. -/
def operations (store : Store) (hacyclic : store.Acyclic) :
    QueryId → List (SetOperator × QueryId) :=
  hacyclic.fold QueryState.operations

variable {store : Store}

theorem operations_eq (hacyclic : store.Acyclic) (query : QueryId) :
    store.operations hacyclic query =
      (store.state query).operations (store.operations hacyclic) :=
  hacyclic.fold_eq (fun _ _ _ => QueryState.operations_congr) query

/-- A query without its set operations reads as the clauses of its own state. -/
theorem Acyclic.headText_eq (hacyclic : store.Acyclic) (query : QueryId) :
    store.headText query = (store.state query).headText store.text := by
  have hstate : (store.update query (store.state query).withoutBranches).state query =
      (store.state query).withoutBranches := by
    by_cases hquery : store.Holds query
    · rw [state_update _ query hquery, if_pos rfl]
    · have hgone : ¬ (store.update query (store.state query).withoutBranches).Holds query := by
        rwa [Holds, size_update]
      rw [state_of_not_holds hgone, state_of_not_holds hquery]
      rfl
  rw [headText, text_eq, hstate, ← QueryState.text_withoutBranches]
  refine QueryState.text_congr fun other hother => ?_
  rw [QueryState.references_withoutBranches] at hother
  -- Nothing below leads back to the query, so that the change is not seen there.
  have hback := hacyclic query other (QueryState.snapshots_subset_references _ hother)
  refine text_congr (fun _ hkept _ hnext => hkept.snoc hnext) (fun kept hkept => ?_)
    (Reaches.refl other)
  refine state_update_of_ne _ ?_
  rintro rfl
  exact hback hkept

/-- The text of a query is its head with the set operations below it, if all of them have a text; if
not, the first failure in this order is the failure of the text. -/
theorem Acyclic.text_eq_operations (hacyclic : store.Acyclic) (query : QueryId) :
    store.text query = do
      let head ← store.headText query
      let rest ← QueryState.joinedText store.headText (store.operations hacyclic query)
      return head ++ rest := by
  induction query using hacyclic.induction with
  | hstep query hbelow =>
      rw [text_eq, operations_eq, hacyclic.headText_eq]
      exact QueryState.text_eq_operations hbelow

/-- **A text shows the tree of set operations in pre-order.**  On an acyclic store the set
operations below a query are given by recursion along the operands of each present state.  A text
that is found is the head of the query and, for each of these operations, a line break, the
operator, a line break and the head of the operand: the text that each of them would have without
set operations, made of the clauses of its own state. -/
theorem text_eq_preorder (hacyclic : store.Acyclic) :
    (∀ query, store.operations hacyclic query =
      (store.state query).operations (store.operations hacyclic)) ∧
    ∀ query sql, store.text query = .ok sql → ∃ headOf : QueryId → String,
      (∀ part ∈ query :: (store.operations hacyclic query).map Prod.snd,
        store.headText part = .ok (headOf part) ∧
        (store.state part).Says store.text (headOf part)) ∧
      sql = headOf query ++ String.join ((store.operations hacyclic query).map
        fun (operator, operand) => "\n" ++ operator.sql ++ "\n" ++ headOf operand) := by
  refine ⟨operations_eq hacyclic, fun query sql htext => ?_⟩
  rw [hacyclic.text_eq_operations] at htext
  obtain ⟨head, hhead, htext⟩ := exists_of_bind_eq_ok htext
  obtain ⟨rest, hrest, htext⟩ := exists_of_bind_eq_ok htext
  obtain ⟨texts, htexts, hrest⟩ := exists_of_bind_eq_ok hrest
  cases htext
  cases hrest
  -- Every part has a head, since the text was found.
  have hparts : ∀ part ∈ query :: (store.operations hacyclic query).map Prod.snd,
      ∃ sql, store.headText part = .ok sql := by
    rw [List.forall_mem_cons, List.forall_mem_map]
    refine ⟨⟨head, hhead⟩, fun operation hmem => ?_⟩
    obtain ⟨text, htext⟩ := exists_mapM_eq_ok_iff.mp ⟨texts, htexts⟩ operation hmem
    obtain ⟨operand, hoperand, -⟩ := exists_of_bind_eq_ok htext
    exact ⟨operand, hoperand⟩
  choose! headOf hheadOf using hparts
  refine ⟨headOf, fun part hpart => ⟨hheadOf part hpart, ?_⟩, ?_⟩
  · have hsays := hheadOf part hpart
    rw [hacyclic.headText_eq] at hsays
    exact QueryState.says_of_headText hsays
  · have hhere : head = headOf query :=
      Except.ok.inj (hhead.symm.trans (hheadOf query (List.mem_cons_self ..)))
    have hrow : (store.operations hacyclic query).mapM (QueryState.branchText store.headText) =
        .ok ((store.operations hacyclic query).map fun (operator, operand) =>
          "\n" ++ operator.sql ++ "\n" ++ headOf operand) := by
      rw [mapM_eq_ok_iff, List.forall₂_map_right_iff, List.forall₂_same]
      intro operation hmem
      rw [QueryState.branchText,
        hheadOf operation.2 (List.mem_cons_of_mem _ (List.mem_map_of_mem hmem))]
      rfl
    rw [hhere, Except.ok.inj (htexts.symm.trans hrow)]

/-- A query that is combined twice with a second one, whose table, common table expression and
operand are only stated afterwards; that operand is combined with a fourth query and then gets a raw
text. -/
def liveOperands : List (Action String) :=
  [.create none, .create none, .create none, .create none,
    .attach 0 (.operand .union) 1, .attach 0 (.operand .unionAll) 1,
    .state 1 (.table "events"), .state 1 (.commonTable "c" "SELECT 1"),
    .attach 1 (.operand .except) 2, .attach 2 (.operand .intersect) 3, .state 2 (.raw "SELECT 2")]

/-- Both occurrences of the second query show all that. -/
theorem text_liveOperands :
    let store := (({} : Session).run liveOperands).store
    ∃ hacyclic : store.Acyclic,
      store.text ⟨0⟩ = .ok ("SELECT *" ++
        "\nUNION\nWITH c AS (SELECT 1)\nSELECT *\nFROM events\nEXCEPT\nSELECT 2" ++
        "\nUNION ALL\nWITH c AS (SELECT 1)\nSELECT *\nFROM events\nEXCEPT\nSELECT 2") ∧
      store.operations hacyclic ⟨0⟩ =
        [(.union, ⟨1⟩), (.except, ⟨2⟩), (.unionAll, ⟨1⟩), (.except, ⟨2⟩)] ∧
      ∃ headOf : QueryId → String,
        headOf ⟨0⟩ = "SELECT *" ∧
        headOf ⟨1⟩ = "WITH c AS (SELECT 1)\nSELECT *\nFROM events" ∧ headOf ⟨2⟩ = "SELECT 2" := by
  intro store
  have hacyclic : store.Acyclic := by
    have hrank : ∀ index < 4, ∀ other ∈ (store.state ⟨index⟩).references,
        [3, 2, 1, 0].getD other.index 0 < [3, 2, 1, 0].getD index 0 := by decide
    refine acyclic_of_rank (fun query => [3, 2, 1, 0].getD query.index 0) ?_
    intro query other hother
    exact hrank query.index (holds_of_reference hother) other hother
  obtain ⟨hoperations, hpreorder⟩ := text_eq_preorder hacyclic
  have hraw : store.operations hacyclic ⟨2⟩ = [] := hoperations ⟨2⟩
  have hsecond : store.operations hacyclic ⟨1⟩ = [(.except, ⟨2⟩)] := by
    have hbelow : store.operations hacyclic ⟨1⟩ =
        (.except, ⟨2⟩) :: (store.operations hacyclic ⟨2⟩ ++ []) := hoperations ⟨1⟩
    rw [hbelow, hraw]
    rfl
  have hfirst : store.operations hacyclic ⟨0⟩ =
      [(.union, ⟨1⟩), (.except, ⟨2⟩), (.unionAll, ⟨1⟩), (.except, ⟨2⟩)] := by
    have hbelow : store.operations hacyclic ⟨0⟩ =
        (.union, ⟨1⟩) :: (store.operations hacyclic ⟨1⟩ ++
          (.unionAll, ⟨1⟩) :: (store.operations hacyclic ⟨1⟩ ++ [])) := hoperations ⟨0⟩
    rw [hbelow, hsecond]
    rfl
  have htext : store.text ⟨0⟩ = .ok ("SELECT *" ++
      "\nUNION\nWITH c AS (SELECT 1)\nSELECT *\nFROM events\nEXCEPT\nSELECT 2" ++
      "\nUNION ALL\nWITH c AS (SELECT 1)\nSELECT *\nFROM events\nEXCEPT\nSELECT 2") := by
    rfl
  obtain ⟨headOf, hparts, -⟩ := hpreorder ⟨0⟩ _ htext
  rw [hfirst] at hparts
  have hhead : ∀ index sql, ⟨index⟩ ∈ [⟨0⟩, ⟨1⟩, ⟨2⟩, ⟨1⟩, (⟨2⟩ : QueryId)] →
      store.headText ⟨index⟩ = .ok sql → headOf ⟨index⟩ = sql :=
    fun index sql hmem hsql => Except.ok.inj ((hparts ⟨index⟩ hmem).1.symm.trans hsql)
  exact ⟨hacyclic, htext, hfirst, headOf, hhead 0 _ (by decide) rfl, hhead 1 _ (by decide) rfl,
    hhead 2 _ (by decide) rfl⟩

end Store
end QueryArtifacts
