import Mathlib.Data.Finset.Card
import QueryArtifacts.Proofs.Query.References
import QueryArtifacts.Query.Text

/-!
# Rendering as a solution of its own equation

`Store.text` follows references to a depth that is fixed by the size of the store.  The depth is
only a bound on the recursion: this module removes it from every later argument.

* `Approximates` — the order in which `circular`, the answer for want of depth, is least.
* `text_approximates` — the text of one state is monotone in the texts of its references.
* `textWithin_eq_text` — every depth beyond the size of the store gives the same answer.
* `Store.text_eq` — the text of a query is the text of its state over the texts of the store.
* `text_congr` — two stores that agree on all that a query reaches give it the same text.

None of these needs an acyclic store.  A query that contains itself keeps the answer `circular` at
every depth, and a raw text cuts a cycle open.
-/

namespace QueryArtifacts

/-! ## The order of answers -/

/-- `a` is `b`, or has been given up for want of depth. -/
def Approximates {α : Type} (a b : Except QueryError α) : Prop :=
  a = .error .circular ∨ a = b

namespace Approximates

variable {α β : Type}

theorem refl (a : Except QueryError α) : Approximates a a :=
  Or.inr rfl

theorem eq_of_ne {a b : Except QueryError α} (h : Approximates a b)
    (hne : a ≠ .error .circular) : a = b :=
  h.resolve_left hne

/-- Two answers that approximate each other are the same. -/
theorem antisymm {a b : Except QueryError α} (hab : Approximates a b)
    (hba : Approximates b a) : a = b := by
  rcases hab with hcircular | heq
  · rcases hba with hcircular' | heq'
    · rw [hcircular, hcircular']
    · exact heq'.symm
  · exact heq

theorem bind {a b : Except QueryError α} {f g : α → Except QueryError β}
    (hab : Approximates a b) (hfg : ∀ x, Approximates (f x) (g x)) :
    Approximates (a >>= f) (b >>= g) := by
  rcases hab with rfl | rfl
  · exact Or.inl rfl
  · cases a with
    | error e => exact refl _
    | ok x => exact hfg x

theorem mapM {f g : α → Except QueryError β} {items : List α}
    (hfg : ∀ x ∈ items, Approximates (f x) (g x)) :
    Approximates (items.mapM f) (items.mapM g) := by
  induction items with
  | nil => exact refl _
  | cons x rest ih =>
      rw [List.mapM_cons, List.mapM_cons]
      have hhead := hfg x (List.mem_cons_self ..)
      have htail := ih fun y hy => hfg y (List.mem_cons_of_mem x hy)
      exact hhead.bind fun _ => htail.bind fun _ => refl _

end Approximates

/-! ## One state -/

namespace QueryState

variable {state : QueryState} {f g : TextOf}

theorem withClause_approximates
    (hfg : ∀ query ∈ state.references, Approximates (f query) (g query)) :
    Approximates (state.withClause f) (state.withClause g) := by
  refine Approximates.bind (Approximates.mapM fun table htable => ?_) fun _ => .refl _
  obtain ⟨name, body⟩ := table
  cases body with
  | sql text => exact .refl _
  | query other =>
      exact Approximates.bind (hfg other (mem_references_of_commonTable htable)) fun _ => .refl _

theorem lines_approximates
    (hfg : ∀ query ∈ state.references, Approximates (f query) (g query)) :
    Approximates (state.lines f) (state.lines g) := by
  refine Approximates.bind (Approximates.mapM fun source hsource => ?_) fun _ => .refl _
  cases source with
  | table name => exact .refl _
  | subquery other name =>
      have hother := mem_references_of_source (Option.mem_toList.mp hsource)
      exact Approximates.bind (hfg other hother) fun _ => .refl _

/-- The text of a state is monotone in the texts of the queries that it refers to. -/
theorem text_approximates
    (hfg : ∀ query ∈ state.references, Approximates (f query) (g query)) :
    Approximates (state.text f) (state.text g) := by
  have hhead : Approximates (state.headText f) (state.headText g) := by
    unfold headText
    cases state.raw with
    | some sql => exact .refl _
    | none =>
        exact (withClause_approximates hfg).bind fun _ =>
          (lines_approximates hfg).bind fun _ => .refl _
  refine hhead.bind fun head => ?_
  by_cases hraw : state.raw.isSome = true
  · rw [if_pos hraw, if_pos hraw]
    exact .refl _
  · rw [if_neg hraw, if_neg hraw]
    refine Approximates.bind (Approximates.mapM fun branch hbranch => ?_) fun _ => .refl _
    exact Approximates.bind (hfg branch.2 (mem_references_of_branch hbranch)) fun _ => .refl _

/-- Only the texts of the references enter the text of a state. -/
theorem text_congr (hfg : ∀ query ∈ state.references, f query = g query) :
    state.text f = state.text g := by
  apply Approximates.antisymm
  · exact text_approximates fun query hquery => Or.inr (hfg query hquery)
  · exact text_approximates fun query hquery => Or.inr (hfg query hquery).symm

end QueryState

/-! ## Depth -/

namespace Store

theorem textWithin_succ (store : Store) (depth : Nat) (query : QueryId) :
    store.textWithin (depth + 1) query = (store.state query).text (store.textWithin depth) :=
  rfl

/-- More depth never changes an answer that has been found. -/
theorem textWithin_approximates (store : Store) (depth : Nat) (query : QueryId) :
    Approximates (store.textWithin depth query) (store.textWithin (depth + 1) query) := by
  induction depth generalizing query with
  | zero => exact Or.inl rfl
  | succ depth ih => exact QueryState.text_approximates fun other _ => ih other

/-- A query that does not exist has the text of an empty state, at every depth but `0`. -/
theorem textWithin_ne_circular_of_not_holds {store : Store} {query : QueryId} (depth : Nat)
    (hquery : ¬ store.Holds query) :
    store.textWithin (depth + 1) query ≠ .error .circular := by
  rw [textWithin_succ, state_of_not_holds hquery]
  intro hcircular
  injection hcircular

open Classical in
/-- The queries of a store whose text is found within a depth. -/
noncomputable def found (store : Store) (depth : Nat) : Finset Nat :=
  (Finset.range store.size).filter fun index =>
    store.textWithin depth ⟨index⟩ ≠ .error .circular

theorem mem_found_iff {store : Store} {depth index : Nat} :
    index ∈ store.found depth ↔
      store.Holds ⟨index⟩ ∧ store.textWithin depth ⟨index⟩ ≠ .error .circular := by
  simp [found, Holds]

theorem found_subset (store : Store) (depth : Nat) :
    store.found depth ⊆ store.found (depth + 1) := by
  intro index hindex
  rw [mem_found_iff] at hindex ⊢
  refine ⟨hindex.1, ?_⟩
  rw [← (store.textWithin_approximates depth ⟨index⟩).eq_of_ne hindex.2]
  exact hindex.2

theorem card_found_le (store : Store) (depth : Nat) : (store.found depth).card ≤ store.size := by
  unfold found
  exact (Finset.card_filter_le _ _).trans_eq (Finset.card_range store.size)

/-- If one more step of depth finds no further text, it changes nothing at all. -/
theorem textWithin_eq_of_found_eq {store : Store} {depth : Nat}
    (hfound : store.found (depth + 2) = store.found (depth + 1)) :
    store.textWithin (depth + 2) = store.textWithin (depth + 1) := by
  funext query
  have hle := store.textWithin_approximates (depth + 1) query
  by_cases hquery : store.Holds query
  · by_cases hmore : store.textWithin (depth + 2) query = .error .circular
    · by_cases hless : store.textWithin (depth + 1) query = .error .circular
      · rw [hmore, hless]
      · exact (hle.eq_of_ne hless).symm
    · have hmem : query.index ∈ store.found (depth + 2) := mem_found_iff.mpr ⟨hquery, hmore⟩
      rw [hfound, mem_found_iff] at hmem
      exact (hle.eq_of_ne hmem.2).symm
  · exact (hle.eq_of_ne (textWithin_ne_circular_of_not_holds depth hquery)).symm

/-- Depth by depth, either all texts have settled or one more of them has been found. -/
theorem textWithin_settled_or_card (store : Store) (depth : Nat) :
    store.textWithin (depth + 2) = store.textWithin (depth + 1) ∨
      depth + 1 ≤ (store.found (depth + 2)).card := by
  have grow : ∀ depth, store.textWithin (depth + 2) = store.textWithin (depth + 1) ∨
      (store.found (depth + 1)).card < (store.found (depth + 2)).card := by
    intro depth
    by_cases hfound : store.found (depth + 2) = store.found (depth + 1)
    · exact Or.inl (textWithin_eq_of_found_eq hfound)
    · have hstrict : store.found (depth + 1) ⊂ store.found (depth + 2) :=
        (store.found_subset (depth + 1)).ssubset_of_ne (Ne.symm hfound)
      exact Or.inr (Finset.card_lt_card hstrict)
  -- What has settled stays settled; until then every depth finds one text more.
  induction depth with
  | zero =>
      rcases grow 0 with hsettled | hgrow
      · exact Or.inl hsettled
      · exact Or.inr (by omega)
  | succ depth ih =>
      rcases ih with hsettled | hcard
      · left
        funext query
        rw [textWithin_succ store (depth + 2), textWithin_succ store (depth + 1), hsettled]
      · rcases grow (depth + 1) with hsettled | hgrow
        · exact Or.inl hsettled
        · change (store.found (depth + 2)).card < (store.found (depth + 1 + 2)).card at hgrow
          exact Or.inr (by omega)

/-- The depth that `text` allows settles all texts. -/
theorem textWithin_size_add_two (store : Store) :
    store.textWithin (store.size + 2) = store.textWithin (store.size + 1) := by
  rcases store.textWithin_settled_or_card store.size with hsettled | hcard
  · exact hsettled
  · have hle := store.card_found_le (store.size + 2)
    omega

/-- The text of a query is the text of its state, over the texts of the whole store. -/
theorem text_eq (store : Store) (query : QueryId) :
    store.text query = (store.state query).text store.text := by
  calc store.text query
      = store.textWithin (store.size + 2) query := by
        rw [textWithin_size_add_two]
        rfl
    _ = (store.state query).text store.text := rfl

/-- Depth beyond the size of the store makes no difference. -/
theorem textWithin_eq_text {store : Store} {depth : Nat} (hdepth : store.size + 1 ≤ depth) :
    store.textWithin depth = store.text := by
  induction depth, hdepth using Nat.le_induction with
  | base => rfl
  | succ depth _ ih =>
      funext query
      rw [textWithin_succ, ih, ← text_eq]

/-- The text of a query depends only on the states that it reaches.  `Kept` is any set of queries
that contains the references of its members. -/
theorem text_congr {store store' : Store} {Kept : QueryId → Prop}
    (hclosed : ∀ query, Kept query → ∀ other ∈ (store.state query).references, Kept other)
    (hagree : ∀ query, Kept query → store'.state query = store.state query)
    {query : QueryId} (hquery : Kept query) : store'.text query = store.text query := by
  have hwithin : ∀ depth query, Kept query →
      store'.textWithin depth query = store.textWithin depth query := by
    intro depth
    induction depth with
    | zero => exact fun _ _ => rfl
    | succ depth ih =>
        intro query hquery
        rw [textWithin_succ, textWithin_succ, hagree query hquery]
        exact QueryState.text_congr fun other hother => ih other (hclosed query hquery other hother)
  -- The stores may differ in size, so both texts are read at a depth that settles both.
  have hdepth : store'.size + 1 ≤ max store.size store'.size + 1 := by omega
  have hdepth' : store.size + 1 ≤ max store.size store'.size + 1 := by omega
  rw [← textWithin_eq_text hdepth, ← textWithin_eq_text hdepth', hwithin _ query hquery]

end Store
end QueryArtifacts
