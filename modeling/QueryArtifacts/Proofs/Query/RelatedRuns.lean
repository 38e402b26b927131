import QueryArtifacts.Proofs.Query.RelatedTexts

/-!
# Two runs with related texts

The same actions, carried out with related texts, keep two stores related, query by query.

* `Store.Related` — stores of one size with related states.
* `Store.Related.text` — their queries have related texts.
* `Session.Related.run` — runs of the same actions.
-/

namespace QueryArtifacts

variable {R : String → String → Prop}

namespace Store

/-- Two stores of one size with related states. -/
structure Related (R : String → String → Prop) (store store' : Store) : Prop where
  size : store.size = store'.size
  states : ∀ query, (store.state query).Related R (store'.state query)

variable {store store' : Store}

theorem related_empty (R : String → String → Prop) : Related R .empty .empty where
  size := rfl
  states := fun _ => QueryState.related_schema none

theorem Related.holds_iff (hrelated : store.Related R store') {query : QueryId} :
    store.Holds query ↔ store'.Holds query := by
  unfold Holds
  rw [hrelated.size]

theorem Related.add (hrelated : store.Related R store') {new new' : QueryState}
    (hnew : new.Related R new') : (store.add new).2.Related R (store'.add new').2 where
  size := by rw [size_add, size_add, hrelated.size]
  states := by
    intro query
    -- An old query, the new one, or none at all.
    rcases Nat.lt_trichotomy query.index store.size with hold | hlast | hbeyond
    · rw [state_add_of_holds hold, state_add_of_holds (hrelated.holds_iff.mp hold)]
      exact hrelated.states query
    · obtain rfl : query = ⟨store.size⟩ := congrArg QueryId.mk hlast
      rw [state_add_next, hrelated.size, state_add_next]
      exact hnew
    · have hbeyond' : ¬ (store.add new).2.Holds query := by
        unfold Holds
        rw [size_add]
        omega
      have hbeyond'' : ¬ (store'.add new').2.Holds query := by
        unfold Holds
        rw [size_add, ← hrelated.size]
        omega
      rw [state_of_not_holds hbeyond', state_of_not_holds hbeyond'']
      exact QueryState.related_schema none

/-- Two calls about one query, if they take related states to related states. -/
theorem Related.call (hrelated : store.Related R store') (query : QueryId) {call call' : Call}
    (hcall : ∀ state state' : QueryState, state.Related R state' →
      (state.apply call).Related R (state'.apply call')) :
    (store.call query call).Related R (store'.call query call') where
  size := by rw [size_call, size_call, hrelated.size]
  states := by
    intro other
    by_cases hother : other = query
    · subst hother
      by_cases hheld : store.Holds other
      · have hheld' := hrelated.holds_iff.mp hheld
        rw [state_call_self call hheld, state_call_self call' hheld']
        exact hcall _ _ (hrelated.states other)
      -- A call about a query that is not there changes nothing.
      · have hnone : ¬ (store.call other call).Holds other := by
          rwa [Holds, size_call]
        have hnone' : ¬ (store'.call other call').Holds other := by
          rwa [Holds, size_call, ← Holds, ← hrelated.holds_iff]
        rw [state_of_not_holds hnone, state_of_not_holds hnone']
        exact QueryState.related_schema none
    · rw [state_call_of_ne call hother, state_call_of_ne call' hother]
      exact hrelated.states other

/-- The queries of related stores have related texts. -/
theorem Related.text (hR : TextRelation R) (hrelated : store.Related R store') (query : QueryId) :
    Alike R (store.text query) (store'.text query) := by
  have hwithin : ∀ depth query, Alike R (store.textWithin depth query)
      (store'.textWithin depth query) := by
    intro depth
    induction depth with
    | zero => exact fun _ => .error
    | succ depth ih => exact fun query => (hrelated.states query).text hR ih
  -- The stores have one size, so that both texts are read to the same depth.
  unfold Store.text
  rw [hrelated.size]
  exact hwithin _ query

end Store

namespace Session

/-- Two sessions with the same handles and related stores. -/
structure Related (R : String → String → Prop) (session session' : Session) : Prop where
  handles : session.handles = session'.handles
  store : session.store.Related R session'.store

variable (hR : TextRelation R)
variable {τ : Type} {f f' : τ → String} (hf : ∀ text, R (f text) (f' text))
variable {session session' : Session}

theorem Related.query? (hrelated : session.Related R session') (handle : Handle) :
    session.query? handle = session'.query? handle := by
  unfold Session.query?
  rw [hrelated.handles]

theorem Related.grant (hrelated : session.Related R session') {new new' : QueryState}
    (hnew : new.Related R new') :
    (session.grant (session.store.add new)).Related R
      (session'.grant (session'.store.add new')) where
  handles := by
    change session.handles ++ [⟨session.store.size⟩] = session'.handles ++ [⟨session'.store.size⟩]
    rw [hrelated.handles, hrelated.store.size]
  store := hrelated.store.add hnew

include hR hf

theorem Related.record_statement (hrelated : session.Related R session') (query : QueryId)
    (said : Statement τ) :
    ({ session with store := record session.store query (.statement (said.map f)) }).Related R
      { session' with store := record session'.store query (.statement (said.map f')) } where
  handles := hrelated.handles
  store := hrelated.store.call query fun _ _ hstates => hstates.apply_statement hR hf said

theorem Related.record_attachment (hrelated : session.Related R session') (query : QueryId)
    (role : Role τ) (other : QueryId) :
    ({ session with
        store := record session.store query (.attachment (role.map f) other) }).Related R
      { session' with
        store := record session'.store query (.attachment (role.map f') other) } where
  handles := hrelated.handles
  store := by
    have hprepared : ((Entry.attachment (role.map f) other).prepared session.store).Related R
        ((Entry.attachment (role.map f') other).prepared session'.store) := by
      cases role with
      | operand operator => exact hrelated.store
      | subquery name | commonTable name => exact hrelated.store.add (hrelated.store.states other)
    rw [record_eq, record_eq]
    exact hprepared.call query fun _ _ hstates =>
      hstates.apply_attachment hR hf hrelated.store.size role other

/-- One action. -/
theorem Related.step (hrelated : session.Related R session') (action : Action τ) :
    (session.step (action.map f)).Related R (session'.step (action.map f')) := by
  cases action with
  | create schema => exact hrelated.grant (QueryState.related_schema schema)
  | clone source =>
      simp only [Action.map, Session.step, hrelated.query? source]
      cases session'.query? source with
      | none => exact hrelated
      | some query => exact ⟨by rw [hrelated.handles], hrelated.store⟩
  | copy source =>
      simp only [Action.map, Session.step, hrelated.query? source]
      cases session'.query? source with
      | none => exact hrelated
      | some query => exact hrelated.grant (hrelated.store.states query)
  | state target said =>
      simp only [Action.map, Session.step, stated?, hrelated.query? target]
      cases session'.query? target with
      | none => exact hrelated
      | some query => exact hrelated.record_statement hR hf query said
  | attach target role other =>
      simp only [Action.map, Session.step, stated?, hrelated.query? target, hrelated.query? other]
      cases session'.query? target with
      | none => exact hrelated
      | some query =>
          cases session'.query? other with
          | none => exact hrelated
          | some used => exact hrelated.record_attachment hR hf query role used

/-- A run of the same actions. -/
theorem Related.run (hrelated : session.Related R session') (actions : List (Action τ)) :
    (session.run (actions.map (Action.map f))).Related R
      (session'.run (actions.map (Action.map f'))) := by
  induction actions generalizing session session' with
  | nil => exact hrelated
  | cons action rest ih => exact ih (hrelated.step hR hf action)

end Session
end QueryArtifacts
