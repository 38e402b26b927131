import QueryArtifacts.Proofs.Query.ClauseLog
import QueryArtifacts.Proofs.Query.Snapshot

/-!
# The text of a query from its log

A fresh query has the text that its log stands for, through whatever handles the statements were
made and whatever else happened in between.

* `Shows` — a state holds, clause by clause, what a log put into it.
* `Shows.apply` — one more entry on both sides; `Session.shows_run` — a whole run.
* `Shows.text_eq` — such a state has the text of the log.
* `Session.Undisturbed` — a query of which the run takes a snapshot does not change afterwards, so
  that the snapshot and the query have one text.
* `Session.text_fresh_eq_textOfLog` — the text of a fresh query after a run.
-/

namespace QueryArtifacts

/-- The fragments of a `WHERE` clause: the first one loses its connective. -/
def fragmentsOf : List (Option Connective × Condition) → List Fragment
  | [] => []
  | (_, first) :: more =>
      ⟨none, first⟩ :: more.map fun (connective, condition) => ⟨connective, condition⟩

theorem fragmentsOf_append (parts : List (Option Connective × Condition))
    (connective : Option Connective) (condition : Condition) :
    fragmentsOf (parts ++ [(connective, condition)]) =
      fragmentsOf parts ++
        [⟨if (fragmentsOf parts).isEmpty then none else connective, condition⟩] := by
  cases parts with
  | nil => rfl
  | cons first more => simp [fragmentsOf]

theorem tied_eq (part : Option Connective × Condition) :
    tied part = Fragment.sql ⟨part.1, part.2⟩ := by
  rcases part with ⟨_ | _ | _, condition⟩ <;> cases hsql : condition.sql <;>
    simp [tied, Fragment.sql, hsql, Except.map, Fragment.textWith, Connective.sql]

theorem whereParts_eq (parts : List (Option Connective × Condition)) :
    whereParts parts = (fragmentsOf parts).mapM Fragment.sql := by
  cases parts with
  | nil => rfl
  | cons first more =>
      have hfirst : Fragment.sql ⟨none, first.2⟩ = first.2.sql := (tied_eq (none, first.2)).symm
      have hmore : tied = fun part => Fragment.sql ⟨part.1, part.2⟩ := funext tied_eq
      simp only [whereParts, fragmentsOf, List.mapM_cons, List.mapM_map, hfirst, hmore]
      rfl

/-- A clause begins with its keyword and a blank. -/
theorem QueryState.clause_eq {keyword lead : String} (hlead : keyword ++ " " = lead)
    (separator : String) (parts : List String) :
    clause keyword separator parts =
      if parts.isEmpty then [] else [lead ++ separator.intercalate parts] := by
  rw [clause, hlead]

/-- A clause of one number. -/
theorem QueryState.clause_rows {keyword lead : String} (hlead : keyword ++ " " = lead)
    (rows : Option Nat) :
    clause keyword "" (rows.toList.map Decimal.natText) =
      rows.toList.map (lead ++ Decimal.natText ·) := by
  rw [clause_eq hlead]
  cases rows <;> simp

/-- The state holds what the log put into every clause, the queries that it refers to being shown by
their texts. -/
structure Shows (textOf : TextOf) (state : QueryState) (log : List (Entry Answer)) : Prop where
  selected : state.selected = log.flatMap Entry.columns
  source : state.source.map (FromClause.text textOf) = (log.flatMap Entry.sources).getLast?
  joins : state.joins = log.flatMap Entry.joins
  filters : state.filters = fragmentsOf (log.flatMap Entry.filters)
  groupBy : state.groupBy = log.flatMap Entry.groups
  having : state.having = log.flatMap Entry.havings
  orderBy : state.orderBy = log.flatMap Entry.orders
  limit : state.limit = (log.flatMap Entry.limits).getLast?
  offset : state.offset = (log.flatMap Entry.offsets).getLast?
  branches : state.branches.map (QueryState.branchText textOf) = log.flatMap Entry.branches
  commonTables : state.commonTables.map (CommonTable.text textOf) = log.flatMap Entry.tables
  raw : state.raw = (log.flatMap Entry.raws).getLast?

namespace Shows

variable {textOf : TextOf} {state : QueryState} {log : List (Entry Answer)}

theorem nil (textOf : TextOf) (schema : Option Schema) : Shows textOf { schema } [] := by
  constructor <;> rfl

/-- One more statement, on both sides. -/
theorem apply_statement (hshows : Shows textOf state log) (said : Statement String) :
    Shows textOf (state.apply said.call) (log ++ [.statement said]) := by
  -- Field by field: the longer log has the part of the statement behind the old parts, and that
  -- part is empty in every clause but one.
  constructor <;> rw [List.flatMap_append, List.flatMap_singleton]
  case selected =>
    rw [← hshows.selected]
    cases said <;> simp [Statement.call, QueryState.apply, Entry.columns]
  case source =>
    rw [List.getLast?_append, ← hshows.source]
    cases said <;> simp [Statement.call, QueryState.apply, Entry.sources, FromClause.text]
  case joins =>
    rw [← hshows.joins]
    cases said <;> simp [Statement.call, QueryState.apply, Entry.joins]
  case filters =>
    cases said with
    | filter connective condition =>
        simp only [Statement.call, QueryState.apply, Entry.filters]
        rw [fragmentsOf_append, ← hshows.filters]
    | _ => simp [Statement.call, QueryState.apply, Entry.filters, ← hshows.filters]
  case groupBy =>
    rw [← hshows.groupBy]
    cases said <;> simp [Statement.call, QueryState.apply, Entry.groups]
  case having =>
    rw [← hshows.having]
    cases said <;> simp [Statement.call, QueryState.apply, Entry.havings]
  case orderBy =>
    rw [← hshows.orderBy]
    cases said <;> simp [Statement.call, QueryState.apply, Entry.orders]
  case limit =>
    rw [List.getLast?_append, ← hshows.limit]
    cases said <;> simp [Statement.call, QueryState.apply, Entry.limits]
  case offset =>
    rw [List.getLast?_append, ← hshows.offset]
    cases said <;> simp [Statement.call, QueryState.apply, Entry.offsets]
  case branches =>
    rw [← hshows.branches]
    cases said <;> simp [Statement.call, QueryState.apply, Entry.branches]
  case commonTables =>
    rw [← hshows.commonTables]
    cases said <;> simp [Statement.call, QueryState.apply, Entry.tables, CommonTable.text]
  case raw =>
    rw [List.getLast?_append, ← hshows.raw]
    cases said <;> simp [Statement.call, QueryState.apply, Entry.raws]

/-- One more query in use, on both sides.  A snapshot has to have the text of the query that it was
taken of. -/
theorem apply_attachment (hshows : Shows textOf state log) (store : Store) {role : Role String}
    {other : QueryId} (hsnapshot : role.clause ≠ .branches → textOf ⟨store.size⟩ = textOf other) :
    Shows textOf (state.apply (Entry.call store (.attachment role other)))
      (log ++ [.attachment role (textOf other)]) := by
  constructor <;> rw [List.flatMap_append, List.flatMap_singleton]
  case selected =>
    cases role <;> simpa [Entry.call, QueryState.apply, Entry.columns] using hshows.selected
  case joins =>
    cases role <;> simpa [Entry.call, QueryState.apply, Entry.joins] using hshows.joins
  case filters =>
    cases role <;> simpa [Entry.call, QueryState.apply, Entry.filters] using hshows.filters
  case groupBy =>
    cases role <;> simpa [Entry.call, QueryState.apply, Entry.groups] using hshows.groupBy
  case having =>
    cases role <;> simpa [Entry.call, QueryState.apply, Entry.havings] using hshows.having
  case orderBy =>
    cases role <;> simpa [Entry.call, QueryState.apply, Entry.orders] using hshows.orderBy
  case limit =>
    cases role <;> simpa [Entry.call, QueryState.apply, Entry.limits] using hshows.limit
  case offset =>
    cases role <;> simpa [Entry.call, QueryState.apply, Entry.offsets] using hshows.offset
  case raw =>
    cases role <;> simpa [Entry.call, QueryState.apply, Entry.raws] using hshows.raw
  case branches =>
    rw [← hshows.branches]
    cases role <;> simp [Entry.call, QueryState.apply, Entry.branches, QueryState.branchText]
  case source =>
    rw [List.getLast?_append, ← hshows.source]
    cases role with
    | operand operator | commonTable name => simp [Entry.call, QueryState.apply, Entry.sources]
    | subquery name =>
        have htext := hsnapshot (by simp [Role.clause])
        simp [Entry.call, QueryState.apply, Entry.sources, FromClause.text, htext]
  case commonTables =>
    rw [← hshows.commonTables]
    cases role with
    | operand operator | subquery name => simp [Entry.call, QueryState.apply, Entry.tables]
    | commonTable name =>
        have htext := hsnapshot (by simp [Role.clause])
        simp [Entry.call, QueryState.apply, Entry.tables, CommonTable.text, htext]

/-- A state that holds what the log put into it has the text of the log. -/
theorem text_eq (hshows : Shows textOf state log) : state.text textOf = textOfLog log := by
  have htables : (log.flatMap Entry.tables).mapM id =
      state.commonTables.mapM (CommonTable.text textOf) := by
    rw [← hshows.commonTables, List.mapM_map]
    rfl
  have hsource : (log.flatMap Entry.sources).getLast?.toList.mapM id =
      state.source.toList.mapM (FromClause.text textOf) := by
    rw [← hshows.source]
    cases state.source <;> simp
  have hbranches : (log.flatMap Entry.branches).mapM id =
      state.branches.mapM (QueryState.branchText textOf) := by
    rw [← hshows.branches, List.mapM_map]
    rfl
  unfold QueryState.text QueryState.headText textOfLog
  rw [← hshows.raw]
  cases state.raw with
  | some sql => rfl
  | none =>
      simp only [QueryState.withClause, QueryState.lines, QueryState.selectLine]
      rw [htables, hsource, hbranches, whereParts_eq, ← hshows.filters, ← hshows.selected,
        ← hshows.joins, ← hshows.groupBy, ← hshows.having, ← hshows.orderBy, ← hshows.limit,
        ← hshows.offset]
      have hfilters := QueryState.clause_eq (show "WHERE" ++ " " = "WHERE " by decide) " "
      have hgroupBy := QueryState.clause_eq (show "GROUP BY" ++ " " = "GROUP BY " by decide) ", "
      have hhaving := QueryState.clause_eq (show "HAVING" ++ " " = "HAVING " by decide) " AND "
      have horderBy := QueryState.clause_eq (show "ORDER BY" ++ " " = "ORDER BY " by decide) ", "
      have hlimit := QueryState.clause_rows (show "LIMIT" ++ " " = "LIMIT " by decide)
      have hoffset := QueryState.clause_rows (show "OFFSET" ++ " " = "OFFSET " by decide)
      simp only [bind_assoc, pure_bind, hfilters, hgroupBy, hhaving, horderBy, hlimit, hoffset,
        Option.isSome_none, Bool.false_eq_true, if_false]
      -- Both sides read the same parts in the same order; what is behind `FROM` is at most one.
      cases state.source with
      | none =>
          have hfrom : QueryState.clause "FROM" "" [] = [].map ("FROM " ++ ·) := rfl
          simp only [Option.toList_none, List.mapM_nil, pure_bind, hfrom]
      | some source =>
          have hfrom (sql : String) :
              QueryState.clause "FROM" "" [sql] = [sql].map ("FROM " ++ ·) := by
            simp [QueryState.clause]
          simp only [Option.toList_some, List.mapM_cons, List.mapM_nil, bind_assoc, pure_bind,
            hfrom]

end Shows

/-! ## The log of a run -/

/-- The query that an entry uses. -/
def Entry.used {ρ : Type} : Entry ρ → List ρ
  | .statement _ => []
  | .attachment _ other => [other]

/-- The query of which an entry takes a snapshot. -/
def Entry.copied {ρ : Type} : Entry ρ → List ρ
  | .attachment (.subquery _) other => [other]
  | .attachment (.commonTable _) other => [other]
  | _ => []

theorem Entry.copied_subset_used {ρ : Type} (entry : Entry ρ) : entry.copied ⊆ entry.used := by
  rcases entry with said | ⟨_ | _ | _, other⟩ <;> simp [copied, used]

namespace Session

/-- The queries of which a run takes snapshots for `query` do not change from then on. -/
def Undisturbed (query : QueryId) : Session → List (Action String) → Prop
  | _, [] => True
  | session, action :: rest =>
      (∀ other ∈ (log query session [action]).flatMap Entry.copied,
        other ∉ session.mutated (action :: rest)) ∧
      Undisturbed query (session.step action) rest

instance decidableUndisturbed (query : QueryId) (session : Session) :
    (actions : List (Action String)) → Decidable (Undisturbed query session actions)
  | [] => isTrue trivial
  | action :: rest =>
      have := decidableUndisturbed query (session.step action) rest
      inferInstanceAs (Decidable (_ ∧ _))

/-- The log of a query, the queries in use being shown by the texts that they have in the end. -/
def shown (query : QueryId) (session : Session) (actions : List (Action String)) :
    List (Entry Answer) :=
  (log query session actions).map (Entry.map (session.run actions).store.text)

/-- A snapshot of a query that does not change has the text of that query. -/
theorem text_snapshot_of_not_mem_mutated {session : Session} {action : Action String}
    {rest : List (Action String)} {query other : QueryId} {role : Role String}
    (hseparated : session.Separated)
    (hstated : session.stated? action = some (query, .attachment role other))
    (hrole : role.clause ≠ .branches) (hother : other ∉ session.mutated (action :: rest)) :
    (session.run (action :: rest)).store.text ⟨session.store.size⟩ =
      (session.run (action :: rest)).store.text other := by
  have hheld := hseparated.held other (mem_handles_of_attachment hstated)
  have hsnapshot := (separated_step hseparated action).snapshot_run
    (mem_snapshots_step hseparated hstated hrole) rest
  have hstate : (session.run (action :: rest)).store.state ⟨session.store.size⟩ =
      (session.run (action :: rest)).store.state other := by
    rw [state_run_of_not_mem_mutated hheld hother, run_cons, hsnapshot.2,
      state_step_snapshot hseparated hstated hrole]
  rw [Store.text_eq, Store.text_eq, hstate]

/-- A run adds to the state of a query what its log says. -/
theorem shows_run {query : QueryId} {actions : List (Action String)} {session : Session}
    {textOf : TextOf} {before : List (Entry Answer)} (hseparated : session.Separated)
    (hquery : session.store.Holds query) (hundisturbed : Undisturbed query session actions)
    (hfinal : (session.run actions).store.text = textOf)
    (hshows : Shows textOf (session.store.state query) before) :
    Shows textOf ((session.run actions).store.state query)
      (before ++ (log query session actions).map (Entry.map textOf)) := by
  -- The log before the run is general, since it grows by the entry of every step.
  induction actions generalizing session before with
  | nil =>
      rw [log, List.map_nil, List.append_nil]
      exact hshows
  | cons action rest ih =>
      have hseparated' := separated_step hseparated action
      have hquery' := hquery.mono (session.size_le_step action)
      rw [run_cons, log_cons]
      cases hstated : session.stated? action with
      | none =>
          refine ih hseparated' hquery' hundisturbed.2 hfinal ?_
          rw [state_step_of_ne hquery (by simp [hstated])]
          exact hshows
      | some stated =>
          obtain ⟨target, entry⟩ := stated
          by_cases htarget : target = query
          · subst htarget
            simp only [if_true, List.map_cons]
            rw [List.append_cons]
            refine ih hseparated' hquery' hundisturbed.2 hfinal ?_
            rw [state_step_self hstated hquery]
            cases entry with
            | statement said => exact hshows.apply_statement said
            | attachment role other =>
                refine hshows.apply_attachment session.store fun hrole => ?_
                rw [← hfinal]
                refine text_snapshot_of_not_mem_mutated hseparated hstated hrole
                  (hundisturbed.1 other ?_)
                cases role with
                | operand operator => exact absurd rfl hrole
                | subquery name | commonTable name => simp [log, hstated, Entry.copied]
          · simp only [if_neg htarget]
            refine ih hseparated' hquery' hundisturbed.2 hfinal ?_
            rw [state_step_of_ne hquery fun other said hsaid heq => ?_]
            · exact hshows
            · rw [hstated] at hsaid
              cases hsaid
              exact htarget heq.symm

/-! ## Runs about one query -/

/-- A query keeps its text through a run that changes nothing which it reaches. -/
theorem text_run_of_not_reaches {session : Session} {actions : List (Action String)}
    {other : QueryId} (hseparated : session.Separated) (hother : session.store.Holds other)
    (hreaches : ∀ changed ∈ session.mutated actions, ¬ session.store.Reaches other changed) :
    (session.run actions).store.text other = session.store.text other := by
  refine Store.text_congr (fun _ hkept _ hnext => hkept.snoc hnext) (fun kept hkept => ?_)
    (Store.Reaches.refl other)
  have hheld := hseparated.holds_of_reaches hother hkept
  exact state_run_of_not_mem_mutated hheld fun hmem => hreaches kept hmem hkept

/-- The log of a run begins with that of its first action. -/
theorem log_cons_append (query : QueryId) (session : Session) (action : Action String)
    (rest : List (Action String)) :
    log query session (action :: rest) =
      log query session [action] ++ log query (session.step action) rest := by
  cases hstated : session.stated? action with
  | none => simp [log, hstated]
  | some stated => by_cases htarget : stated.1 = query <;> simp [log, hstated, htarget]

theorem undisturbed_of_used {query : QueryId} {session : Session} {actions : List (Action String)}
    (hused : ∀ entry ∈ log query session actions, ∀ other ∈ entry.used,
      other ∉ session.mutated actions) : Undisturbed query session actions := by
  induction actions generalizing session with
  | nil => trivial
  | cons action rest ih =>
      rw [log_cons_append] at hused
      constructor
      · intro other hother
        obtain ⟨entry, hentry, hcopied⟩ := List.mem_flatMap.mp hother
        exact hused entry (List.mem_append_left _ hentry) other (entry.copied_subset_used hcopied)
      · refine ih fun entry hentry other hother hmutated => ?_
        refine hused entry (List.mem_append_right _ hentry) other hother ?_
        rw [mutated_cons]
        exact List.mem_append_right _ hmutated

end Session

theorem SameClauses.map {ρ ρ' : Type} {log log' : List (Entry ρ)} (hsame : SameClauses log log')
    (f : ρ → ρ') : SameClauses (log.map (Entry.map f)) (log'.map (Entry.map f)) := by
  intro clause
  have hclause : (fun entry : Entry ρ' => decide (entry.clause = clause)) ∘ Entry.map f =
      fun entry => decide (entry.clause = clause) := by
    funext entry
    cases entry <;> rfl
  rw [List.filter_map, List.filter_map, hclause, hsame clause]

namespace Session

/-- The session in which a fresh query has just been made. -/
def fresh (past : List (Action String)) (schema : Option Schema) : Session :=
  (({} : Session).run past).step (.create schema)

/-- That query. -/
def freshQuery (past : List (Action String)) : QueryId :=
  ⟨(({} : Session).run past).store.size⟩

theorem separated_fresh (past : List (Action String)) (schema : Option Schema) :
    (fresh past schema).Separated :=
  separated_step (separated_run past separated_empty) _

/-- A fresh query has the text of its log. -/
theorem text_run_fresh {past : List (Action String)} {schema : Option Schema}
    {actions : List (Action String)}
    (hundisturbed : Undisturbed (freshQuery past) (fresh past schema) actions) :
    ((fresh past schema).run actions).store.text (freshQuery past) =
      textOfLog (shown (freshQuery past) (fresh past schema) actions) := by
  have hempty : (fresh past schema).store.state (freshQuery past) = { schema } :=
    Store.state_add_next _ _
  have hquery : (fresh past schema).store.Holds (freshQuery past) := Store.holds_next_add _ _
  have hshows := shows_run (separated_fresh past schema) hquery hundisturbed rfl
    (hempty ▸ Shows.nil _ schema)
  rw [Store.text_eq]
  exact hshows.text_eq

/-- **The log settles the text.**  A fresh query has the text that the log of the run stands for,
the queries in use being shown by the texts that they have in the end: of those of which a snapshot
was taken, no later statement is about them.  Therefore two runs whose logs agree clause by clause
give the same text; and so do two runs that use the same earlier queries clause by clause, if
nothing changes which these reach. -/
theorem text_fresh_eq_textOfLog (past : List (Action String)) (schema : Option Schema)
    (actions : List (Action String)) :
    let start := fresh past schema
    let query := freshQuery past
    (Undisturbed query start actions →
      (start.run actions).store.text query = textOfLog (shown query start actions) ∧
      ∀ (past' : List (Action String)) (schema' : Option Schema) (actions' : List (Action String)),
        Undisturbed (freshQuery past') (fresh past' schema') actions' →
        SameClauses (shown query start actions)
          (shown (freshQuery past') (fresh past' schema') actions') →
        (start.run actions).store.text query =
          ((fresh past' schema').run actions').store.text (freshQuery past')) ∧
    ∀ actions' : List (Action String),
      (∀ entry ∈ log query start actions ++ log query start actions', ∀ other ∈ entry.used,
        start.store.Holds other ∧
        ∀ changed ∈ start.mutated actions ++ start.mutated actions',
          ¬ start.store.Reaches other changed) →
      SameClauses (log query start actions) (log query start actions') →
      (start.run actions).store.text query = (start.run actions').store.text query := by
  intro start query
  constructor
  · intro hundisturbed
    have htext := text_run_fresh hundisturbed
    refine ⟨htext, fun past' schema' actions' hundisturbed' hsame => ?_⟩
    rw [htext, text_run_fresh hundisturbed', textOfLog_congr hsame]
  · intro actions' hused hsame
    -- Either run reads the texts of the queries in use as they were at the start.
    have hsettled : ∀ run : List (Action String),
        (∀ entry ∈ log query start run,
          entry ∈ log query start actions ++ log query start actions') →
        (∀ changed ∈ start.mutated run, changed ∈ start.mutated actions ++ start.mutated actions') →
        (start.run run).store.text query =
          textOfLog ((log query start run).map (Entry.map start.store.text)) := by
      intro run hlog hmutated
      have hundisturbed : Undisturbed query start run :=
        undisturbed_of_used fun entry hentry other hother hmem =>
          (hused entry (hlog entry hentry) other hother).2 other (hmutated other hmem) (.refl other)
      rw [text_run_fresh hundisturbed]
      refine congrArg textOfLog (List.map_congr_left fun entry hentry => ?_)
      cases entry with
      | statement said => rfl
      | attachment role other =>
          obtain ⟨hheld, hreaches⟩ := hused _ (hlog _ hentry) other (List.mem_singleton_self _)
          refine congrArg (Entry.attachment role) ?_
          exact text_run_of_not_reaches (separated_fresh past schema) hheld
            fun changed hchanged => hreaches changed (hmutated changed hchanged)
    rw [hsettled actions (fun _ => List.mem_append_left _) fun _ => List.mem_append_left _,
      hsettled actions' (fun _ => List.mem_append_right _) fun _ => List.mem_append_right _]
    exact textOfLog_congr (hsame.map start.store.text)

/-- A query over `events`. -/
def eventQuery : List (Action String) :=
  [.create none, .state 0 (.table "events")]

/-- A query over a snapshot of it, through two handles. -/
def overEvents : List (Action String) :=
  [.clone 1, .state 2 (.filter (some .or) (.raw "a = 1")), .attach 1 (.subquery "s") 0,
    .state 1 (.filter (some .and) (.raw "b = 2"))]

/-- The same clauses, filled in another order through one handle. -/
def overEventsReordered : List (Action String) :=
  [.attach 1 (.subquery "s") 0, .state 1 (.filter (some .or) (.raw "a = 1")),
    .state 1 (.filter (some .and) (.raw "b = 2"))]

/-- Both orders give one text: their logs agree clause by clause, whether the query in use is shown
by its text or not. -/
theorem text_overEvents :
    let start := fresh eventQuery none
    (Undisturbed ⟨1⟩ start overEvents ∧ Undisturbed ⟨1⟩ start overEventsReordered ∧
      SameClauses (shown ⟨1⟩ start overEvents) (shown ⟨1⟩ start overEventsReordered) ∧
      (start.run overEvents).store.text ⟨1⟩ = textOfLog (shown ⟨1⟩ start overEvents) ∧
      (start.run overEvents).store.text ⟨1⟩ = (start.run overEventsReordered).store.text ⟨1⟩) ∧
    ((∀ entry ∈ log ⟨1⟩ start overEvents ++ log ⟨1⟩ start overEventsReordered,
        ∀ other ∈ entry.used, start.store.Holds other ∧
        ∀ changed ∈ start.mutated overEvents ++ start.mutated overEventsReordered,
          ¬ start.store.Reaches other changed) ∧
      SameClauses (log ⟨1⟩ start overEvents) (log ⟨1⟩ start overEventsReordered) ∧
      (start.run overEvents).store.text ⟨1⟩ =
        (start.run overEventsReordered).store.text ⟨1⟩) := by
  intro start
  have hundisturbed : Undisturbed ⟨1⟩ start overEvents := by decide
  have hundisturbed' : Undisturbed ⟨1⟩ start overEventsReordered := by decide
  have hlog : log ⟨1⟩ start overEvents =
      [.statement (.filter (some .or) (.raw "a = 1")), .attachment (.subquery "s") ⟨0⟩,
        .statement (.filter (some .and) (.raw "b = 2"))] := rfl
  have hlog' : log ⟨1⟩ start overEventsReordered =
      [.attachment (.subquery "s") ⟨0⟩, .statement (.filter (some .or) (.raw "a = 1")),
        .statement (.filter (some .and) (.raw "b = 2"))] := rfl
  have hsame : SameClauses (log ⟨1⟩ start overEvents) (log ⟨1⟩ start overEventsReordered) := by
    intro clause
    rw [hlog, hlog']
    cases clause <;> rfl
  have hevents : (start.run overEvents).store.text ⟨0⟩ =
      (start.run overEventsReordered).store.text ⟨0⟩ := rfl
  have hshown : SameClauses (shown ⟨1⟩ start overEvents) (shown ⟨1⟩ start overEventsReordered) := by
    intro clause
    rw [shown, shown, hlog, hlog']
    simp only [List.map_cons, List.map_nil, Entry.map, hevents]
    cases clause <;> rfl
  have hused : ∀ entry ∈ log ⟨1⟩ start overEvents ++ log ⟨1⟩ start overEventsReordered,
      ∀ other ∈ entry.used, start.store.Holds other ∧
      ∀ changed ∈ start.mutated overEvents ++ start.mutated overEventsReordered,
        ¬ start.store.Reaches other changed := by
    intro entry hentry other hother
    have hzero : ∀ entry ∈ log ⟨1⟩ start overEvents ++ log ⟨1⟩ start overEventsReordered,
        ∀ other ∈ entry.used, other = ⟨0⟩ := by decide
    obtain rfl := hzero entry hentry other hother
    refine ⟨Nat.zero_lt_two, fun changed hchanged hpath => ?_⟩
    have hmutated : ∀ changed ∈ start.mutated overEvents ++ start.mutated overEventsReordered,
        changed ≠ ⟨0⟩ := by decide
    -- The first query refers to no query, so that it reaches itself alone.
    have hclosed : ∀ query, query = (⟨0⟩ : QueryId) →
        ∀ next ∈ (start.store.state query).references, next = ⟨0⟩ := by
      rintro query rfl
      decide
    exact hmutated changed hchanged (hpath.mem hclosed rfl)
  obtain ⟨hlogs, hrest⟩ := text_fresh_eq_textOfLog eventQuery none overEvents
  obtain ⟨htext, hequal⟩ := hlogs hundisturbed
  exact ⟨⟨hundisturbed, hundisturbed', hshown, htext,
    hequal eventQuery none _ hundisturbed' hshown⟩, hused, hsame,
    hrest overEventsReordered hused hsame⟩

end Session
end QueryArtifacts
