import QueryArtifacts.Query.Text

/-!
# Sessions

What a caller can do with queries: make them, clone and copy handles, and make statements through
the handles that it holds.  Texts are of a type `τ`, so that one run can be written down once and
carried out with different texts.

* `Statement` — a statement about one query that names no other query.
* `Role` — the part that another query plays in a statement.
* `Action` — one step of a caller; queries are named by the handles given out so far.
* `Session` — the store and the handles, with `step` and `run`.
* `Session.mutated` — the queries about which a run makes statements.
* `Session.log` — the statements that a run makes about one query, as entries.
* `Clause` — the part of a query that an entry fills.

A clone is a second handle to the same query; a copy is a handle to a query of its own.  Snapshots
are copies to which no handle is given out.
-/

namespace QueryArtifacts

/-- What a column is compared with: a text, or a value that is no text. -/
inductive Operand (τ : Type) where
  | text (text : τ)
  | value (value : Literal) (hkind : value.kind ≠ .string)

/-- A condition with texts of type `τ`. -/
inductive Predicate (τ : Type) where
  | raw (sql : τ)
  | compare (column operator : τ) (operand : Operand τ)

/-- A statement about one query that names no other query. -/
inductive Statement (τ : Type) where
  | select (columns : List τ)
  | table (name : τ)
  | filter (connective : Option Connective) (condition : Predicate τ)
  | join (kind : JoinKind) (table condition : τ)
  | groupBy (expressions : List τ)
  | having (condition : Predicate τ)
  | orderBy (expressions : List τ)
  | limit (rows : Nat)
  | offset (rows : Nat)
  | commonTable (name sql : τ)
  | raw (sql : τ)

/-- The part that a query plays in a statement about another one. -/
inductive Role (τ : Type) where
  | operand (operator : SetOperator)
  | subquery (name : τ)
  | commonTable (name : τ)

/-- A handle, by its place in the order in which handles were given out. -/
abbrev Handle := Nat

/-- One step of a caller. -/
inductive Action (τ : Type) where
  | create (schema : Option Schema)
  | clone (source : Handle)
  | copy (source : Handle)
  | state (target : Handle) (statement : Statement τ)
  | attach (target : Handle) (role : Role τ) (other : Handle)

/-! ## Carrying an action over to other texts -/

section Map

variable {τ σ : Type} (f : τ → σ)

/-- A text is carried over, a value stays. -/
def Operand.map : Operand τ → Operand σ
  | .text sql => .text (f sql)
  | .value literal hkind => .value literal hkind

/-- A condition over the carried texts. -/
def Predicate.map : Predicate τ → Predicate σ
  | .raw sql => .raw (f sql)
  | .compare column operator operand => .compare (f column) (f operator) (operand.map f)

/-- The same statement over the carried texts. -/
def Statement.map : Statement τ → Statement σ
  | .select columns => .select (columns.map f)
  | .table name => .table (f name)
  | .filter connective condition => .filter connective (condition.map f)
  | .join kind name condition => .join kind (f name) (f condition)
  | .groupBy expressions => .groupBy (expressions.map f)
  | .having condition => .having (condition.map f)
  | .orderBy expressions => .orderBy (expressions.map f)
  | .limit rows => .limit rows
  | .offset rows => .offset rows
  | .commonTable name sql => .commonTable (f name) (f sql)
  | .raw sql => .raw (f sql)

/-- The same role under the carried name. -/
def Role.map : Role τ → Role σ
  | .operand operator => .operand operator
  | .subquery name => .subquery (f name)
  | .commonTable name => .commonTable (f name)

/-- The same action over the carried texts. -/
def Action.map : Action τ → Action σ
  | .create schema => .create schema
  | .clone source => .clone source
  | .copy source => .copy source
  | .state target said => .state target (said.map f)
  | .attach target role other => .attach target (role.map f) other

end Map

/-! ## The effect on a store -/

/-- The value that an operand stands for. -/
def Operand.literal : Operand String → Literal
  | .text sql => .string sql
  | .value literal _ => literal

/-- The condition that is put into a clause. -/
def Predicate.condition : Predicate String → Condition
  | .raw sql => .raw sql
  | .compare column operator operand => .compare column operator operand.literal

/-- The call that a statement stands for. -/
def Statement.call : Statement String → Call
  | .select columns => .select columns
  | .table name => .source (.table name)
  | .filter connective condition => .filter connective condition.condition
  | .join kind name condition => .join ⟨kind, name, condition⟩
  | .groupBy expressions => .groupBy expressions
  | .having condition => .having condition.condition
  | .orderBy expressions => .orderBy expressions
  | .limit rows => .limit rows
  | .offset rows => .offset rows
  | .commonTable name sql => .commonTable ⟨name, .sql sql⟩
  | .raw sql => .raw sql

/-- Use `other` in a statement about `query`. -/
def Store.attach (store : Store) (query : QueryId) (role : Role String) (other : QueryId) : Store :=
  match role with
  | .operand operator => store.call query (.combine operator other)
  | .subquery name => store.selectFrom query name other
  | .commonTable name => store.withQuery query name other

/-! ## Sessions -/

/-- The queries made so far and the handles given out, in order. -/
structure Session where
  store : Store := .empty
  handles : List QueryId := []
  deriving Inhabited

/-- An entry of the log of one query: a statement, or the use of another query, which is shown as a
`ρ`. -/
inductive Entry (ρ : Type) where
  | statement (statement : Statement String)
  | attachment (role : Role String) (other : ρ)

/-- Show the other queries differently. -/
def Entry.map {ρ ρ' : Type} (f : ρ → ρ') : Entry ρ → Entry ρ'
  | .statement said => .statement said
  | .attachment role other => .attachment role (f other)

/-- The clauses of a query, each filled by statements of its own. -/
inductive Clause where
  | commonTables
  | select
  | source
  | joins
  | filters
  | groupBy
  | having
  | orderBy
  | limit
  | offset
  | branches
  | raw
  deriving DecidableEq, Repr

/-- The clause that a statement fills. -/
def Statement.clause {τ : Type} : Statement τ → Clause
  | .select _ => .select
  | .table _ => .source
  | .filter _ _ => .filters
  | .join _ _ _ => .joins
  | .groupBy _ => .groupBy
  | .having _ => .having
  | .orderBy _ => .orderBy
  | .limit _ => .limit
  | .offset _ => .offset
  | .commonTable _ _ => .commonTables
  | .raw _ => .raw

/-- The clause in which a query plays its part. -/
def Role.clause {τ : Type} : Role τ → Clause
  | .operand _ => .branches
  | .subquery _ => .source
  | .commonTable _ => .commonTables

/-- The clause that an entry fills. -/
def Entry.clause {ρ : Type} : Entry ρ → Clause
  | .statement said => said.clause
  | .attachment role _ => role.clause

namespace Session

/-- The query behind a handle. -/
def query? (session : Session) (handle : Handle) : Option QueryId :=
  session.handles[handle]?

/-- The session in which a handle to a new query of a store is given out. -/
def grant (session : Session) (made : QueryId × Store) : Session where
  store := made.2
  handles := session.handles ++ [made.1]

/-- What an action states: the query it is about and what is said.  An action through a handle that
has not been given out states nothing. -/
def stated? (session : Session) : Action String → Option (QueryId × Entry QueryId)
  | .state target said =>
      (session.query? target).map fun query => (query, .statement said)
  | .attach target role other =>
      match session.query? target, session.query? other with
      | some query, some other => some (query, .attachment role other)
      | _, _ => none
  | _ => none

/-- The store after an entry has been made about a query. -/
def record (store : Store) (query : QueryId) : Entry QueryId → Store
  | .statement said => store.call query said.call
  | .attachment role other => store.attach query role other

/-- The session after one action. -/
def step (session : Session) (action : Action String) : Session :=
  match action with
  | .create schema => session.grant (session.store.create schema)
  | .clone source =>
      match session.query? source with
      | some query => { session with handles := session.handles ++ [query] }
      | none => session
  | .copy source =>
      match session.query? source with
      | some query => session.grant (session.store.copy query)
      | none => session
  | action =>
      match session.stated? action with
      | some (query, entry) => { session with store := record session.store query entry }
      | none => session

/-- The session after a run of actions. -/
def run (session : Session) (actions : List (Action String)) : Session :=
  actions.foldl step session

/-- The queries about which a run makes statements, in order. -/
def mutated (session : Session) : List (Action String) → List QueryId
  | [] => []
  | action :: rest =>
      ((session.stated? action).map Prod.fst).toList ++ mutated (session.step action) rest

/-- What a run states about one query, in order. -/
def log (query : QueryId) (session : Session) : List (Action String) → List (Entry QueryId)
  | [] => []
  | action :: rest =>
      match session.stated? action with
      | some (target, entry) =>
          if target = query then entry :: log query (session.step action) rest
          else log query (session.step action) rest
      | none => log query (session.step action) rest

/-! ## What one step can do -/

@[simp] theorem run_cons (session : Session) (action : Action String)
    (rest : List (Action String)) :
    session.run (action :: rest) = (session.step action).run rest := rfl

/-- The three things that a step can do: give out a handle to a new query, give out further handles
to queries that have one, and make an entry about a query. -/
inductive Effect (session : Session) (action : Action String) : Prop where
  | made (new : QueryState)
      (hnew : (∃ schema, new = { schema }) ∨ ∃ query, new = session.store.state query)
      (hstated : session.stated? action = none)
      (hstep : session.step action = session.grant (session.store.add new))
  | named (handles : List QueryId) (hsubset : handles ⊆ session.handles)
      (hstated : session.stated? action = none)
      (hstep : session.step action = { session with handles })
  | said (query : QueryId) (entry : Entry QueryId)
      (hstated : session.stated? action = some (query, entry))
      (hstep : session.step action = { session with store := record session.store query entry })

theorem mem_handles_of_query? {session : Session} {handle : Handle} {query : QueryId}
    (hquery : session.query? handle = some query) : query ∈ session.handles :=
  List.mem_of_getElem? hquery

theorem step_effect (session : Session) (action : Action String) : session.Effect action := by
  -- An action through a handle that was never given out changes nothing.
  have idle (hstated : session.stated? action = none) (hstep : session.step action = session) :
      session.Effect action :=
    .named session.handles (List.Subset.refl _) hstated hstep
  cases action with
  | create schema => exact .made { schema } (Or.inl ⟨schema, rfl⟩) rfl rfl
  | clone source =>
      cases hquery : session.query? source with
      | none => exact idle rfl (by simp only [step, hquery])
      | some query =>
          refine .named (session.handles ++ [query]) (fun other hother => ?_) rfl
            (by simp only [step, hquery])
          rcases List.mem_append.mp hother with hold | hnew
          · exact hold
          · rw [List.mem_singleton.mp hnew]
            exact mem_handles_of_query? hquery
  | copy source =>
      cases hquery : session.query? source with
      | none => exact idle rfl (by simp only [step, hquery])
      | some query =>
          exact .made (session.store.state query) (Or.inr ⟨query, rfl⟩) rfl
            (by simp only [step, hquery, Store.copy])
  | state target said =>
      cases hstated : session.stated? (.state target said) with
      | none => exact idle hstated (by simp only [step, hstated])
      | some stated => exact .said stated.1 stated.2 hstated (by simp only [step, hstated])
  | attach target role other =>
      cases hstated : session.stated? (.attach target role other) with
      | none => exact idle hstated (by simp only [step, hstated])
      | some stated => exact .said stated.1 stated.2 hstated (by simp only [step, hstated])

/-- A statement is made through a handle. -/
theorem mem_handles_of_stated? {session : Session} {action : Action String} {query : QueryId}
    {entry : Entry QueryId} (hstated : session.stated? action = some (query, entry)) :
    query ∈ session.handles := by
  cases action with
  | create | clone | copy => simp [stated?] at hstated
  | state target said =>
      obtain ⟨found, hfound, heq⟩ := Option.map_eq_some_iff.mp hstated
      obtain ⟨rfl, -⟩ := Prod.mk.inj heq
      exact mem_handles_of_query? hfound
  | attach target role other =>
      simp only [stated?] at hstated
      split at hstated
      · rename_i found _ hfound _
        obtain ⟨rfl, -⟩ := Prod.mk.inj (Option.some.inj hstated)
        exact mem_handles_of_query? hfound
      · cases hstated

/-- A query that is used in a statement has a handle too. -/
theorem mem_handles_of_attachment {session : Session} {action : Action String}
    {query other : QueryId} {role : Role String}
    (hstated : session.stated? action = some (query, .attachment role other)) :
    other ∈ session.handles := by
  cases action with
  | create | clone | copy => simp [stated?] at hstated
  | state target said =>
      obtain ⟨found, -, heq⟩ := Option.map_eq_some_iff.mp hstated
      cases heq
  | attach target role other =>
      simp only [stated?] at hstated
      split at hstated
      · rename_i _ found _ hfound
        cases hstated
        exact mem_handles_of_query? hfound
      · cases hstated

end Session

/-! ## An entry as one call -/

/-- The store in which the snapshot that an entry asks for has been made. -/
def Entry.prepared (store : Store) : Entry QueryId → Store
  | .attachment (.subquery _) other => (store.copy other).2
  | .attachment (.commonTable _) other => (store.copy other).2
  | _ => store

/-- The call that an entry comes down to; its snapshot is the next query of the store. -/
def Entry.call (store : Store) : Entry QueryId → Call
  | .statement said => said.call
  | .attachment (.operand operator) other => .combine operator other
  | .attachment (.subquery name) _ => .source (.subquery ⟨store.size⟩ name)
  | .attachment (.commonTable name) _ => .commonTable ⟨name, .query ⟨store.size⟩⟩

theorem Session.record_eq (store : Store) (query : QueryId) (entry : Entry QueryId) :
    record store query entry = (entry.prepared store).call query (entry.call store) := by
  cases entry with
  | statement said => rfl
  | attachment role other => cases role <;> rfl

end QueryArtifacts
