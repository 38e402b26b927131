import QueryArtifacts.Query.Condition
import QueryArtifacts.Schema.Basic

/-!
# The state of a query

What has been said about one query so far, clause by clause.  Other queries are
referred to by `QueryId`.

* `QueryState.references` — the queries that the text of a state depends on.
* `Call` — one statement about a query.
* `QueryState.apply` — the effect of a call: most clauses collect, a table, a
  limit, an offset and a raw text replace what was said before.
-/

namespace QueryArtifacts

/-- The identity of a query in a store. -/
structure QueryId where
  index : Nat
  deriving DecidableEq, Repr, Inhabited

/-- What a query selects from. -/
inductive FromClause where
  | table (name : String)
  | subquery (query : QueryId) (name : String)
  deriving DecidableEq, Repr

/-- The body of a common table expression. -/
inductive CommonTableBody where
  | query (query : QueryId)
  | sql (text : String)
  deriving DecidableEq, Repr

/-- A common table expression. -/
structure CommonTable where
  name : String
  body : CommonTableBody
  deriving DecidableEq, Repr

/-- The kinds of joins. -/
inductive JoinKind where
  | inner
  | left
  | right
  | full
  deriving DecidableEq, Repr, Inhabited

/-- The SQL text of a kind of join. -/
def JoinKind.sql : JoinKind → String
  | .inner => "INNER"
  | .left => "LEFT"
  | .right => "RIGHT"
  | .full => "FULL"

/-- A joined table. -/
structure Join where
  kind : JoinKind
  table : String
  condition : String
  deriving DecidableEq, Repr

/-- The SQL text of a join. -/
def Join.sql (join : Join) : String :=
  join.kind.sql ++ " JOIN " ++ join.table ++ " ON " ++ join.condition

/-- The operators between whole queries. -/
inductive SetOperator where
  | union
  | unionAll
  | unionDistinct
  | intersect
  | except
  deriving DecidableEq, Repr

namespace SetOperator

/-- The SQL text of a set operator. -/
def sql : SetOperator → String
  | .union => "UNION"
  | .unionAll => "UNION ALL"
  | .unionDistinct => "UNION DISTINCT"
  | .intersect => "INTERSECT"
  | .except => "EXCEPT"

/-- All set operators. -/
def all : List SetOperator :=
  [.union, .unionAll, .unionDistinct, .intersect, .except]

end SetOperator

/-- What has been said about a query. -/
structure QueryState where
  schema : Option Schema := none
  selected : List String := []
  source : Option FromClause := none
  joins : List Join := []
  filters : List Fragment := []
  groupBy : List String := []
  having : List Condition := []
  orderBy : List String := []
  limit : Option Nat := none
  offset : Option Nat := none
  branches : List (SetOperator × QueryId) := []
  commonTables : List CommonTable := []
  raw : Option String := none
  deriving Inhabited

namespace QueryState

/-- The snapshots that a state owns: the bodies of its common table expressions
and the subquery that it selects from. -/
def snapshots (state : QueryState) : List QueryId :=
  (state.commonTables.filterMap fun table =>
    match table.body with
    | .query query => some query
    | .sql _ => none) ++
  match state.source with
  | some (.subquery query _) => [query]
  | _ => []

/-- The queries that a state is combined with, in order. -/
def operands (state : QueryState) : List QueryId :=
  state.branches.map Prod.snd

/-- The queries that a state refers to. -/
def references (state : QueryState) : List QueryId :=
  state.snapshots ++ state.operands

end QueryState

/-- A statement about one query.  A snapshot named here has already been made. -/
inductive Call where
  | select (columns : List String)
  | source (source : FromClause)
  | filter (connective : Option Connective) (condition : Condition)
  | join (join : Join)
  | groupBy (expressions : List String)
  | having (condition : Condition)
  | orderBy (expressions : List String)
  | limit (rows : Nat)
  | offset (rows : Nat)
  | combine (operator : SetOperator) (operand : QueryId)
  | commonTable (table : CommonTable)
  | raw (sql : String)
  deriving Inhabited

namespace QueryState

/-- The state after one more call.  The first fragment of a `WHERE` clause has
no connective, whatever was asked for. -/
def apply (state : QueryState) : Call → QueryState
  | .select columns => { state with selected := state.selected ++ columns }
  | .source source => { state with source := some source }
  | .filter connective condition =>
      let tie := if state.filters.isEmpty then none else connective
      { state with filters := state.filters ++ [⟨tie, condition⟩] }
  | .join join => { state with joins := state.joins ++ [join] }
  | .groupBy expressions => { state with groupBy := state.groupBy ++ expressions }
  | .having condition => { state with having := state.having ++ [condition] }
  | .orderBy expressions => { state with orderBy := state.orderBy ++ expressions }
  | .limit rows => { state with limit := some rows }
  | .offset rows => { state with offset := some rows }
  | .combine operator operand =>
      { state with branches := state.branches ++ [(operator, operand)] }
  | .commonTable table => { state with commonTables := state.commonTables ++ [table] }
  | .raw sql => { state with raw := some sql }

end QueryState
end QueryArtifacts
