import QueryArtifacts.Query.Store

/-!
# The text of a query

The SQL text of a query is put together from its clauses; the texts of the
queries that it refers to are asked for through a function, so that the text of
one state is defined before that of a store.

* `QueryState.headText` — the text without set operations.
* `QueryState.text` — the whole text of one state.
* `Store.text` — the text of a query of a store.

Errors appear in the order of the parts: common table expressions, `FROM`,
`WHERE`, `HAVING`, set operations.  A raw text shields everything else.
-/

namespace QueryArtifacts

/-- How the texts of other queries are found. -/
abbrev TextOf := QueryId → Except QueryError String

/-- The text of a common table expression. -/
def CommonTable.text (textOf : TextOf) (table : CommonTable) : Except QueryError String := do
  let body ←
    match table.body with
    | .query query => textOf query
    | .sql text => .ok text
  return table.name ++ " AS (" ++ body ++ ")"

/-- What stands after `FROM`. -/
def FromClause.text (textOf : TextOf) : FromClause → Except QueryError String
  | .table name => .ok name
  | .subquery query name => do
      let body ← textOf query
      return "(" ++ body ++ ") AS " ++ name

namespace QueryState

/-- A clause of one line: its keyword and its parts, or nothing without parts. -/
def clause (keyword separator : String) (parts : List String) : List String :=
  if parts.isEmpty then [] else [keyword ++ " " ++ separator.intercalate parts]

/-- The `WITH` clause and the line break after it, or nothing. -/
def withClause (state : QueryState) (textOf : TextOf) : Except QueryError String := do
  let tables ← state.commonTables.mapM (CommonTable.text textOf)
  return if tables.isEmpty then "" else "WITH " ++ ",\n".intercalate tables ++ "\n"

/-- The `SELECT` line: every column if none was selected. -/
def selectLine (state : QueryState) : String :=
  "SELECT " ++ if state.selected.isEmpty then "*" else ", ".intercalate state.selected

/-- The lines from `SELECT` to `OFFSET`. -/
def lines (state : QueryState) (textOf : TextOf) : Except QueryError (List String) := do
  let source ← state.source.toList.mapM (FromClause.text textOf)
  let filters ← state.filters.mapM Fragment.sql
  let having ← state.having.mapM Condition.sql
  return [state.selectLine] ++
    clause "FROM" "" source ++
    state.joins.map Join.sql ++
    clause "WHERE" " " filters ++
    clause "GROUP BY" ", " state.groupBy ++
    clause "HAVING" " AND " having ++
    clause "ORDER BY" ", " state.orderBy ++
    clause "LIMIT" "" (state.limit.toList.map Decimal.natText) ++
    clause "OFFSET" "" (state.offset.toList.map Decimal.natText)

/-- The text of a state without its set operations; a raw text stands for
everything. -/
def headText (state : QueryState) (textOf : TextOf) : Except QueryError String :=
  match state.raw with
  | some sql => .ok sql
  | none => do
      let opening ← state.withClause textOf
      let lines ← state.lines textOf
      return opening ++ "\n".intercalate lines

/-- A set operation: the operator and its operand, each after a line break. -/
def branchText (textOf : TextOf) (branch : SetOperator × QueryId) :
    Except QueryError String := do
  let operand ← textOf branch.2
  return "\n" ++ branch.1.sql ++ "\n" ++ operand

/-- The text of a state. -/
def text (state : QueryState) (textOf : TextOf) : Except QueryError String := do
  let head ← state.headText textOf
  if state.raw.isSome then
    return head
  else
    let branches ← state.branches.mapM (branchText textOf)
    return head ++ String.join branches

end QueryState

namespace Store

/-- The text of a query, following references to the given depth. -/
def textWithin (store : Store) : Nat → QueryId → Except QueryError String
  | 0, _ => .error .circular
  | depth + 1, query => (store.state query).text (store.textWithin depth)

/-- The text of a query.  A chain of references that is longer than the number
of queries visits one of them twice, so that only a query that contains itself
is refused for its depth. -/
def text (store : Store) (query : QueryId) : Except QueryError String :=
  store.textWithin (store.size + 1) query

end Store

/-- The conditions that hold a subquery. -/
inductive SubqueryTest where
  | exists
  | notExists
  | isIn (column : String)
  | notIn (column : String)
  deriving DecidableEq, Repr

/-- What stands before the parenthesis of a subquery. -/
def SubqueryTest.lead : SubqueryTest → String
  | .exists => "EXISTS"
  | .notExists => "NOT EXISTS"
  | .isIn column => column ++ " IN"
  | .notIn column => column ++ " NOT IN"

/-- The text of a condition on a subquery, which holds its present text. -/
def Store.testText (store : Store) (test : SubqueryTest) (query : QueryId) :
    Except QueryError String :=
  (store.text query).map fun sql => test.lead ++ " (" ++ sql ++ ")"

end QueryArtifacts
