import QueryArtifacts.Query.Literal

/-!
# Conditions

A condition is raw SQL or a comparison of a column with a literal.  A `WHERE`
clause strings fragments together, each a condition behind a connective of its
own.
-/

namespace QueryArtifacts

/-- Why a query has no text. -/
inductive QueryError where
  /-- A comparison on `column` holds a value without SQL text. -/
  | value (column : String) (failure : Literal.Failure)
  /-- The query contains itself. -/
  | circular
  deriving DecidableEq, Repr

/-- The wording of an error. -/
def QueryError.message : QueryError → String
  | .value column failure =>
      "Cannot render value for column `" ++ column ++ "`: " ++ failure.message
  | .circular => "Query contains itself"

/-- The operators with a name of their own. -/
inductive Comparator where
  | eq
  | ne
  | gt
  | ge
  | lt
  | le
  | like
  deriving DecidableEq, Repr

/-- The SQL text of an operator. -/
def Comparator.sql : Comparator → String
  | .eq => "="
  | .ne => "!="
  | .gt => ">"
  | .ge => ">="
  | .lt => "<"
  | .le => "<="
  | .like => "LIKE"

/-- A condition of a `WHERE` or `HAVING` clause. -/
inductive Condition where
  | raw (sql : String)
  | compare (column operator : String) (value : Literal)
  deriving Repr, Inhabited

/-- The SQL text of a condition. -/
def Condition.sql : Condition → Except QueryError String
  | .raw sql => .ok sql
  | .compare column operator value =>
      match value.sql with
      | .ok text => .ok (column ++ " " ++ operator ++ " " ++ text)
      | .error failure => .error (.value column failure)

/-- How a condition is tied to those before it. -/
inductive Connective where
  | and
  | or
  deriving DecidableEq, Repr

/-- The SQL text of a connective. -/
def Connective.sql : Connective → String
  | .and => "AND"
  | .or => "OR"

/-- A condition of a `WHERE` clause with the connective before it, if any. -/
structure Fragment where
  connective : Option Connective
  condition : Condition
  deriving Repr

/-- The text of a fragment whose condition reads `sql`. -/
def Fragment.textWith (connective : Option Connective) (sql : String) : String :=
  match connective with
  | none => sql
  | some c => c.sql ++ " " ++ sql

/-- The SQL text of a fragment. -/
def Fragment.sql (fragment : Fragment) : Except QueryError String :=
  fragment.condition.sql.map (textWith fragment.connective)

end QueryArtifacts
