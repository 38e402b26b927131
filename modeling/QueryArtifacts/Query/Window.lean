import QueryArtifacts.Decimal.Digits

/-!
# Window functions

Calls of the form `FUNCTION(arguments) OVER (…)`, to be selected as raw SQL.
-/

namespace QueryArtifacts

/-- The specification of a window. -/
structure Window where
  partitionBy : Option String := none
  orderBy : Option String := none
  deriving DecidableEq, Repr

/-- The `OVER` clause of a window. -/
def Window.sql (window : Window) : String :=
  let partitioning := window.partitionBy.toList.map ("PARTITION BY " ++ ·)
  let ordering := window.orderBy.toList.map ("ORDER BY " ++ ·)
  "OVER (" ++ " ".intercalate (partitioning ++ ordering) ++ ")"

/-- How far off a row is looked up, and what stands for a row that is missing. -/
structure RowOffset where
  rows : Nat := 1
  fallback : Option String := none
  deriving DecidableEq, Repr

/-- The arguments that an offset adds.  The fallback is positional, so it needs
the number of rows before it. -/
def RowOffset.arguments (offset : RowOffset) : List String :=
  let spelled := offset.rows ≠ 1 ∨ offset.fallback.isSome
  (if spelled then [Decimal.natText offset.rows] else []) ++ offset.fallback.toList

/-- A window function with its arguments. -/
inductive WindowFunction where
  | rowNumber
  | rank
  | denseRank
  | lag (column : String) (offset : RowOffset)
  | lead (column : String) (offset : RowOffset)
  | firstValue (column : String)
  | lastValue (column : String)
  deriving DecidableEq, Repr

namespace WindowFunction

/-- The SQL name of a function. -/
def name : WindowFunction → String
  | .rowNumber => "ROW_NUMBER"
  | .rank => "RANK"
  | .denseRank => "DENSE_RANK"
  | .lag .. => "LAG"
  | .lead .. => "LEAD"
  | .firstValue _ => "FIRST_VALUE"
  | .lastValue _ => "LAST_VALUE"

/-- The arguments of a function. -/
def arguments : WindowFunction → List String
  | .rowNumber | .rank | .denseRank => []
  | .lag column offset | .lead column offset => column :: offset.arguments
  | .firstValue column | .lastValue column => [column]

/-- The call of a function over a window. -/
def sql (function : WindowFunction) (window : Window) : String :=
  function.name ++ "(" ++ ", ".intercalate function.arguments ++ ") " ++ window.sql

end WindowFunction
end QueryArtifacts
