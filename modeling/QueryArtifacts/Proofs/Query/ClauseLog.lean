import QueryArtifacts.Proofs.Query.Session

/-!
# The text that a log of statements stands for

The text of a query, read off the statements that have been made about it.  A log shows the queries
that were used by their texts, so that neither stores nor states occur here.

* `Entry.columns` up to `Entry.raws` — what an entry puts into each clause.
* `whereParts` — the conditions of a `WHERE` clause with their connectives.
* `textOfLog` — the text.
* `SameClauses` — two logs with the same entries clause by clause, in whatever order the clauses
  were filled; `textOfLog_congr` — such logs stand for the same text.
-/

namespace QueryArtifacts

/-- The text of a query, or why it has none. -/
abbrev Answer := Except QueryError String

namespace Entry

variable {ρ : Type}

/-- What an entry selects. -/
def columns : Entry ρ → List String
  | .statement (.select names) => names
  | _ => []

/-- What an entry puts behind `FROM`. -/
def sources : Entry Answer → List Answer
  | .statement (.table name) => [.ok name]
  | .attachment (.subquery name) body => [do return "(" ++ (← body) ++ ") AS " ++ name]
  | _ => []

/-- The joined tables. -/
def joins : Entry ρ → List Join
  | .statement (.join kind name condition) => [⟨kind, name, condition⟩]
  | _ => []

/-- The conditions of `WHERE` with the connectives that were asked for. -/
def filters : Entry ρ → List (Option Connective × Condition)
  | .statement (.filter connective condition) => [(connective, condition.condition)]
  | _ => []

/-- The expressions of `GROUP BY`. -/
def groups : Entry ρ → List String
  | .statement (.groupBy expressions) => expressions
  | _ => []

/-- The conditions of `HAVING`. -/
def havings : Entry ρ → List Condition
  | .statement (.having condition) => [condition.condition]
  | _ => []

/-- The expressions of `ORDER BY`. -/
def orders : Entry ρ → List String
  | .statement (.orderBy expressions) => expressions
  | _ => []

/-- The numbers behind `LIMIT`. -/
def limits : Entry ρ → List Nat
  | .statement (.limit rows) => [rows]
  | _ => []

/-- The numbers behind `OFFSET`. -/
def offsets : Entry ρ → List Nat
  | .statement (.offset rows) => [rows]
  | _ => []

/-- A set operation, behind the text before it. -/
def branches : Entry Answer → List Answer
  | .attachment (.operand operator) other => [do return "\n" ++ operator.sql ++ "\n" ++ (← other)]
  | _ => []

/-- A common table expression. -/
def tables : Entry Answer → List Answer
  | .statement (.commonTable name sql) => [.ok (name ++ " AS (" ++ sql ++ ")")]
  | .attachment (.commonTable name) body => [do return name ++ " AS (" ++ (← body) ++ ")"]
  | _ => []

/-- The texts that stand for the whole query. -/
def raws : Entry ρ → List String
  | .statement (.raw sql) => [sql]
  | _ => []

end Entry

/-- A condition behind the connective that was asked for, if any. -/
def tied : Option Connective × Condition → Answer
  | (some .and, condition) => condition.sql.map ("AND " ++ ·)
  | (some .or, condition) => condition.sql.map ("OR " ++ ·)
  | (none, condition) => condition.sql

/-- The parts of a `WHERE` clause.  The first condition stands without connective, whatever was
asked for; every later one stands behind its own. -/
def whereParts : List (Option Connective × Condition) → Except QueryError (List String)
  | [] => .ok []
  | (_, first) :: more => do
      let opening ← first.sql
      let rest ← more.mapM tied
      return opening :: rest

/-- The text that a log stands for.  The last raw text stands for everything.  Otherwise the clauses
follow each other in their fixed order, each with all its entries in the order of the log; of the
tables and subqueries behind `FROM`, of the limits and of the offsets the last one counts. -/
def textOfLog (log : List (Entry Answer)) : Answer :=
  match (log.flatMap Entry.raws).getLast? with
  | some sql => .ok sql
  | none => do
      let tables ← (log.flatMap Entry.tables).mapM id
      let source ← (log.flatMap Entry.sources).getLast?.toList.mapM id
      let conditions ← whereParts (log.flatMap Entry.filters)
      let having ← (log.flatMap Entry.havings).mapM Condition.sql
      let columns := log.flatMap Entry.columns
      let groups := log.flatMap Entry.groups
      let orders := log.flatMap Entry.orders
      let lines :=
        ["SELECT " ++ if columns.isEmpty then "*" else ", ".intercalate columns] ++
        source.map ("FROM " ++ ·) ++
        (log.flatMap Entry.joins).map Join.sql ++
        (if conditions.isEmpty then [] else ["WHERE " ++ " ".intercalate conditions]) ++
        (if groups.isEmpty then [] else ["GROUP BY " ++ ", ".intercalate groups]) ++
        (if having.isEmpty then [] else ["HAVING " ++ " AND ".intercalate having]) ++
        (if orders.isEmpty then [] else ["ORDER BY " ++ ", ".intercalate orders]) ++
        (log.flatMap Entry.limits).getLast?.toList.map ("LIMIT " ++ Decimal.natText ·) ++
        (log.flatMap Entry.offsets).getLast?.toList.map ("OFFSET " ++ Decimal.natText ·)
      let opening := if tables.isEmpty then "" else "WITH " ++ ",\n".intercalate tables ++ "\n"
      let branches ← (log.flatMap Entry.branches).mapM id
      return opening ++ "\n".intercalate lines ++ String.join branches

/-! ## Logs that agree clause by clause -/

/-- Two logs with the same entries in every clause, in the same order within the clause. -/
def SameClauses {ρ : Type} (log log' : List (Entry ρ)) : Prop :=
  ∀ clause, log.filter (·.clause = clause) = log'.filter (·.clause = clause)

/-- What all entries put into one clause only depends on the entries of that clause. -/
theorem flatMap_filter_clause {ρ α : Type} {clause : Clause} {part : Entry ρ → List α}
    (hpart : ∀ entry, entry.clause ≠ clause → part entry = []) (log : List (Entry ρ)) :
    (log.filter (·.clause = clause)).flatMap part = log.flatMap part := by
  induction log with
  | nil => rfl
  | cons entry rest ih =>
      by_cases hclause : entry.clause = clause
      · rw [List.filter_cons_of_pos (by simpa using hclause), List.flatMap_cons, List.flatMap_cons,
          ih]
      · rw [List.filter_cons_of_neg (by simpa using hclause), List.flatMap_cons,
          hpart entry hclause, ih, List.nil_append]

theorem SameClauses.flatMap_eq {ρ α : Type} {log log' : List (Entry ρ)}
    (hsame : SameClauses log log') {clause : Clause} {part : Entry ρ → List α}
    (hpart : ∀ entry, entry.clause ≠ clause → part entry = []) :
    log.flatMap part = log'.flatMap part := by
  rw [← flatMap_filter_clause hpart log, hsame clause, flatMap_filter_clause hpart log']

/-- An entry puts nothing into any clause but its own. -/
theorem Entry.parts_of_other_clauses (entry : Entry Answer) :
    (entry.clause ≠ .select → entry.columns = []) ∧
    (entry.clause ≠ .source → entry.sources = []) ∧
    (entry.clause ≠ .joins → entry.joins = []) ∧
    (entry.clause ≠ .filters → entry.filters = []) ∧
    (entry.clause ≠ .groupBy → entry.groups = []) ∧
    (entry.clause ≠ .having → entry.havings = []) ∧
    (entry.clause ≠ .orderBy → entry.orders = []) ∧
    (entry.clause ≠ .limit → entry.limits = []) ∧
    (entry.clause ≠ .offset → entry.offsets = []) ∧
    (entry.clause ≠ .branches → entry.branches = []) ∧
    (entry.clause ≠ .commonTables → entry.tables = []) ∧
    (entry.clause ≠ .raw → entry.raws = []) := by
  cases entry with
  | statement said =>
      cases said <;> simp [clause, Statement.clause, columns, sources, joins, filters, groups,
        havings, orders, limits, offsets, branches, tables, raws]
  | attachment role other =>
      cases role <;> simp [clause, Role.clause, columns, sources, joins, filters, groups, havings,
        orders, limits, offsets, branches, tables, raws]

/-- The order in which different clauses are filled does not show. -/
theorem textOfLog_congr {log log' : List (Entry Answer)} (hsame : SameClauses log log') :
    textOfLog log = textOfLog log' := by
  have hparts := fun entry => Entry.parts_of_other_clauses entry
  unfold textOfLog
  rw [hsame.flatMap_eq fun entry => (hparts entry).1,
    hsame.flatMap_eq fun entry => (hparts entry).2.1,
    hsame.flatMap_eq fun entry => (hparts entry).2.2.1,
    hsame.flatMap_eq fun entry => (hparts entry).2.2.2.1,
    hsame.flatMap_eq fun entry => (hparts entry).2.2.2.2.1,
    hsame.flatMap_eq fun entry => (hparts entry).2.2.2.2.2.1,
    hsame.flatMap_eq fun entry => (hparts entry).2.2.2.2.2.2.1,
    hsame.flatMap_eq fun entry => (hparts entry).2.2.2.2.2.2.2.1,
    hsame.flatMap_eq fun entry => (hparts entry).2.2.2.2.2.2.2.2.1,
    hsame.flatMap_eq fun entry => (hparts entry).2.2.2.2.2.2.2.2.2.1,
    hsame.flatMap_eq fun entry => (hparts entry).2.2.2.2.2.2.2.2.2.2.1,
    hsame.flatMap_eq fun entry => (hparts entry).2.2.2.2.2.2.2.2.2.2.2]

end QueryArtifacts
