import QueryArtifacts.Proofs.Query.BooleanTexts
import QueryArtifacts.Proofs.Query.Rendering

/-!
# The meaning of `HAVING`

The conditions of a `HAVING` clause stand in it as they were given, with `AND` between them and
without parentheses.  SQL reads the clause as a whole, so that an `OR` inside a condition reaches
beyond it.

* `QueryState.aroundHaving` — what stands in front of the `HAVING` clause and what behind it.
* `QueryState.text_eq_aroundHaving` — the text of a state around its `HAVING` clause.
* `Store.having_reads` — the clause holds where all conditions hold, and only there if it has a
  single condition or no condition has an `OR`; if their atoms are all different, only then.
-/

namespace QueryArtifacts

open BooleanText

namespace QueryState

/-! ## The text around the clause -/

/-- Lines, each behind a line break. -/
def broken (lines : List String) : String :=
  String.join (lines.map ("\n" ++ ·))

theorem broken_append (above below : List String) :
    broken (above ++ below) = broken above ++ broken below := by
  rw [broken, List.map_append, String.join_append]
  rfl

theorem intercalate_append_eq_broken {above : List String} (habove : above ≠ [])
    (below : List String) :
    "\n".intercalate (above ++ below) = "\n".intercalate above ++ broken below := by
  induction below generalizing above with
  | nil => rw [List.append_nil, broken, List.map_nil, String.join_nil, String.append_empty]
  | cons line rest ih =>
      have hline : broken (line :: rest) = "\n" ++ line ++ broken rest := by
        rw [broken, List.map_cons, String.join_cons]
        rfl
      rw [List.append_cons, ih (List.append_ne_nil_of_right_ne_nil _ (List.cons_ne_nil _ _)),
        String.intercalate_append_of_ne_nil habove (List.cons_ne_nil _ _),
        String.intercalate_singleton, hline]
      simp only [String.append_assoc]

variable (state : QueryState) (textOf : TextOf)

/-- What stands in front of the `HAVING` clause of a state without a raw text, and what behind
it. -/
def aroundHaving : Except QueryError (String × String) := do
  let opening ← state.withClause textOf
  let source ← state.source.toList.mapM (FromClause.text textOf)
  let filters ← state.filters.mapM Fragment.sql
  let branches ← state.branches.mapM (branchText textOf)
  let above := [state.selectLine] ++ clause "FROM" "" source ++ state.joins.map Join.sql ++
    clause "WHERE" " " filters ++ clause "GROUP BY" ", " state.groupBy
  let below := clause "ORDER BY" ", " state.orderBy ++
    clause "LIMIT" "" (state.limit.toList.map Decimal.natText) ++
    clause "OFFSET" "" (state.offset.toList.map Decimal.natText)
  return (opening ++ "\n".intercalate above, broken below ++ String.join branches)

variable {state textOf}

/-- If all conditions of `HAVING` have a text, no other part depends on them. -/
theorem text_eq_aroundHaving {conditions : List String} (hraw : state.raw = none)
    (hconditions : state.having.mapM Condition.sql = .ok conditions) :
    state.text textOf = (state.aroundHaving textOf).map fun around =>
      around.1 ++ broken (clause "HAVING" " AND " conditions) ++ around.2 := by
  change state.text textOf = (fun around : String × String =>
    around.1 ++ broken (clause "HAVING" " AND " conditions) ++ around.2) <$>
      state.aroundHaving textOf
  have hok (rest : List String → Except QueryError (List String)) :
      (Except.ok conditions >>= rest) = rest conditions := rfl
  simp only [text, headText, lines, aroundHaving, hraw, hconditions, hok, map_bind, bind_assoc,
    pure_bind, map_pure, Option.isSome_none, Bool.false_eq_true, if_false]
  refine bind_congr fun opening => bind_congr fun source => bind_congr fun filters =>
    bind_congr fun branches => congrArg pure ?_
  simp (disch := simp) only [intercalate_append_eq_broken, broken_append, String.append_assoc]

/-- The state without its `HAVING` conditions. -/
def withoutHaving (state : QueryState) : QueryState :=
  { state with having := [] }

theorem text_withoutHaving (hraw : state.raw = none) :
    state.withoutHaving.text textOf =
      (state.aroundHaving textOf).map fun around => around.1 ++ around.2 := by
  have hnone : state.withoutHaving.having.mapM Condition.sql = .ok [] := rfl
  have hbroken : broken (clause "HAVING" " AND " []) = "" := rfl
  have htext := @text_eq_aroundHaving state.withoutHaving textOf [] hraw hnone
  simp only [hbroken, String.append_empty] at htext
  exact htext

/-- The `HAVING` clause is put between the lines of the text without conditions. -/
theorem text_having {conditions : List String} (hraw : state.raw = none)
    (hconditions : state.having.mapM Condition.sql = .ok conditions) (hsome : conditions ≠ []) :
    state.text textOf = (state.aroundHaving textOf).map fun around =>
      around.1 ++ ("\nHAVING " ++ " AND ".intercalate conditions) ++ around.2 := by
  have hclause : clause "HAVING" " AND " conditions =
      ["HAVING " ++ " AND ".intercalate conditions] := by
    rw [clause, if_neg (by simpa using hsome)]
    rfl
  have hbroken (line : String) : broken [line] = "\n" ++ line := by
    rw [broken, List.map_singleton, String.join_cons, String.join_nil, String.append_empty]
  rw [text_eq_aroundHaving hraw hconditions, hclause, hbroken, ← String.append_assoc]
  rfl

end QueryState

/-! ## What the clause says -/

theorem Condition.mapM_sql_raw (conditions : List String) :
    (conditions.map raw).mapM sql = .ok conditions := by
  induction conditions with
  | nil => rfl
  | cons condition rest ih =>
      rw [List.map_cons, List.mapM_cons, ih]
      rfl

namespace Store

/-- **A `HAVING` clause says what its conditions say together, unless an `OR` reaches beyond its
condition.**  The text of the query is its text without conditions with the clause put in.  Where
all conditions hold the clause holds.  It holds nowhere else if there is a single condition or no
condition has an `OR` outside of parentheses and quotes; if no two atoms of the conditions are the
same, it holds elsewhere in every other case. -/
theorem having_reads {store : Store} {query : QueryId} {conditions : List String}
    (hraw : (store.state query).raw = none)
    (hhaving : (store.state query).having = conditions.map .raw) (hsome : conditions ≠ [])
    (hclosed : ∀ condition ∈ conditions, IsClosed condition) :
    ∃ clause : String,
      (store.state query).withoutHaving.text store.text =
          ((store.state query).aroundHaving store.text).map (fun around => around.1 ++ around.2) ∧
        store.text query = ((store.state query).aroundHaving store.text).map
          (fun around => around.1 ++ ("\nHAVING " ++ clause) ++ around.2) ∧
        (∀ truth, (∀ condition ∈ conditions, holds truth condition = true) →
          holds truth clause = true) ∧
        (conditions.length = 1 ∨ (∀ condition ∈ conditions, Token.or ∉ tokens condition) →
          MeansAll clause conditions) ∧
        ((conditions.flatMap atoms).Nodup → MeansAll clause conditions →
          conditions.length = 1 ∨ ∀ condition ∈ conditions, Token.or ∉ tokens condition) := by
  have hconditions : (store.state query).having.mapM Condition.sql = .ok conditions := by
    rw [hhaving, Condition.mapM_sql_raw]
  refine ⟨" AND ".intercalate conditions, QueryState.text_withoutHaving hraw, ?_, ?_, ?_, ?_⟩
  · rw [text_eq, QueryState.text_having hraw hconditions hsome]
  · exact fun truth hall => holds_intercalate_of_forall hsome hclosed hall
  · exact meansAll_intercalate hsome hclosed
  · exact fun hdistinct hmeans => hmeans.or_notMem hclosed hdistinct

/-- The visits of a site by page, with conditions on the pages. -/
def visits (conditions : List String) : Store where
  states := [{
    source := some (.table "visits")
    groupBy := ["page"]
    having := conditions.map .raw
    orderBy := ["page"] }]

theorem having_reads_visits :
    ∃ clause : String, (visits ["hits > 10", "page != 'a OR b'"]).text ⟨0⟩ =
        .ok ("SELECT *\nFROM visits\nGROUP BY page" ++ ("\nHAVING " ++ clause) ++
          "\nORDER BY page") ∧
      MeansAll clause ["hits > 10", "page != 'a OR b'"] := by
  obtain ⟨clause, -, htext, -, hmeans, -⟩ :=
    @having_reads (visits ["hits > 10", "page != 'a OR b'"]) ⟨0⟩ ["hits > 10", "page != 'a OR b'"]
      rfl rfl (by decide) (by decide +kernel)
  have haround : ((visits ["hits > 10", "page != 'a OR b'"]).state ⟨0⟩).aroundHaving
      (visits ["hits > 10", "page != 'a OR b'"]).text =
        .ok ("SELECT *\nFROM visits\nGROUP BY page", "\nORDER BY page") := by
    decide +kernel
  refine ⟨clause, ?_, hmeans (Or.inr (by decide +kernel))⟩
  rw [htext, haround]
  rfl

/-- An `OR` in the first condition frees its left side of the second condition. -/
theorem having_visits_beyond :
    (visits ["vip = 1 OR hits > 10", "total < 5"]).text ⟨0⟩ = .ok ("SELECT *\nFROM visits\n" ++
        "GROUP BY page\nHAVING vip = 1 OR hits > 10 AND total < 5\nORDER BY page") ∧
      ∃ truth, holds truth "vip = 1 OR hits > 10 AND total < 5" = true ∧
        holds truth "total < 5" = false := by
  refine ⟨by decide +kernel, fun atom => decide (Token.part ['1'] ∈ atom), ?_, ?_⟩
  · decide +kernel
  · decide +kernel

end Store
end QueryArtifacts
