import Mathlib.Data.List.Forall2
import QueryArtifacts.Proofs.Query.Frame
import QueryArtifacts.Proofs.Text.BraceFree

/-!
# The renderer takes texts as they are

Nothing between a caller's texts and the text of a query looks into the texts, except for the rule
that tells expressions from plain strings.  Two runs of the same actions whose texts are related
therefore give related texts, for every relation that the renderer's own additions respect.

* `TextRelation` — what such a relation has to respect.
* `Alike` — two results that fail together or are found together and related.
* `QueryState.Related` — related states; kept by every statement, and enough for the text.
* `Store.Related`, `Session.Related` — the same for stores and sessions, through whole runs.
* `Session.Related.text` — related sessions give every query related texts.
-/

namespace QueryArtifacts

/-- A relation between texts that is not disturbed by what the renderer adds: fixed texts without
braces, concatenation, and the writing of string values. -/
structure TextRelation (R : String → String → Prop) : Prop where
  fixed : ∀ text, BraceFree text → R text text
  append : ∀ {a a' b b'}, R a a' → R b b' → R (a ++ b) (a' ++ b')
  stringText : ∀ {a a'}, R a a' → R (Literal.stringText a) (Literal.stringText a')

/-- Two results that fail together, or are found together and related. -/
inductive Alike {α β : Type} (R : α → β → Prop) :
    Except QueryError α → Except QueryError β → Prop where
  | ok {a : α} {b : β} (hrelated : R a b) : Alike R (.ok a) (.ok b)
  | error {e e' : QueryError} : Alike R (.error e) (.error e')

namespace Alike

variable {α α' β β' : Type} {R : α → α' → Prop} {S : β → β' → Prop}

theorem bind {a : Except QueryError α} {a' : Except QueryError α'} {f : α → Except QueryError β}
    {f' : α' → Except QueryError β'} (ha : Alike R a a')
    (hf : ∀ x x', R x x' → Alike S (f x) (f' x')) : Alike S (a >>= f) (a' >>= f') := by
  cases ha with
  | ok hrelated => exact hf _ _ hrelated
  | error => exact .error

theorem map {a : Except QueryError α} {a' : Except QueryError α'} {f : α → β} {f' : α' → β'}
    (ha : Alike R a a') (hf : ∀ x x', R x x' → S (f x) (f' x')) :
    Alike S (a.map f) (a'.map f') := by
  cases ha with
  | ok hrelated => exact .ok (hf _ _ hrelated)
  | error => exact .error

theorem mapM {f : α → Except QueryError β} {f' : α' → Except QueryError β'} {items : List α}
    {items' : List α'} (hitems : List.Forall₂ R items items')
    (hf : ∀ x x', R x x' → Alike S (f x) (f' x')) :
    Alike (List.Forall₂ S) (items.mapM f) (items'.mapM f') := by
  induction hitems with
  | nil => exact .ok .nil
  | cons hhead _ ih =>
      rw [List.mapM_cons, List.mapM_cons]
      exact (hf _ _ hhead).bind fun _ _ hfirst => ih.bind fun _ _ hrest => .ok (.cons hfirst hrest)

end Alike

theorem forall₂_map {τ : Type} {R : String → String → Prop} {f f' : τ → String}
    (hf : ∀ text, R (f text) (f' text)) (texts : List τ) :
    List.Forall₂ R (texts.map f) (texts.map f') := by
  rw [List.forall₂_map_left_iff, List.forall₂_map_right_iff, List.forall₂_same]
  exact fun text _ => hf text

theorem isEmpty_of_forall₂ {α β : Type} {R : α → β → Prop} {items : List α} {items' : List β}
    (hitems : List.Forall₂ R items items') : items.isEmpty = items'.isEmpty := by
  cases hitems <;> rfl

section Texts

variable {R : String → String → Prop} (hR : TextRelation R)
include hR

theorem TextRelation.intercalate {separator : String} {parts parts' : List String}
    (hseparator : BraceFree separator) (hparts : List.Forall₂ R parts parts') :
    R (separator.intercalate parts) (separator.intercalate parts') := by
  induction hparts with
  | nil => exact hR.fixed "" (by decide)
  | @cons first first' rest rest' hfirst hrest ih =>
      cases hrest with
      | nil => simpa using hfirst
      | cons hsecond hmore =>
          rw [String.intercalate_cons_cons, String.intercalate_cons_cons]
          exact hR.append (hR.append hfirst (hR.fixed _ hseparator)) ih

theorem TextRelation.join {parts parts' : List String} (hparts : List.Forall₂ R parts parts') :
    R (String.join parts) (String.join parts') := by
  induction hparts with
  | nil => exact hR.fixed "" (by decide)
  | cons hfirst _ ih =>
      rw [String.join_cons, String.join_cons]
      exact hR.append hfirst ih

/-- A text behind a fixed one. -/
theorem TextRelation.behind {lead a a' : String} (hlead : BraceFree lead) (ha : R a a') :
    R (lead ++ a) (lead ++ a') :=
  hR.append (hR.fixed lead hlead) ha

/-- A text before a fixed one. -/
theorem TextRelation.before {ending a a' : String} (ha : R a a') (hending : BraceFree ending) :
    R (a ++ ending) (a' ++ ending) :=
  hR.append ha (hR.fixed ending hending)

theorem TextRelation.clause {keyword separator : String} {parts parts' : List String}
    (hkeyword : BraceFree keyword) (hseparator : BraceFree separator)
    (hparts : List.Forall₂ R parts parts') :
    List.Forall₂ R (QueryState.clause keyword separator parts)
      (QueryState.clause keyword separator parts') := by
  have hall := hR.intercalate hseparator hparts
  cases hparts with
  | nil => exact .nil
  | cons =>
      refine .cons (hR.append (hR.fixed _ ?_) hall) .nil
      exact hkeyword.append (by decide)

/-- A condition behind its connective. -/
theorem TextRelation.textWith (connective : Option Connective) {sql sql' : String}
    (hsql : R sql sql') :
    R (Fragment.textWith connective sql) (Fragment.textWith connective sql') := by
  cases connective with
  | none => exact hsql
  | some connective =>
      have hlead : BraceFree (connective.sql ++ " ") := by cases connective <;> decide
      exact hR.behind hlead hsql

/-- The numbers of a limit or an offset. -/
theorem TextRelation.rows (rows : Option Nat) :
    List.Forall₂ R (rows.toList.map Decimal.natText) (rows.toList.map Decimal.natText) := by
  cases rows with
  | none => exact .nil
  | some n => exact .cons (hR.fixed _ (Decimal.braceFree_natText n)) .nil

end Texts

/-! ## States -/

/-- Two conditions with related texts. -/
def Condition.Related (R : String → String → Prop) (condition condition' : Condition) : Prop :=
  Alike R condition.sql condition'.sql

/-- Whatever related texts other queries have, two functions of them give related texts. -/
def RelatedGiven (R : String → String → Prop)
    (textOf textOf' : TextOf → Except QueryError String) : Prop :=
  ∀ f f' : TextOf, (∀ query, Alike R (f query) (f' query)) → Alike R (textOf f) (textOf' f')

/-- Two states with related texts in every clause, and the same numbers and set operations. -/
structure QueryState.Related (R : String → String → Prop) (state state' : QueryState) : Prop where
  selected : List.Forall₂ R state.selected state'.selected
  source : List.Forall₂ (fun source source' =>
    RelatedGiven R (FromClause.text · source) (FromClause.text · source'))
    state.source.toList state'.source.toList
  joins : List.Forall₂ (fun join join' => R join.sql join'.sql) state.joins state'.joins
  filters : List.Forall₂ (fun fragment fragment' => Alike R fragment.sql fragment'.sql)
    state.filters state'.filters
  groupBy : List.Forall₂ R state.groupBy state'.groupBy
  having : List.Forall₂ (Condition.Related R) state.having state'.having
  orderBy : List.Forall₂ R state.orderBy state'.orderBy
  limit : state.limit = state'.limit
  offset : state.offset = state'.offset
  branches : state.branches = state'.branches
  commonTables : List.Forall₂ (fun table table' =>
    RelatedGiven R (CommonTable.text · table) (CommonTable.text · table'))
    state.commonTables state'.commonTables
  raw : Option.Rel R state.raw state'.raw

namespace QueryState

variable {R : String → String → Prop}

/-- A state that names no text is related to itself. -/
theorem related_schema (schema : Option Schema) :
    Related R { schema } { schema } := by
  constructor <;> first | exact .nil | exact .none | rfl

end QueryState

section Statements

variable {R : String → String → Prop} (hR : TextRelation R)
variable {τ : Type} {f f' : τ → String} (hf : ∀ text, R (f text) (f' text))
include hR hf

/-- A condition written from related texts. -/
theorem Predicate.related (predicate : Predicate τ) :
    Condition.Related R (predicate.map f).condition (predicate.map f').condition := by
  cases predicate with
  | raw sql => exact .ok (hf sql)
  | compare column operator operand =>
      have hlead : R (f column ++ " " ++ f operator ++ " ")
          (f' column ++ " " ++ f' operator ++ " ") :=
        hR.before (hR.append (hR.before (hf column) (by decide)) (hf operator)) (by decide)
      cases operand with
      | text sql => exact .ok (hR.append hlead (hR.stringText (hf sql)))
      | value literal hkind =>
          simp only [Condition.Related, Predicate.map, Operand.map, Predicate.condition,
            Operand.literal, Condition.sql]
          cases hsql : literal.sql with
          | error failure => exact .error
          | ok sql => exact .ok (hR.append hlead (hR.fixed sql (braceFree_sql hkind hsql)))

/-- The same statement, with related texts, about related states. -/
theorem QueryState.Related.apply_statement {state state' : QueryState}
    (hrelated : state.Related R state') (said : Statement τ) :
    (state.apply (said.map f).call).Related R (state'.apply (said.map f').call) := by
  have hadd {α : Type} {S : α → α → Prop} {old old' : List α} {new new' : α}
      (hold : List.Forall₂ S old old') (hnew : S new new') :
      List.Forall₂ S (old ++ [new]) (old' ++ [new']) :=
    List.rel_append hold (.cons hnew .nil)
  cases said with
  | select columns =>
      exact { hrelated with selected := List.rel_append hrelated.selected (forall₂_map hf columns) }
  | table name => exact { hrelated with source := .cons (fun _ _ _ => .ok (hf name)) .nil }
  | filter connective condition =>
      simp only [Statement.map, Statement.call, QueryState.apply]
      rw [isEmpty_of_forall₂ hrelated.filters]
      refine { hrelated with filters := hadd hrelated.filters ?_ }
      exact Alike.map (condition.related hR hf) fun _ _ hsql => hR.textWith _ hsql
  | join kind name condition =>
      refine { hrelated with joins := hadd hrelated.joins ?_ }
      have hlead : BraceFree (kind.sql ++ " JOIN ") := by cases kind <;> decide
      exact hR.append (hR.before (hR.behind hlead (hf name)) (by decide)) (hf condition)
  | groupBy expressions =>
      exact { hrelated with
        groupBy := List.rel_append hrelated.groupBy (forall₂_map hf expressions) }
  | having condition =>
      exact { hrelated with having := hadd hrelated.having (condition.related hR hf) }
  | orderBy expressions =>
      exact { hrelated with
        orderBy := List.rel_append hrelated.orderBy (forall₂_map hf expressions) }
  | limit rows => exact { hrelated with limit := rfl }
  | offset rows => exact { hrelated with offset := rfl }
  | commonTable name sql =>
      refine { hrelated with commonTables := hadd hrelated.commonTables fun _ _ _ => .ok ?_ }
      exact hR.before (hR.append (hR.before (hf name) (by decide)) (hf sql)) (by decide)
  | raw sql => exact { hrelated with raw := .some (hf sql) }

/-- The same use of another query.  Its snapshot is the next query of either store. -/
theorem QueryState.Related.apply_attachment {state state' : QueryState}
    (hrelated : state.Related R state') {store store' : Store} (hsize : store.size = store'.size)
    (role : Role τ) (other : QueryId) :
    (state.apply (Entry.call store (.attachment (role.map f) other))).Related R
      (state'.apply (Entry.call store' (.attachment (role.map f') other))) := by
  cases role with
  | operand operator =>
      refine { hrelated with branches := ?_ }
      change state.branches ++ _ = state'.branches ++ _
      rw [hrelated.branches]
  | subquery name =>
      simp only [Role.map, Entry.call, hsize]
      refine { hrelated with source := .cons (fun g g' hg => ?_) .nil }
      refine (hg _).bind fun body body' hbody => .ok ?_
      exact hR.append (hR.before (hR.behind (by decide) hbody) (by decide)) (hf name)
  | commonTable name =>
      simp only [Role.map, Entry.call, hsize]
      refine { hrelated with
        commonTables := List.rel_append hrelated.commonTables (.cons (fun g g' hg => ?_) .nil) }
      refine (hg _).bind fun body body' hbody => .ok ?_
      exact hR.before (hR.append (hR.before (hf name) (by decide)) hbody) (by decide)

end Statements

/-! ## The text of related states -/

namespace QueryState.Related

variable {R : String → String → Prop} (hR : TextRelation R)
variable {state state' : QueryState} (hrelated : state.Related R state')
variable {g g' : TextOf} (hg : ∀ query, Alike R (g query) (g' query))
include hR hrelated hg

theorem withClause : Alike R (state.withClause g) (state'.withClause g') := by
  refine Alike.bind (Alike.mapM hrelated.commonTables fun _ _ htable => htable g g' hg)
    fun tables tables' htables => .ok ?_
  rw [isEmpty_of_forall₂ htables]
  split
  · exact hR.fixed "" (by decide)
  · exact hR.before (hR.behind (by decide) (hR.intercalate (by decide) htables)) (by decide)

omit hg in
theorem selectLine : R state.selectLine state'.selectLine := by
  unfold QueryState.selectLine
  rw [isEmpty_of_forall₂ hrelated.selected]
  split
  · exact hR.fixed _ (by decide)
  · exact hR.behind (by decide) (hR.intercalate (by decide) hrelated.selected)

theorem lines : Alike (List.Forall₂ R) (state.lines g) (state'.lines g') := by
  refine Alike.bind (Alike.mapM hrelated.source fun _ _ hsource => hsource g g' hg)
    fun source source' hsource => ?_
  refine Alike.bind (Alike.mapM hrelated.filters fun _ _ hfragment => hfragment)
    fun filters filters' hfilters => ?_
  refine Alike.bind (Alike.mapM hrelated.having fun _ _ hcondition => hcondition)
    fun having having' hhaving => .ok ?_
  have hjoins : List.Forall₂ R (state.joins.map Join.sql) (state'.joins.map Join.sql) := by
    rw [List.forall₂_map_left_iff, List.forall₂_map_right_iff]
    exact hrelated.joins
  rw [hrelated.limit, hrelated.offset]
  -- The clauses in their order; `rel_append` takes the last one off first.
  refine List.rel_append (List.rel_append (List.rel_append (List.rel_append (List.rel_append
    (List.rel_append (List.rel_append (List.rel_append (.cons (hrelated.selectLine hR) .nil)
      ?source) hjoins) ?filters) ?groupBy) ?having) ?orderBy) ?limit) ?offset
  case source => exact hR.clause (by decide) (by decide) hsource
  case filters => exact hR.clause (by decide) (by decide) hfilters
  case groupBy => exact hR.clause (by decide) (by decide) hrelated.groupBy
  case having => exact hR.clause (by decide) (by decide) hhaving
  case orderBy => exact hR.clause (by decide) (by decide) hrelated.orderBy
  case limit => exact hR.clause (by decide) (by decide) (hR.rows _)
  case offset => exact hR.clause (by decide) (by decide) (hR.rows _)

omit hR hg in
/-- Either both states have a raw text or none has. -/
theorem raw_cases : (state.raw = none ∧ state'.raw = none) ∨
    ∃ sql sql', state.raw = some sql ∧ state'.raw = some sql' ∧ R sql sql' := by
  have hraw := hrelated.raw
  generalize state.raw = raw, state'.raw = raw' at hraw ⊢
  cases hraw with
  | none => exact Or.inl ⟨rfl, rfl⟩
  | some hsql => exact Or.inr ⟨_, _, rfl, rfl, hsql⟩

theorem headText : Alike R (state.headText g) (state'.headText g') := by
  unfold QueryState.headText
  rcases hrelated.raw_cases with ⟨hnone, hnone'⟩ | ⟨sql, sql', hsome, hsome', hsql⟩
  · rw [hnone, hnone']
    refine (hrelated.withClause hR hg).bind fun _ _ hopening => ?_
    refine (hrelated.lines hR hg).bind fun _ _ hlines => .ok ?_
    exact hR.append hopening (hR.intercalate (by decide) hlines)
  · rw [hsome, hsome']
    exact .ok hsql

/-- Related states have related texts. -/
theorem text : Alike R (state.text g) (state'.text g') := by
  have hraw : state.raw.isSome = state'.raw.isSome := by
    rcases hrelated.raw_cases with ⟨hnone, hnone'⟩ | ⟨sql, sql', hsome, hsome', -⟩
    · rw [hnone, hnone']
    · rw [hsome, hsome']
      rfl
  refine (hrelated.headText hR hg).bind fun head head' hhead => ?_
  rw [hraw]
  split
  · exact .ok hhead
  · rw [hrelated.branches]
    have hbranches : Alike (List.Forall₂ R) (state'.branches.mapM (branchText g))
        (state'.branches.mapM (branchText g')) := by
      refine Alike.mapM (List.forall₂_same.mpr fun _ _ => rfl) ?_
      rintro ⟨operator, other⟩ _ rfl
      refine (hg other).bind fun operand operand' hoperand => .ok ?_
      have hlead : BraceFree ("\n" ++ operator.sql ++ "\n") := by cases operator <;> decide
      exact hR.behind hlead hoperand
    exact hbranches.bind fun _ _ hall => .ok (hR.append hhead (hR.join hall))

end QueryState.Related

end QueryArtifacts
