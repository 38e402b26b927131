import QueryArtifacts.Proofs.Query.StringLiterals
import QueryArtifacts.Query.Text

/-!
# Texts without braces

Braces mark tokens, so that a text without braces can neither hold one nor complete one.  What the
renderer adds of its own to the texts of a query holds none: keywords, separators, numbers, and
quotes.

* `BraceFree` — no opening and no closing brace occurs.
* `BraceFree.append`, `BraceFree.quoted` — what keeps that.
* `braceFree_natText`, `braceFree_sql` — numbers, and the values that are no strings.
-/

namespace QueryArtifacts

/-- Whether a character is a brace. -/
def isBrace (c : Char) : Bool :=
  c = '\x7b' || c = '\x7d'

/-- No brace occurs in a text. -/
def BraceFree (text : String) : Prop :=
  ∀ c ∈ text.toList, isBrace c = false

instance (text : String) : Decidable (BraceFree text) :=
  List.decidableBAll (fun c => isBrace c = false) text.toList

namespace BraceFree

theorem ofList {cs : List Char} (hcs : ∀ c ∈ cs, isBrace c = false) :
    BraceFree (String.ofList cs) := by
  rwa [BraceFree, String.toList_ofList]

theorem append {s t : String} (hs : BraceFree s) (ht : BraceFree t) : BraceFree (s ++ t) := by
  intro c hc
  rw [String.toList_append, List.mem_append] at hc
  exact hc.elim (hs c) (ht c)

theorem opening_not_mem {s : String} (hs : BraceFree s) : '\x7b' ∉ s.toList :=
  fun hmem => absurd (hs _ hmem) (by decide)

/-- Quoting adds quotes only. -/
theorem quoted {s : String} (hs : BraceFree s) : BraceFree (Literal.quoted s) := by
  intro c hc
  rcases Text.mem_quoteDoubled hc with hinside | rfl
  · exact hs c hinside
  · decide

/-- A text without braces stays as it is or is put between quotes. -/
theorem stringText {s : String} (hs : BraceFree s) : BraceFree (Literal.stringText s) := by
  unfold Literal.stringText
  split
  · exact hs
  · exact hs.quoted

end BraceFree

/-! ## Values that are no strings -/

theorem Decimal.braceFree_natText (n : Nat) : BraceFree (natText n) := by
  intro c hc
  refine Bool.eq_false_iff.mpr fun hbrace => ?_
  simp only [isBrace, Bool.or_eq_true, decide_eq_true_eq] at hbrace
  rcases hbrace with rfl | rfl <;> exact absurd (isNumeral_natText n _ hc) (by decide)

/-- A brace marks a string as an expression, and occurs in the texts of strings only. -/
theorem braceFree_sql {value : Literal} {sql : String} (hkind : value.kind ≠ .string)
    (hsql : value.sql = .ok sql) : BraceFree sql := by
  intro c hc
  refine Bool.eq_false_iff.mpr fun hbrace => ?_
  have hsign := Literal.isStringSign_of_mem_sql hkind hsql c hc
  simp only [isBrace, Bool.or_eq_true, decide_eq_true_eq] at hbrace
  rcases hbrace with rfl | rfl <;> exact absurd hsign (by decide)

end QueryArtifacts
