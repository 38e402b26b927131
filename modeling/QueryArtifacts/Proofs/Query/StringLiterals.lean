import QueryArtifacts.Proofs.Decimal.Numeral
import QueryArtifacts.Proofs.Text.ReadDoubled
import QueryArtifacts.Query.Condition

/-!
# Strings among the literals

A string is put between quotes, or stands as it is if it holds the marker of an expression.  Its
text tells the string either way, and tells it from every other value: a quote or a marker occurs in
the texts of strings only.

Between quotes the text is also read back by a lexer for SQL.  A dialect with an escape character
reads it back as long as that character does not occur; where it does, the literal does not end
where the text ends.

* `isStringSign` — the characters that only texts of strings hold.
* `sql_string_faithful` — different strings and different values have different texts.
* `sql_string_read_iff` — when a lexer that knows the backslash reads the text back.
-/

namespace QueryArtifacts
namespace Literal

/-- The characters that only the texts of strings hold: the quote and the markers of expressions. -/
def isStringSign (c : Char) : Bool :=
  isMarker c || c = '\''

theorem isMarker_iff {c : Char} : isMarker c = true ↔ c ∈ ['(', ')', '\x7b', '\x7d'] := by
  simp [isMarker, or_assoc]

theorem isExpression_eq_false_iff {s : String} :
    isExpression s = false ↔ ∀ c ∈ s.toList, c ∉ ['(', ')', '\x7b', '\x7d'] := by
  simp only [isExpression, List.any_eq_false, isMarker_iff]

/-! ## Strings and other values -/

/-- What is quoted has no marker, and quoting brings in none. -/
theorem isMarker_of_mem_quoted {s : String} (hs : isExpression s = false) {c : Char}
    (hc : c ∈ (quoted s).toList) : isMarker c = false := by
  rcases Text.mem_quoteDoubled hc with hinside | rfl
  · exact Bool.eq_false_iff.mpr (List.any_eq_false.mp hs c hinside)
  · decide

theorem exists_isStringSign (s : String) : ∃ c ∈ (stringText s).toList, isStringSign c = true := by
  unfold stringText
  split
  · rename_i hmarker
    obtain ⟨c, hc, hsign⟩ := List.any_eq_true.mp hmarker
    exact ⟨c, hc, by simp [isStringSign, hsign]⟩
  · refine ⟨'\'', ?_, by decide⟩
    rw [quoted, Text.toList_quoteDoubled]
    exact List.mem_cons_self ..

theorem isStringSign_of_isNumeralChar {c : Char} (hc : Decimal.isNumeralChar c = true) :
    isStringSign c = false := by
  refine Bool.eq_false_iff.mpr fun hsign => ?_
  simp only [isStringSign, isMarker, Bool.or_eq_true, decide_eq_true_eq] at hsign
  rcases hsign with (((rfl | rfl) | rfl) | rfl) | rfl <;> exact absurd hc (by decide)

/-- The text of a value that is no string holds no sign of a string. -/
theorem isStringSign_of_mem_sql {value : Literal} {sql : String} (hkind : value.kind ≠ .string)
    (hsql : value.sql = .ok sql) : ∀ c ∈ sql.toList, isStringSign c = false := by
  have hnumeral {text : String} (htext : Decimal.IsNumeral text) :
      ∀ c ∈ text.toList, isStringSign c = false :=
    fun c hc => isStringSign_of_isNumeralChar (htext c hc)
  have hword {text : String} (htext : text.toList.any isStringSign = false) :
      ∀ c ∈ text.toList, isStringSign c = false :=
    fun c hc => Bool.eq_false_iff.mpr (List.any_eq_false.mp htext c hc)
  cases value with
  | null => cases hsql; exact hword (by decide)
  | bool flag => cases hsql; cases flag <;> exact hword (by decide)
  | int number => cases hsql; exact hnumeral (Decimal.isNumeral_intText number)
  | float number =>
      cases number with
      | finite negative significand exponent =>
          cases hsql
          exact hnumeral (Decimal.Layout.isNumeral_text (by decide) negative significand exponent)
      | nan => cases hsql
      | infinite negative => cases hsql
  | string text => exact absurd rfl hkind
  | array items => cases hsql
  | object members => cases hsql

theorem stringText_injective {s t : String} (hsame : stringText s = stringText t) : s = t := by
  -- A text that is quoted holds no marker, so that it is not the text of an expression.
  have hmixed {s t : String} (hs : isExpression s = true) (ht : isExpression t = false)
      (hsame : s = quoted t) : False := by
    obtain ⟨c, hc, hmarker⟩ := List.any_eq_true.mp hs
    rw [hsame] at hc
    rw [isMarker_of_mem_quoted ht hc] at hmarker
    cases hmarker
  unfold stringText at hsame
  split at hsame <;> rename_i hs <;> split at hsame <;> rename_i ht
  · exact hsame
  · exact (hmixed hs (Bool.eq_false_iff.mpr ht) hsame).elim
  · exact (hmixed ht (Bool.eq_false_iff.mpr hs) hsame.symm).elim
  · exact Text.quoteDoubled_injective hsame

/-! ## Reading a string back -/

theorem sql_string_of_plain {s : String} (hs : ∀ c ∈ s.toList, c ∉ ['(', ')', '\x7b', '\x7d']) :
    (Literal.string s).sql = .ok (quoted s) := by
  rw [sql, stringText, isExpression_eq_false_iff.mpr hs]
  rfl

/-- **The text of a string tells the string.**  Two strings have different texts, no other value has
the text of a string, and a string without markers is read back by a lexer for doubled quotes,
whatever follows but a quote. -/
theorem sql_string_faithful :
    (∀ s t : String, (Literal.string s).sql = (Literal.string t).sql → s = t) ∧
    (∀ (s : String) (value : Literal), value.kind ≠ .string →
      value.sql ≠ (Literal.string s).sql) ∧
    ∀ s : String, (∀ c ∈ s.toList, c ∉ ['(', ')', '\x7b', '\x7d']) →
      ∃ text, (Literal.string s).sql = .ok text ∧
        ∀ rest : List Char, rest.head? ≠ some '\'' →
          Text.readLiteral? '\'' none (text.toList ++ rest) = some (s.toList, rest) := by
  refine ⟨fun s t hsame => stringText_injective (Except.ok.inj hsame), ?_, fun s hs => ?_⟩
  · intro s value hkind hsql
    obtain ⟨c, hc, hsign⟩ := exists_isStringSign s
    rw [isStringSign_of_mem_sql hkind hsql c hc] at hsign
    cases hsign
  · exact ⟨quoted s, sql_string_of_plain hs,
      fun rest hrest => Text.readLiteral?_quoteDoubled (by simp) hrest⟩

theorem sql_string_apostrophes :
    (∀ c ∈ "''it's".toList, c ∉ ['(', ')', '\x7b', '\x7d']) ∧
    " OR ''=''".toList.head? ≠ some '\'' ∧
    ∃ text, (Literal.string "''it's").sql = .ok text ∧
      Text.readLiteral? '\'' none (text.toList ++ " OR ''=''".toList) =
        some ("''it's".toList, " OR ''=''".toList) := by
  have hplain : ∀ c ∈ "''it's".toList, c ∉ ['(', ')', '\x7b', '\x7d'] :=
    isExpression_eq_false_iff.mp (by decide)
  have hrest : " OR ''=''".toList.head? ≠ some '\'' := by decide
  obtain ⟨text, htext, hread⟩ := sql_string_faithful.2.2 _ hplain
  exact ⟨hplain, hrest, text, htext, hread _ hrest⟩

/-- **A lexer that knows the backslash reads a string back exactly if the string holds none.**  Then
the literal ends where the text ends, in a comparison as well, whatever follows but a quote. -/
theorem sql_string_read_iff {s : String}
    (hs : ∀ c ∈ s.toList, c ∉ ['(', ')', '\x7b', '\x7d']) :
    ∃ text, (Literal.string s).sql = .ok text ∧
      (∀ column operator : String, (Condition.compare column operator (.string s)).sql =
        .ok (column ++ " " ++ operator ++ " " ++ text)) ∧
      ∀ rest : List Char, rest.head? ≠ some '\'' →
        (Text.readLiteral? '\'' (some '\\') (text.toList ++ rest) = some (s.toList, rest) ↔
          '\\' ∉ s.toList) := by
  refine ⟨quoted s, sql_string_of_plain hs, fun column operator => ?_, fun rest hrest => ?_⟩
  · rw [Condition.sql, sql_string_of_plain hs]
  · exact Text.readLiteral?_quoteDoubled_iff (by decide) s hrest

theorem sql_string_read_windowsPath :
    (∀ c ∈ "C:\\tmp".toList, c ∉ ['(', ')', '\x7b', '\x7d']) ∧ [].head? ≠ some '\'' ∧
    ∃ text, (Literal.string "C:\\tmp").sql = .ok text ∧
      Text.readLiteral? '\'' (some '\\') (text.toList ++ []) ≠ some ("C:\\tmp".toList, []) := by
  have hplain : ∀ c ∈ "C:\\tmp".toList, c ∉ ['(', ')', '\x7b', '\x7d'] :=
    isExpression_eq_false_iff.mp (by decide)
  have hrest : ([] : List Char).head? ≠ some '\'' := by decide
  obtain ⟨text, htext, -, hread⟩ := sql_string_read_iff hplain
  exact ⟨hplain, hrest, text, htext, fun heq => absurd ((hread [] hrest).mp heq) (by decide)⟩

/-- A quote behind a backslash: the literal ends at once, and the rest of the string follows it. -/
theorem sql_string_breaksOut :
    (∀ c ∈ "\\' OR 1=1 -- ".toList, c ∉ ['(', ')', '\x7b', '\x7d']) ∧
    (Literal.string "\\' OR 1=1 -- ").sql = .ok "'\\'' OR 1=1 -- '" ∧
    Text.readLiteral? '\'' (some '\\') "'\\'' OR 1=1 -- '".toList =
      some (['\''], " OR 1=1 -- '".toList) := by
  have hplain : isExpression "\\' OR 1=1 -- " = false := by decide
  refine ⟨isExpression_eq_false_iff.mp hplain, ?_, by decide⟩
  rw [sql_string_of_plain (isExpression_eq_false_iff.mp hplain)]
  exact congrArg Except.ok (by decide)

end Literal
end QueryArtifacts
