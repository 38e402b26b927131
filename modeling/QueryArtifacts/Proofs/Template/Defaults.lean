import QueryArtifacts.Artifact.Writer
import QueryArtifacts.Parameter.Placeholder
import QueryArtifacts.Proofs.Text.ReadQuoted

/-!
# Quoted values

Values of directives stand between double quotes and defaults of placeholders between single ones,
both with backslashes in front of quotes and backslashes.  A lexer reads either back and stops
behind it, so that a placeholder of a quoted type shows its default.

* `Json.plainText?` — the text of a default that is not `null`.
* `Parameter.TakesText` — the parameters whose placeholder has a quoted type.
* `Parameter.quoted_values_read` — reading values and defaults back.
-/

namespace QueryArtifacts

open Text

/-- The text of a value: a string itself, any other value as it is written.  `null` has none. -/
def Json.plainText? : Json → Option String
  | .null => none
  | .str s => some s
  | value => some value.text

namespace ParameterType

variable {type : ParameterType}

/-- The default of a quoted type is `null`, or a text between quotes. -/
theorem defaultText_of_isQuoted (htype : type.isQuoted = true) (value : Json) :
    type.defaultText value = (value.plainText?.map (quoteEscaped '\'')).getD "null" := by
  cases value <;> simp [defaultText, defaultText.argument, Json.plainText?, htype]

end ParameterType

namespace Parameter

variable {parameter : Parameter}

/-- The parameters whose placeholder shows a type with quoted defaults: strings, dates and times,
and whatever is restricted to a list of values. -/
def TakesText (parameter : Parameter) : Prop :=
  parameter.type ∈ [.string, .dateTime, .date] ∨ parameter.allowed ≠ []

instance (parameter : Parameter) : Decidable parameter.TakesText :=
  inferInstanceAs (Decidable (_ ∨ _))

theorem isQuoted_tokenType (htext : parameter.TakesText) :
    parameter.tokenType.isQuoted = true := by
  unfold tokenType
  split
  · rename_i hempty
    have htype := htext.resolve_right (not_not_intro (List.isEmpty_iff.mp hempty))
    revert htype
    cases parameter.type <;> decide
  · rfl

theorem placeholder_of_default (hrequired : parameter.required = false) {value : Json}
    (hdefault : parameter.default = some value) (name : String) :
    parameter.placeholder name = "\x7b\x7b " ++ parameter.tokenType.name ++ "(" ++ name ++ ", " ++
      parameter.tokenType.defaultText value ++ ") \x7d\x7d" := by
  simp [placeholder, placeholderArgument, hrequired, hdefault, String.append_assoc]

/-- **Quoted values are read back.**  Quoting is two replacements, that of the backslashes first,
and a lexer that takes a backslash for the escape of the next character returns the value of a
directive or of a template string and stops behind it, whatever follows.  A placeholder whose type
is quoted shows a default of `null` as it is; any other default stands between quotes and is read
back from there. -/
theorem quoted_values_read :
    (∀ q ∈ ['"', '\''], ∀ s : String, (quoteEscaped q s).toList =
      q :: replaced q ['\\', q] (replaced '\\' ['\\', '\\'] s.toList) ++ [q]) ∧
    (∀ (s : String) (rest : List Char),
      readQuoted? '"' ((Writer.quoted s).toList ++ rest) = some (s.toList, rest)) ∧
    (∀ (s : String) (rest : List Char),
      readQuoted? '\'' ((quoteEscaped '\'' s).toList ++ rest) = some (s.toList, rest)) ∧
    ∀ (parameter : Parameter) (name : String) (value : Json), parameter.TakesText →
      parameter.required = false → parameter.default = some value →
      ∃ argument : String,
        parameter.placeholder name = "\x7b\x7b " ++ parameter.tokenType.name ++ "(" ++ name ++
          ", " ++ argument ++ ") \x7d\x7d" ∧
        (value = .null → argument = "null") ∧
        (argument.toList.head? = some '\'' ↔ value ≠ .null) ∧
        ∀ text, value.plainText? = some text → ∀ rest : List Char,
          readQuoted? '\'' (argument.toList ++ rest) = some (text.toList, rest) := by
  refine ⟨fun q hq s => ?_, fun s => readQuoted?_quoteEscaped (by decide) s,
    fun s => readQuoted?_quoteEscaped (by decide) s,
    fun parameter name value htext hrequired hdefault => ?_⟩
  · have hbackslash : q ≠ '\\' := by
      rintro rfl
      exact absurd hq (by decide)
    rw [toList_quoteEscaped, escaped_eq_replaced hbackslash]
  · have hargument := ParameterType.defaultText_of_isQuoted (isQuoted_tokenType htext) value
    refine ⟨_, placeholder_of_default hrequired hdefault name, ?_, ?_, ?_⟩
    · rintro rfl
      rfl
    · rw [hargument]
      cases value <;> simp [Json.plainText?]
    · intro text hplain rest
      rw [hargument, hplain]
      exact readQuoted?_quoteEscaped (by decide) text rest

/-- A number restricted to texts, with a default that needs both escapes. -/
def drive : Parameter where
  type := .int64
  default := some (.str "C:\\it's")
  allowed := ["C:\\it's", "D:"]

theorem quoted_values_read_drive :
    drive.TakesText ∧ drive.required = false ∧ drive.default = some (.str "C:\\it's") ∧
    drive.placeholder "d" = "\x7b\x7b String(d, 'C:\\\\it\\'s') \x7d\x7d" ∧
    ∃ argument : String,
      drive.placeholder "d" = "\x7b\x7b String(d, " ++ argument ++ ") \x7d\x7d" ∧
      readQuoted? '\'' (argument.toList ++ ") \x7d\x7d".toList) =
        some ("C:\\it's".toList, ") \x7d\x7d".toList) := by
  have htext : drive.TakesText := by decide
  obtain ⟨argument, hplaceholder, -, -, hread⟩ :=
    quoted_values_read.2.2.2 drive "d" (.str "C:\\it's") htext rfl rfl
  exact ⟨htext, rfl, rfl, by decide, argument, hplaceholder, hread _ rfl _⟩

end Parameter
end QueryArtifacts
