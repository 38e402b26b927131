import QueryArtifacts.Parameter.Placeholder
import QueryArtifacts.Proofs.Template.Blocks
import QueryArtifacts.Proofs.Template.Calls
import QueryArtifacts.Template.Conditional

/-!
# Placeholders are found again

The placeholder of a parameter is a block with a call inside, which is read as that call and wrapped
if the parameter may be missing.

* `Template.inside_callText` — a call stays inside its block.
* `Parameter.Enclosed` — the default that a placeholder shows does not end the block.
* `Parameter.inside_placeholder` — the inside of a placeholder.
* `Template.wrapBlock_placeholder` — what wrapping makes of a placeholder.
-/

namespace QueryArtifacts

open Template

theorem ParameterType.isIdentifier_name (type : ParameterType) : IsIdentifier type.name.toList := by
  cases type <;> decide

namespace Template

/-- A call does not end its block, unless its arguments do. -/
theorem inside_callText {typeName name arguments : List Char}
    (htype : IsIdentifier typeName) (hname : IsIdentifier name)
    (harguments : Text.splitAtPair '\x7d' '\x7d' arguments = none) :
    Inside (callText typeName name arguments) := by
  -- The call up to its arguments, the arguments, and the end: only the arguments can hold a brace.
  have hsplit : callText typeName name arguments =
      (' ' :: (typeName ++ '(' :: name)) ++ (arguments ++ [')', ' ']) := by
    simp [callText]
  rw [Inside, Text.splitAtPair_concat_eq_none_iff, hsplit]
  constructor
  · refine Text.splitAtPair_append_left ?_ (Text.splitAtPair_append_right harguments (by decide))
    have htypeName : '\x7d' ∉ typeName := htype.not_mem (by decide)
    have hparameter : '\x7d' ∉ name := hname.not_mem (by decide)
    simp [htypeName, hparameter]
  · rw [← List.append_assoc, List.getLast?_append]
    simp

/-- The text of a condition, written as a string. -/
theorem toList_underCondition (name text : String) :
    ("\x7b% if defined(" ++ name ++ ") %\x7d" ++ text ++ "\x7b% end %\x7d").toList =
      underCondition name text.toList := by
  rw [String.toList_append, String.toList_append, String.toList_append, String.toList_append]
  rfl

end Template

namespace Parameter

/-- A default that stands in a placeholder does not hold two closing braces in a row. -/
def Enclosed (parameter : Parameter) : Prop :=
  parameter.required = false → ∀ value, parameter.default = some value →
    ¬ ['\x7d', '\x7d'] <:+: (parameter.tokenType.defaultText value).toList

/-- The inside of the placeholder of a parameter. -/
def placeholderInside (parameter : Parameter) (name : String) : List Char :=
  callText parameter.tokenType.name.toList name.toList parameter.placeholderArgument.toList

theorem toList_placeholder (parameter : Parameter) (name : String) :
    (parameter.placeholder name).toList = blockText (parameter.placeholderInside name) := by
  simp [placeholder, blockText, placeholderInside, callText, String.toList_append]

theorem placeholderArgument_head (parameter : Parameter) :
    ∀ c ∈ parameter.placeholderArgument.toList.head?, c = ',' := by
  unfold placeholderArgument
  split
  · intro c hc
    have hcomma : ", required=True".toList.head? = some ',' := by decide
    rw [hcomma] at hc
    exact (Option.mem_some.mp hc).symm
  · split <;> simp

/-- What stands inside a placeholder does not end the block. -/
theorem inside_placeholder {parameter : Parameter} {name : String}
    (hname : IsIdentifier name.toList) (henclosed : parameter.Enclosed) :
    Inside (parameter.placeholderInside name) := by
  refine inside_callText parameter.tokenType.isIdentifier_name hname ?_
  unfold placeholderArgument
  by_cases hrequired : parameter.required = true
  · rw [if_pos hrequired]
    exact Text.splitAtPair_of_not_mem (by decide)
  · rw [if_neg hrequired]
    cases hdefault : parameter.default with
    | none => rfl
    | some value =>
        have htext := henclosed (Bool.eq_false_iff.mpr hrequired) value hdefault
        rw [← Text.splitAtPair_eq_none_iff] at htext
        rw [String.toList_append]
        exact Text.splitAtPair_append_left (by decide) htext

theorem ofText?_placeholder (parameter : Parameter) {name : String}
    (hname : IsIdentifier name.toList) :
    Reference.ofText? (parameter.placeholderInside name) =
      some ⟨parameter.tokenType.name, name, !parameter.placeholderArgument.toList.isEmpty⟩ := by
  rw [placeholderInside, Reference.ofText?_callText parameter.tokenType.isIdentifier_name hname
    parameter.placeholderArgument_head, String.ofList_toList, String.ofList_toList]

/-- The placeholder of a parameter, under a condition if the parameter may be missing. -/
def guardedPlaceholder (parameter : Parameter) (name : String) : String :=
  if parameter.isConditional then
    "\x7b% if defined(" ++ name ++ ") %\x7d" ++ parameter.placeholder name ++ "\x7b% end %\x7d"
  else
    parameter.placeholder name

theorem toList_guardedPlaceholder (parameter : Parameter) (name : String) :
    (parameter.guardedPlaceholder name).toList =
      if parameter.isConditional then underCondition name (parameter.placeholder name).toList
      else (parameter.placeholder name).toList := by
  unfold guardedPlaceholder
  split
  · exact toList_underCondition name _
  · rfl

/-- A parameter that may be missing has a placeholder without arguments. -/
theorem isWrapped_placeholder (parameter : Parameter) (name : String) :
    isWrapped parameter
      ⟨parameter.tokenType.name, name, !parameter.placeholderArgument.toList.isEmpty⟩ =
      parameter.isConditional := by
  simp only [isWrapped, isConditional, placeholderArgument]
  cases parameter.required with
  | true => simp
  | false => cases parameter.default <;> simp

end Parameter

namespace Template

/-- What wrapping makes of a placeholder. -/
theorem wrapBlock_placeholder {parameters : Parameters} {parameter : Parameter} {name : String}
    (hparameter : parameters.get? name = some parameter) (hname : IsIdentifier name.toList) :
    wrapBlock parameters (parameter.placeholderInside name) =
      .ok (parameter.guardedPlaceholder name).toList := by
  rw [parameter.toList_guardedPlaceholder, parameter.toList_placeholder]
  simp only [wrapBlock, parameter.ofText?_placeholder hname, hparameter,
    parameter.isWrapped_placeholder name]

end Template
end QueryArtifacts
