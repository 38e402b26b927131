import QueryArtifacts.Parameter.Basic
import QueryArtifacts.Query.Condition
import QueryArtifacts.Template.Token

/-!
# Conditional tokens

A token of a parameter that may be missing is put under a condition, so that the
platform leaves it out when the parameter is not passed.

* `wrapBlock` — what becomes of one block.
* `wrap` — what becomes of a body: every block in its place, or the first token
  whose type is known and whose parameter is not declared.
-/

namespace QueryArtifacts

/-- Why a template has no text. -/
inductive TemplateError where
  /-- The query of the template has no text. -/
  | query (error : QueryError)
  /-- A token refers to a parameter that is not declared. -/
  | unknownParameter (name token : String)
  deriving DecidableEq, Repr

/-- The wording of an error. -/
def TemplateError.message : TemplateError → String
  | .query error => "Failed to build pipe query: " ++ error.message
  | .unknownParameter name token =>
      "Query references undeclared parameter `" ++ name ++ "` in `" ++ token ++ "`"

namespace Template

/-- A text under the condition that a parameter was passed. -/
def underCondition (name : String) (text : List Char) : List Char :=
  "\x7b% if defined(".toList ++ name.toList ++ ") %\x7d".toList ++ text ++
    "\x7b% end %\x7d".toList

/-- Whether a token of a declared parameter is put under a condition: it shows
nothing but the name and the type of a parameter that may be missing. -/
def isWrapped (parameter : Parameter) (reference : Reference) : Bool :=
  parameter.isConditional && !reference.hasArguments &&
    reference.typeName = parameter.tokenType.name

/-- What becomes of the block with the given inside. -/
def wrapBlock (parameters : Parameters) (inside : List Char) :
    Except TemplateError (List Char) :=
  let block := blockText inside
  match Reference.ofText? inside with
  | none => .ok block
  | some reference =>
      match parameters.get? reference.name with
      | some parameter =>
          .ok (if isWrapped parameter reference then underCondition reference.name block
            else block)
      | none =>
          if (ParameterType.ofName? reference.typeName).isSome then
            .error (.unknownParameter reference.name (String.ofList block))
          else
            .ok block

/-- What becomes of the blocks and the texts before them. -/
def wrapBlocks (parameters : Parameters) :
    List (List Char × List Char) → Except TemplateError (List Char)
  | [] => .ok []
  | (gap, inside) :: more => do
      let block ← wrapBlock parameters inside
      let rest ← wrapBlocks parameters more
      return gap ++ block ++ rest

/-- A body with the tokens of conditional parameters put under conditions. -/
def wrap (parameters : Parameters) (body : String) : Except TemplateError String := do
  let pieces := cut body.toList
  let wrapped ← wrapBlocks parameters pieces.blocks
  return String.ofList (wrapped ++ pieces.tail)

end Template
end QueryArtifacts
