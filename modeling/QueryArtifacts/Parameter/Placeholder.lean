import QueryArtifacts.Json.Printer
import QueryArtifacts.Parameter.Basic
import QueryArtifacts.Text.Quoted

/-!
# Placeholders

The token by which a query refers to a parameter: a call of the parameter's type
between double braces, whose second argument says that the parameter is required
or what its default is.

* `Parameter.placeholder` — the token of a parameter.
* `Placeholders` — the tokens of all parameters of a pipe.
-/

namespace QueryArtifacts

namespace ParameterType

/-- The text of a default as the argument of a placeholder.  `null` is never
quoted. -/
def defaultText (type : ParameterType) : Json → String
  | .null => "null"
  | .str s => argument type s
  | value => argument type value.text
where
  /-- A text as an argument, quoted if the type asks for it. -/
  argument (type : ParameterType) (text : String) : String :=
    if type.isQuoted then Text.quoteEscaped '\'' text else text

end ParameterType

namespace Parameter

/-- What follows the name in the placeholder of a parameter. -/
def placeholderArgument (parameter : Parameter) : String :=
  if parameter.required then
    ", required=True"
  else
    match parameter.default with
    | some value => ", " ++ parameter.tokenType.defaultText value
    | none => ""

/-- The token by which a query refers to the parameter called `name`. -/
def placeholder (parameter : Parameter) (name : String) : String :=
  "\x7b\x7b " ++ parameter.tokenType.name ++ "(" ++ name ++
    parameter.placeholderArgument ++ ") \x7d\x7d"

end Parameter

/-- The tokens of the parameters of a pipe by name. -/
abbrev Placeholders := NameMap String

/-- The tokens of parameters, in the order of the parameters. -/
def Parameters.placeholders (parameters : Parameters) : Placeholders :=
  parameters.map fun name parameter => parameter.placeholder name

/-- The text of the failure to find a token that a query asks for. -/
def Placeholders.missingMessage (name : String) : String :=
  "no parameter named `" ++ name ++ "`"

example : Parameter.placeholder { type := .string, default := some (.str "it's") } "s" =
    "\x7b\x7b String(s, 'it\\'s') \x7d\x7d" := by decide

end QueryArtifacts
