import QueryArtifacts.Decimal.Layout
import QueryArtifacts.Json.Basic
import QueryArtifacts.Text.Quoted

/-!
# Literals

The values that a comparison can hold, and their SQL text.

* `Literal.sql` — the text, or the reason why there is none.
* `Literal.kind` — the name of the value's kind, as error texts use it.
* `Literal.ofJson` — the literal that a JSON value stands for.

A string with a parenthesis or a brace is taken for an expression or a template
placeholder and stands as it is; every other string is quoted, its quotes
doubled.
-/

namespace QueryArtifacts

/-- A value in a comparison. -/
inductive Literal where
  | null
  | bool (value : Bool)
  | int (value : Int)
  | float (value : Binary64)
  | string (value : String)
  | array (items : List Literal)
  | object (members : List (String × Json))
  deriving Repr, Inhabited

namespace Literal

/-- The kinds of values. -/
inductive Kind where
  | null
  | boolean
  | number
  | string
  | array
  | object
  deriving DecidableEq, Repr

/-- The name of a kind. -/
def Kind.name : Kind → String
  | .null => "null"
  | .boolean => "boolean"
  | .number => "number"
  | .string => "string"
  | .array => "array"
  | .object => "object"

/-- The kind of a value. -/
def kind : Literal → Kind
  | .null => .null
  | .bool _ => .boolean
  | .int _ => .number
  | .float _ => .number
  | .string _ => .string
  | .array _ => .array
  | .object _ => .object

/-- Why a value has no SQL text. -/
inductive Failure where
  | unsupported (kind : Kind)
  | nonFinite (value : Binary64)
  deriving DecidableEq, Repr

/-- Numbers are written without exponent and without a point after a whole
number; a tie goes up. -/
def floatLayout : Decimal.Layout where
  positional := fun _ => true
  wholeEnding := ""
  tie := .up

/-- The text of a double-precision number. -/
def floatText : Binary64 → String
  | .nan => "NaN"
  | .infinite false => "inf"
  | .infinite true => "-inf"
  | .finite negative significand exponent => floatLayout.text negative significand exponent

/-- The wording of a failure. -/
def Failure.message : Failure → String
  | .unsupported kind => "Unsupported value type: " ++ kind.name
  | .nonFinite value => "Non-finite number cannot be rendered as SQL: " ++ floatText value

/-- The characters that mark a string as an expression. -/
def isMarker (c : Char) : Bool :=
  c = '(' || c = ')' || c = '\x7b' || c = '\x7d'

/-- Whether a string is taken for an expression. -/
def isExpression (s : String) : Bool :=
  s.toList.any isMarker

/-- A string between single quotes, inner quotes doubled. -/
def quoted (s : String) : String :=
  Text.quoteDoubled '\'' s

/-- The SQL text of a string. -/
def stringText (s : String) : String :=
  if isExpression s then s else quoted s

/-- The SQL text of a value. -/
def sql : Literal → Except Failure String
  | .null => .ok "NULL"
  | .bool value => .ok (if value then "1" else "0")
  | .int value => .ok (Decimal.intText value)
  | .float value => if value.isFinite then .ok (floatText value) else .error (.nonFinite value)
  | .string value => .ok (stringText value)
  | .array _ => .error (.unsupported .array)
  | .object _ => .error (.unsupported .object)

/-- The SQL text, or the kind between angle brackets for want of one. -/
def display (value : Literal) : String :=
  match value.sql with
  | .ok text => text
  | .error _ => "<" ++ value.kind.name ++ ">"

mutual

/-- The literal that a JSON value stands for.  An integer past 64 bits with sign
becomes a double-precision number. -/
def ofJson : Json → Literal
  | .null => .null
  | .bool value => .bool value
  | .int value => if Json.isInt64 value then .int value else .float (.ofInt value)
  | .float value => .float value
  | .str value => .string value
  | .arr items => .array (ofItems items)
  | .obj members => .object members

/-- The literals of the items of an array. -/
def ofItems : List Json → List Literal
  | [] => []
  | item :: rest => ofJson item :: ofItems rest

end

end Literal
end QueryArtifacts
