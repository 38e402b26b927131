import QueryArtifacts.Json.Record

/-!
# Parameters

A pipe declares the parameters that its callers may pass.

* `Parameter.tokenType` — the type that a placeholder shows: a parameter with a
  list of allowed values is passed as a string.
* `Parameter.isConditional` — a parameter that may be missing altogether.
* `Parameter.toJson`, `Parameter.ofRecord?` — the record form of a parameter.
-/

namespace QueryArtifacts

/-- The types of parameters. -/
inductive ParameterType where
  | string
  | int64
  | float64
  | dateTime
  | date
  | boolean
  deriving DecidableEq, Repr, Inhabited

namespace ParameterType

/-- All types, in their order of declaration. -/
def all : List ParameterType :=
  [.string, .int64, .float64, .dateTime, .date, .boolean]

/-- The name of a type, in placeholders and in definitions. -/
def name : ParameterType → String
  | .string => "String"
  | .int64 => "Int64"
  | .float64 => "Float64"
  | .dateTime => "DateTime"
  | .date => "Date"
  | .boolean => "Boolean"

/-- The type of a given name. -/
def ofName? (name : String) : Option ParameterType :=
  all.find? fun type => type.name = name

/-- Whether a default of this type is quoted in a placeholder. -/
def isQuoted : ParameterType → Bool
  | .string | .dateTime | .date => true
  | .int64 | .float64 | .boolean => false

theorem mem_all (type : ParameterType) : type ∈ all := by
  cases type <;> decide

/-- Reading a name finds the type that has it. -/
theorem ofName?_eq_some_iff {name : String} {type : ParameterType} :
    ofName? name = some type ↔ type.name = name := by
  constructor
  · intro hfind
    have hname := List.find?_some hfind
    simpa using hname
  · rintro rfl
    cases type <;> decide

/-- Read a type, a variant that carries nothing. -/
def ofRecord? {α : Type} [RecordValue α] (record : α) : Option ParameterType := do
  ofName? (← RecordValue.variant? record)

end ParameterType

/-- A parameter of a pipe.  A default of `null` is a default. -/
structure Parameter where
  type : ParameterType
  required : Bool := false
  default : Option Json := none
  allowed : List String := []
  description : Option String := none
  deriving BEq, Repr, Inhabited

namespace Parameter

open RecordValue

/-- A parameter that takes one of the given values. -/
def enumeration (allowed : List String) : Parameter where
  type := .string
  allowed := allowed

/-- The type that a placeholder of the parameter shows. -/
def tokenType (parameter : Parameter) : ParameterType :=
  if parameter.allowed.isEmpty then parameter.type else .string

/-- Whether the parameter may be missing: it is not required and has no
default. -/
def isConditional (parameter : Parameter) : Bool :=
  !parameter.required && parameter.default.isNone

/-- A default that is a date or a time stands for its text. -/
def unwrapDatetime : Json → Json
  | .obj [(name, .str text)] =>
      if name = Json.datetimeMember then .str text else .obj [(name, .str text)]
  | value => value

/-- The record of a parameter, without the fields that are not set. -/
def toJson (parameter : Parameter) : Json :=
  .obj <|
    [("type", .str parameter.type.name), ("required", .bool parameter.required)] ++
    parameter.default.toList.map (fun value => ("default", value)) ++
    (if parameter.allowed.isEmpty then []
      else [("enum", .arr (parameter.allowed.map .str))]) ++
    parameter.description.toList.map (fun text => ("description", .str text))

/-- Read the record of a parameter. -/
def ofRecord? {α : Type} [RecordValue α] (record : α) : Option Parameter := do
  let fields ← fields? ["type", "required", "default", "enum", "description"] record
  let type ← required? fields "type" ParameterType.ofRecord?
  let required ← optional? fields "required" false bool?
  let default ← optional? fields "default" none fun value =>
    (free? value).map fun free => some (unwrapDatetime free)
  let allowed ← optional? fields "enum" [] strings?
  let description ← optional? fields "description" none (orAbsent? string?)
  return { type, required, default, allowed, description }

end Parameter

/-- The parameters of a pipe by name. -/
abbrev Parameters := NameMap Parameter

namespace Parameters

/-- The object that maps the names to the records of their parameters. -/
def toJson (parameters : Parameters) : Json :=
  Json.ofNameMap Parameter.toJson parameters

/-- Read a table of parameters. -/
def ofRecord? {α : Type} [RecordValue α] : α → Option Parameters :=
  RecordValue.nameMap? Parameter.ofRecord?

end Parameters
end QueryArtifacts
