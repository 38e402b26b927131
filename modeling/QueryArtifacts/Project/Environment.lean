import QueryArtifacts.Decimal.Digits
import QueryArtifacts.Text.Split

/-!
# Environment variables

A project text refers to environment variables by a name between `${` and `}`.

* `Environment` — the value of each variable that is set.
* `expand` — the text with every reference replaced by its value.  Values are
  not searched again, and the first reference that fails decides the error.
-/

namespace QueryArtifacts

/-- The values of the variables that are set. -/
abbrev Environment := String → Option String

namespace Environment

/-- The environment of texts `NAME=VALUE`.  The value of a name is what follows
the name and an equals sign in the first text that begins so. -/
def ofVariables (assignments : List (String × String)) : Environment := fun name =>
  if name.isEmpty ∨ '\x00' ∈ name.toList then
    none
  else
    let opening := name.toList ++ ['=']
    assignments.findSome? fun (key, value) =>
      let entry := key.toList ++ '=' :: value.toList
      if opening.isPrefixOf entry then some (String.ofList (entry.drop opening.length)) else none

end Environment

/-- Why a text cannot be expanded. -/
inductive ExpandError where
  /-- The variable is not set. -/
  | missing (name : String)
  /-- The reference that starts at this byte has no end. -/
  | unterminated (start : Nat)
  deriving DecidableEq, Repr

/-- The wording of an error. -/
def ExpandError.message : ExpandError → String
  | .missing name => "Missing environment variable: " ++ name
  | .unterminated start =>
      "Unterminated variable reference starting at byte " ++ Decimal.natText start

/-- Expand the references of a text that starts at byte `offset`. -/
def expandFrom (environment : Environment) (offset : Nat) (cs : List Char) :
    Except ExpandError (List Char) :=
  match _hopen : Text.splitAtPair '$' '\x7b' cs with
  | none => .ok cs
  | some (before, rest) =>
      let start := offset + Text.byteLength before
      match _hclose : Text.splitAtChar '\x7d' rest with
      | none => .error (.unterminated start)
      | some (name, after) =>
          match environment (String.ofList name) with
          | none => .error (.missing (String.ofList name))
          | some value => do
              let next := start + Text.byteLength ('$' :: '\x7b' :: name ++ ['\x7d'])
              let expanded ← expandFrom environment next after
              return before ++ value.toList ++ expanded
termination_by cs.length
decreasing_by
  have hcs := Text.length_of_splitAtPair _hopen
  have hrest := Text.length_of_splitAtChar _hclose
  omega

/-- A text with its references replaced by the values of the variables. -/
def expand (environment : Environment) (text : String) : Except ExpandError String :=
  (expandFrom environment 0 text.toList).map String.ofList

/-- The names that a text refers to, in order. -/
def referencedNames (cs : List Char) : List String :=
  match _hopen : Text.splitAtPair '$' '\x7b' cs with
  | none => []
  | some (_, rest) =>
      match _hclose : Text.splitAtChar '\x7d' rest with
      | none => []
      | some (name, after) => String.ofList name :: referencedNames after
termination_by cs.length
decreasing_by
  have hcs := Text.length_of_splitAtPair _hopen
  have hrest := Text.length_of_splitAtChar _hclose
  omega

end QueryArtifacts
