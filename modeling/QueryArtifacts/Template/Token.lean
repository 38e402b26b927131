import QueryArtifacts.Template.Block
import QueryArtifacts.Text.Blank

/-!
# Template tokens

A token is a block that holds a call: a type name and, in parentheses, a
parameter name with or without further arguments.

* `Reference.ofText?` — the call inside a block.
* `scan` — the tokens of a body in order, with their positions in bytes.

A reference needs the closing parenthesis at its very end; what stands between
the name and that parenthesis is not looked at.
-/

namespace QueryArtifacts
namespace Template

/-- Characters of identifiers: ASCII letters and digits, and the underscore. -/
def isIdentifierChar (c : Char) : Bool :=
  c.isAlphanum || c = '_'

/-- The identifier in front, which starts with no digit, and what follows. -/
def takeIdentifier? (cs : List Char) : Option (List Char × List Char) :=
  match cs with
  | [] => none
  | c :: _ =>
      if isIdentifierChar c ∧ ¬ c.isDigit then
        some (cs.takeWhile isIdentifierChar, cs.dropWhile isIdentifierChar)
      else
        none

/-- The call that a block holds. -/
structure Reference where
  typeName : String
  name : String
  hasArguments : Bool
  deriving DecidableEq, Repr

/-- The call that stands inside a block. -/
def Reference.ofText? (inside : List Char) : Option Reference := do
  let (typeName, rest) ← takeIdentifier? (Text.trim inside)
  match Text.trimStart rest with
  | '(' :: rest =>
      let (name, rest) ← takeIdentifier? (Text.trimStart rest)
      let rest := Text.trimStart rest
      let hasArguments ←
        match rest with
        | ',' :: _ => some true
        | ')' :: _ => some false
        | _ => none
      if (Text.trimEnd rest).getLast? = some ')' then
        return ⟨String.ofList typeName, String.ofList name, hasArguments⟩
      else
        none
  | _ => none

/-- A reference with its place in the body, from its first byte to the byte
after its last. -/
structure Token extends Reference where
  start : Nat
  stop : Nat
  text : String
  deriving DecidableEq, Repr

/-- The tokens among blocks, the first gap starting at byte `offset`. -/
def tokensFrom (offset : Nat) : List (List Char × List Char) → List Token
  | [] => []
  | (gap, inside) :: more =>
      let start := offset + Text.byteLength gap
      let stop := start + Text.byteLength (blockText inside)
      match Reference.ofText? inside with
      | some reference =>
          { reference with start, stop, text := String.ofList (blockText inside) } ::
            tokensFrom stop more
      | none => tokensFrom stop more

/-- The tokens of a body, in order. -/
def scan (body : String) : List Token :=
  tokensFrom 0 (cut body.toList).blocks

example : (scan "a = \x7b\x7bInt64( b , 3 )\x7d\x7d").map (·.name) = ["b"] := by decide +kernel
example : scan "\x7b\x7b x \x7d\x7d \x7b\x7b (y) \x7d\x7d \x7b\x7b f(1) \x7d\x7d" = [] := by
  decide +kernel

end Template
end QueryArtifacts
