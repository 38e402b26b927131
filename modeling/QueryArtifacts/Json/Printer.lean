import QueryArtifacts.Decimal.Layout
import QueryArtifacts.Json.Basic

/-!
# JSON text

`Json.text` writes a value on one line without spaces.  Only the quote, the
backslash and the control characters below U+0020 are escaped in a string, and a
number that is not finite is written as `null`.
-/

namespace QueryArtifacts
namespace Json

/-- The character of a lower-case hexadecimal digit. -/
def hexDigit (n : Nat) : Char :=
  if n < 10 then Char.ofNat ('0'.toNat + n) else Char.ofNat ('a'.toNat + (n - 10))

/-- How one character stands in a JSON string. -/
def escapedChar (c : Char) : List Char :=
  if c = '"' then ['\\', '"']
  else if c = '\\' then ['\\', '\\']
  else if c = '\x08' then ['\\', 'b']
  else if c = '\t' then ['\\', 't']
  else if c = '\n' then ['\\', 'n']
  else if c = '\x0c' then ['\\', 'f']
  else if c = '\r' then ['\\', 'r']
  else if c < ' ' then
    ['\\', 'u', '0', '0', hexDigit (c.toNat / 16), hexDigit (c.toNat % 16)]
  else [c]

/-- A string between quotes. -/
def stringText (s : String) : String :=
  String.ofList ('"' :: s.toList.flatMap escapedChar ++ ['"'])

/-- Numbers that are no integers are written positionally while the scientific
exponent is from `-5` to `15`, a whole one with `.0`; a tie goes to the even
digit. -/
def floatLayout : Decimal.Layout where
  positional := fun e => -5 ≤ e && e ≤ 15
  wholeEnding := ".0"
  tie := .toEven

/-- The text of a number that is no integer. -/
def floatText : Binary64 → String
  | .finite negative significand exponent => floatLayout.text negative significand exponent
  | _ => "null"

mutual

/-- The text of a value. -/
def text : Json → String
  | .null => "null"
  | .bool true => "true"
  | .bool false => "false"
  | .int n => Decimal.intText n
  | .float x => floatText x
  | .str s => stringText s
  | .arr items => "[" ++ ",".intercalate (itemTexts items) ++ "]"
  | .obj members => "\x7b" ++ ",".intercalate (memberTexts members) ++ "\x7d"

/-- The texts of the items of an array. -/
def itemTexts : List Json → List String
  | [] => []
  | item :: rest => text item :: itemTexts rest

/-- The texts of the members of an object. -/
def memberTexts : List (String × Json) → List String
  | [] => []
  | (name, value) :: rest => (stringText name ++ ":" ++ text value) :: memberTexts rest

end

example : text (.obj [("a", .arr [.int (-1), .null]), ("b", .str "\n/")]) =
    "\x7b\"a\":[-1,null],\"b\":\"\\n/\"\x7d" := by decide +kernel
example : text (.float (.ofDecimal false 15 300)) = "1.5e+301" := by decide +kernel
example : text (.float (.zero true)) = "-0.0" := by decide +kernel

end Json
end QueryArtifacts
