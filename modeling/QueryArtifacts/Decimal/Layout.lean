import QueryArtifacts.Decimal.Shortest

/-!
# Written decimals

How the shortest decimal of a double is laid out.  A `Layout` holds the choices
of one output format; `Layout.text` writes a finite double by them.
-/

namespace QueryArtifacts
namespace Decimal

/-- The choices of one format for finite doubles. -/
structure Layout where
  /-- The scientific exponents that are written without an exponent. -/
  positional : Int → Bool
  /-- What stands after the digits of a whole number written positionally. -/
  wholeEnding : String
  /-- Which of two equally near decimals is taken. -/
  tie : Tie

/-- The digits with a point so that they denote `digits · 10 ^ power`. -/
def positionalText (wholeEnding : String) (ds : List Char) (power : Int) : String :=
  if 0 ≤ power then
    String.ofList (ds ++ List.replicate power.toNat '0') ++ wholeEnding
  else
    let places := (-power).toNat
    let filled := List.replicate (places + 1 - ds.length) '0' ++ ds
    let whole := filled.length - places
    String.ofList (filled.take whole ++ '.' :: filled.drop whole)

/-- One digit before the point and a signed exponent of ten. -/
def scientificText (ds : List Char) (exponent : Int) : String :=
  let mantissa :=
    match ds with
    | first :: second :: more => String.ofList (first :: '.' :: second :: more)
    | _ => String.ofList ds
  mantissa ++ (if exponent < 0 then "e-" else "e+") ++ natText exponent.natAbs

/-- The text of a finite double without its sign. -/
def Layout.magnitudeText (layout : Layout) (significand : Nat) (exponent : Int) : String :=
  if significand = 0 then
    "0" ++ layout.wholeEnding
  else
    let s := shortest layout.tie significand exponent
    let ds := digits s.digits
    let e := s.power + ds.length - 1
    if layout.positional e then
      positionalText layout.wholeEnding ds s.power
    else
      scientificText ds e

/-- The text of a finite double. -/
def Layout.text (layout : Layout) (negative : Bool) (significand : Nat)
    (exponent : Int) : String :=
  (if negative then "-" else "") ++ layout.magnitudeText significand exponent

example : positionalText "" ['1', '5'] (-3) = "0.015" := by decide
example : scientificText ['1', '5'] 300 = "1.5e+300" := by decide

end Decimal
end QueryArtifacts
