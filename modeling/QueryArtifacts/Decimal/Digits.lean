/-!
# Decimal digits

The decimal text of natural numbers and integers: no leading zero, and a minus
sign only in front of a negative number; the reading of digits; and the powers by
which decimals and doubles are scaled.
-/

namespace QueryArtifacts
namespace Decimal

/-- The decimal digits of `n`, the most significant first. -/
def digits (n : Nat) : List Char :=
  Nat.toDigits 10 n

/-- The decimal text of a natural number. -/
def natText (n : Nat) : String :=
  String.ofList (digits n)

/-- The decimal text of an integer. -/
def intText : Int → String
  | .ofNat n => natText n
  | .negSucc n => String.ofList ('-' :: digits (n + 1))

/-- The digits of `n`, filled up in front with zeros to at least `width`. -/
def padded (width n : Nat) : String :=
  let ds := digits n
  String.ofList (List.replicate (width - ds.length) '0' ++ ds)

/-- The number that the digits of `cs` spell in base `base`; `none` if one of
them is no digit of that base. -/
def readDigits? (base : Nat) (cs : List Char) : Option Nat :=
  cs.foldl
    (fun total c => do
      let d ← digit? c
      if d < base then return base * (← total) + d else none)
    (some 0)
where
  /-- The value of one digit, letters of either case standing for 10 to 15. -/
  digit? (c : Char) : Option Nat :=
    if '0' ≤ c ∧ c ≤ '9' then some (c.toNat - '0'.toNat)
    else if 'a' ≤ c ∧ c ≤ 'f' then some (c.toNat - 'a'.toNat + 10)
    else if 'A' ≤ c ∧ c ≤ 'F' then some (c.toNat - 'A'.toNat + 10)
    else none

/-- A written power of ten that has come this far is read no further. -/
def powerLimit : Nat := 65536

/-- The power of ten that decimal digits spell.  Once the digits read so far spell
`powerLimit` or more, the rest of them changes nothing. -/
def readPower? (cs : List Char) : Option Nat :=
  cs.foldl
    (fun total c => do
      let d ← readDigits? 10 [c]
      let power ← total
      return if power < powerLimit then 10 * power + d else power)
    (some 0)

@[simp] theorem toList_natText (n : Nat) : (natText n).toList = digits n :=
  String.toList_ofList

theorem digits_ne_nil (n : Nat) : digits n ≠ [] :=
  List.ne_nil_of_length_pos Nat.length_toDigits_pos

/-- A power of two. -/
def twoPow (n : Nat) : Nat :=
  Nat.pow 2 n

/-- A power of ten. -/
def tenPow (n : Nat) : Nat :=
  Nat.pow 10 n

theorem twoPow_pos (n : Nat) : 0 < twoPow n :=
  Nat.pow_pos (by decide)

theorem tenPow_pos (n : Nat) : 0 < tenPow n :=
  Nat.pow_pos (by decide)

example : intText (-120) = "-120" := by decide
example : padded 2 7 = "07" := by decide
example : readDigits? 16 "fF".toList = some 255 := by decide
example : readPower? "655359".toList = some 655359 := by decide
example : readPower? "655360".toList = some 65536 := by decide

end Decimal
end QueryArtifacts
