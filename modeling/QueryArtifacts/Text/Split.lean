/-!
# Splitting at the first marker

* `splitAtPair a b` — cut at the first place where `a` is followed by `b`.
* `splitAtChar a` — cut at the first `a`.
* `byteLength` — the UTF-8 length, the unit in which positions are reported.

Both splitters return what stands before and after the marker, and the text is
those two parts with the marker between them.
-/

namespace QueryArtifacts
namespace Text

/-- Cut at the first `a` that is followed by `b`. -/
def splitAtPair (a b : Char) : List Char → Option (List Char × List Char)
  | [] => none
  | [_] => none
  | x :: y :: rest =>
      if x = a ∧ y = b then
        some ([], rest)
      else
        (splitAtPair a b (y :: rest)).map fun (before, after) => (x :: before, after)

/-- Cut at the first `a`. -/
def splitAtChar (a : Char) : List Char → Option (List Char × List Char)
  | [] => none
  | x :: rest =>
      if x = a then
        some ([], rest)
      else
        (splitAtChar a rest).map fun (before, after) => (x :: before, after)

/-- The parts and the marker between them are the text. -/
theorem eq_append_of_splitAtPair {a b : Char} {s before after : List Char}
    (hsplit : splitAtPair a b s = some (before, after)) : s = before ++ a :: b :: after := by
  fun_induction splitAtPair a b s generalizing before after with
  | case1 => simp at hsplit
  | case2 => simp at hsplit
  | case3 x y rest hxy =>
      obtain ⟨rfl, rfl⟩ := hxy
      simp only [Option.some.injEq, Prod.mk.injEq] at hsplit
      obtain ⟨rfl, rfl⟩ := hsplit
      rfl
  | case4 x y rest hxy ih =>
      simp only [Option.map_eq_some_iff, Prod.exists, Prod.mk.injEq] at hsplit
      obtain ⟨before', after', hsub, rfl, rfl⟩ := hsplit
      rw [ih hsub, List.cons_append]

/-- The parts and the marker between them are the text. -/
theorem eq_append_of_splitAtChar {a : Char} {s before after : List Char}
    (hsplit : splitAtChar a s = some (before, after)) : s = before ++ a :: after := by
  fun_induction splitAtChar a s generalizing before after with
  | case1 => simp at hsplit
  | case2 rest =>
      simp only [Option.some.injEq, Prod.mk.injEq] at hsplit
      obtain ⟨rfl, rfl⟩ := hsplit
      rfl
  | case3 x rest hx ih =>
      simp only [Option.map_eq_some_iff, Prod.exists, Prod.mk.injEq] at hsplit
      obtain ⟨before', after', hsub, rfl, rfl⟩ := hsplit
      rw [ih hsub, List.cons_append]

theorem length_of_splitAtPair {a b : Char} {s before after : List Char}
    (hsplit : splitAtPair a b s = some (before, after)) :
    s.length = before.length + after.length + 2 := by
  rw [eq_append_of_splitAtPair hsplit]
  simp
  omega

theorem length_of_splitAtChar {a : Char} {s before after : List Char}
    (hsplit : splitAtChar a s = some (before, after)) :
    s.length = before.length + after.length + 1 := by
  rw [eq_append_of_splitAtChar hsplit]
  simp
  omega

/-- The length of a text in UTF-8 bytes. -/
def byteLength : List Char → Nat
  | [] => 0
  | c :: cs => c.utf8Size + byteLength cs

@[simp] theorem byteLength_nil : byteLength [] = 0 := rfl

@[simp] theorem byteLength_cons (c : Char) (cs : List Char) :
    byteLength (c :: cs) = c.utf8Size + byteLength cs := rfl

@[simp] theorem byteLength_append (s t : List Char) :
    byteLength (s ++ t) = byteLength s + byteLength t := by
  induction s with
  | nil => simp
  | cons c rest ih => simp [ih, Nat.add_assoc]

theorem byteLength_eq_zero_iff {s : List Char} : byteLength s = 0 ↔ s = [] := by
  cases s with
  | nil => simp
  | cons c rest =>
      have hpositive := c.utf8Size_pos
      simp
      omega

/-- Two beginnings of one text are the same if they take the same number of bytes. -/
theorem eq_of_append_eq_append {s t more others : List Char} (htext : s ++ more = t ++ others)
    (hlength : byteLength s = byteLength t) : s = t := by
  rcases List.append_eq_append_iff.mp htext with ⟨rest, rfl, -⟩ | ⟨rest, rfl, -⟩
  · rw [byteLength_append, Nat.left_eq_add, byteLength_eq_zero_iff] at hlength
    rw [hlength, List.append_nil]
  · rw [byteLength_append, Nat.add_eq_left, byteLength_eq_zero_iff] at hlength
    rw [hlength, List.append_nil]

theorem byteLength_eq_utf8ByteSize (cs : List Char) :
    byteLength cs = (String.ofList cs).utf8ByteSize := by
  induction cs with
  | nil => rfl
  | cons c rest ih =>
      rw [byteLength_cons, ih, ← List.singleton_append, String.ofList_append,
        String.utf8ByteSize_append, ← String.singleton_eq_ofList, String.utf8ByteSize_singleton]

/-- The characters of a string take as many bytes as the string. -/
@[simp] theorem byteLength_toList (s : String) : byteLength s.toList = s.utf8ByteSize := by
  rw [byteLength_eq_utf8ByteSize, String.ofList_toList]

example : byteLength "日é1".toList = 6 := by decide

end Text
end QueryArtifacts
