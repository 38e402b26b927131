import QueryArtifacts.Text.Split

/-!
# Template blocks

A template body is cut at its complete blocks: two opening braces, a text
without two closing braces in a row, and two closing braces.  The first pair of
opening braces opens a block, the first pair of closing braces after it ends the
block, and the search goes on behind it.  An opening without an end is text.

* `Cut` — the blocks, each with the text before it, and the text after the last.
* `cut` — the cut of a body.
* `text_cut` — nothing is lost: the pieces of the cut spell the body.
-/

namespace QueryArtifacts
namespace Template

/-- A body cut at its blocks. -/
structure Cut where
  /-- Every block: the text before it and the text inside its braces. -/
  blocks : List (List Char × List Char)
  /-- The text after the last block. -/
  tail : List Char
  deriving DecidableEq, Repr

/-- The text of a block. -/
def blockText (inside : List Char) : List Char :=
  '\x7b' :: '\x7b' :: inside ++ ['\x7d', '\x7d']

/-- The body that a cut comes from. -/
def Cut.text (c : Cut) : List Char :=
  c.blocks.flatMap (fun (gap, inside) => gap ++ blockText inside) ++ c.tail

/-- Cut a body at its blocks. -/
def cut (body : List Char) : Cut :=
  match _hopen : Text.splitAtPair '\x7b' '\x7b' body with
  | none => ⟨[], body⟩
  | some (gap, rest) =>
      match _hclose : Text.splitAtPair '\x7d' '\x7d' rest with
      | none => ⟨[], body⟩
      | some (inside, after) =>
          let more := cut after
          ⟨(gap, inside) :: more.blocks, more.tail⟩
termination_by body.length
decreasing_by
  have hbody := Text.length_of_splitAtPair _hopen
  have hrest := Text.length_of_splitAtPair _hclose
  omega

/-- The pieces of a cut spell the body. -/
theorem text_cut (body : List Char) : (cut body).text = body := by
  fun_induction cut body with
  | case1 => simp [Cut.text]
  | case2 => simp [Cut.text]
  | case3 body gap rest hopen inside after hclose more ih =>
      rw [Text.eq_append_of_splitAtPair hopen, Text.eq_append_of_splitAtPair hclose]
      simpa [Cut.text, blockText] using ih

end Template
end QueryArtifacts
