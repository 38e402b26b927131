import QueryArtifacts.Proofs.Template.Insertions
import QueryArtifacts.Proofs.Template.Placeholders

/-!
# Scanning a placeholder

A placeholder is written as a block with a call and read by a scan that knows nothing of how it was
written.  The scan finds it whole as long as its name reads as a name and its default does not end
the block.

* `Template.scan_blockText` — the scan of a body that is one block.
* `Parameter.placeholderToken` — the token that covers a placeholder.
* `Parameter.scan_placeholder_iff` — when the scan reports that token and nothing else.
-/

namespace QueryArtifacts

open Template

namespace Template

/-! ## One block -/

theorem blockText_injective {inside inside' : List Char}
    (hsame : blockText inside = blockText inside') : inside = inside' := by
  unfold blockText at hsame
  exact List.append_cancel_right (List.cons.inj (List.cons.inj hsame).2).2

/-- A body that is one block with a call is scanned as that call. -/
theorem scan_blockText {inside : List Char} {reference : Reference} (hinside : Inside inside)
    (hread : Reference.ofText? inside = some reference) {body : String}
    (hbody : body.toList = blockText inside) :
    scan body = [{ reference with start := 0, stop := body.utf8ByteSize, text := body }] := by
  have htext : String.ofList (blockText inside) = body := by
    rw [← hbody, String.ofList_toList]
  have hsize : Text.byteLength (blockText inside) = body.utf8ByteSize := by
    rw [Text.byteLength_eq_utf8ByteSize, htext]
  rw [scan, hbody, cut_blockText hinside]
  simp only [tokensFrom, hread, htext, hsize, Text.byteLength_nil, Nat.zero_add]

end Template

namespace Parameter

/-! ## Placeholders -/

/-- The token of a placeholder that covers it. -/
def placeholderToken (parameter : Parameter) (name : String) : Token where
  typeName := parameter.tokenType.name
  name := name
  hasArguments := parameter.required || parameter.default.isSome
  start := 0
  stop := (parameter.placeholder name).utf8ByteSize
  text := parameter.placeholder name

theorem hasArguments_placeholder (parameter : Parameter) :
    (!parameter.placeholderArgument.toList.isEmpty) =
      (parameter.required || parameter.default.isSome) := by
  unfold placeholderArgument
  cases parameter.required with
  | true => simp
  | false => cases parameter.default <;> simp

/-- A default that is shown inside a block does not end it. -/
theorem enclosed_of_inside {parameter : Parameter} {name : String}
    (hinside : Inside (parameter.placeholderInside name)) : parameter.Enclosed := by
  intro hrequired value hdefault hend
  refine (Text.splitAtPair_eq_none_iff.mp hinside) (hend.trans ?_)
  refine ⟨' ' :: (parameter.tokenType.name.toList ++ '(' :: (name.toList ++ [',', ' '])),
    [')', ' ', '\x7d'], ?_⟩
  simp [placeholderInside, callText, placeholderArgument, hrequired, hdefault]

/-- **The scan finds a placeholder exactly if its name is an identifier and its default stays inside
the block.**  It then reports one token that covers the placeholder, with the type, the name, and an
argument if the parameter is required or has a default. -/
theorem scan_placeholder_iff (parameter : Parameter) (name : String) :
    scan (parameter.placeholder name) = [parameter.placeholderToken name] ↔
      IsIdentifier name.toList ∧
        (parameter.required = true ∨ parameter.default = none ∨
          ∃ value, parameter.default = some value ∧
            ¬ ['\x7d', '\x7d'] <:+: (parameter.tokenType.defaultText value).toList) := by
  have henclosed : (parameter.required = true ∨ parameter.default = none ∨
      ∃ value, parameter.default = some value ∧
        ¬ ['\x7d', '\x7d'] <:+: (parameter.tokenType.defaultText value).toList) ↔
      parameter.Enclosed := by
    unfold Enclosed
    cases parameter.required <;> cases parameter.default <;> simp
  rw [henclosed]
  constructor
  · intro hscan
    have hmem : parameter.placeholderToken name ∈ scan (parameter.placeholder name) := by
      rw [hscan]
      exact List.mem_singleton_self _
    -- The block of the token is the whole placeholder, so that the cut found its inside.
    obtain ⟨⟨gap, inside⟩, hblock, hread, htext⟩ := exists_block_of_mem_tokensFrom hmem
    have hinside : inside = parameter.placeholderInside name := by
      have hsame := congrArg String.toList htext
      rw [String.toList_ofList] at hsame
      exact blockText_injective (hsame.symm.trans (parameter.toList_placeholder name))
    rw [hinside] at hblock
    exact ⟨(Reference.isIdentifier_of_ofText? hread).2,
      enclosed_of_inside (gap_and_inside_of_mem_cut _ hblock).2⟩
  · rintro ⟨hname, henclosed⟩
    rw [scan_blockText (inside_placeholder hname henclosed) (parameter.ofText?_placeholder hname)
      (parameter.toList_placeholder name), hasArguments_placeholder]
    rfl

end Parameter
end QueryArtifacts
