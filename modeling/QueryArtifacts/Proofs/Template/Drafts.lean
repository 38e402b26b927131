import QueryArtifacts.Proofs.Query.RelatedTexts
import QueryArtifacts.Proofs.Template.Placeholders

/-!
# Drafts

A draft is a text in which the places of placeholders are still open.  Filled with the placeholders
of the parameters and then wrapped, it is the draft filled with guarded placeholders from the start.

* `Draft`, `Draft.fill` — pieces of text and places of placeholders; putting placeholders in.
* `Parameters.Readable` — the parameters whose placeholders are found again.
* `Draft.wrap_fill` — wrapping after filling.
* `Twins` — the two texts of one draft; `twins_textRelation` — the renderer keeps them twins.
-/

namespace QueryArtifacts

open Template

namespace Parameters

/-- The placeholders, those of parameters that may be missing under their condition. -/
def guardedPlaceholders (parameters : Parameters) : Placeholders :=
  parameters.map fun name parameter => parameter.guardedPlaceholder name

/-- All names are identifiers, and no default that is shown ends a block. -/
structure Readable (parameters : Parameters) : Prop where
  identifier : ∀ entry ∈ parameters.toList, IsIdentifier entry.1.toList
  enclosed : ∀ entry ∈ parameters.toList, entry.2.Enclosed

end Parameters

/-- A text without braces, or the place of a declared parameter's placeholder. -/
inductive Piece (parameters : Parameters) where
  | plain (text : String) (hfree : BraceFree text)
  | token (name : String) (hdeclared : (parameters.get? name).isSome)

/-- A concatenation of texts without braces and placeholders. -/
abbrev Draft (parameters : Parameters) := List (Piece parameters)

variable {parameters : Parameters}

/-- The text of a piece with the given placeholders. -/
def Piece.text (tokens : Placeholders) : Piece parameters → String
  | .plain text _ => text
  | .token name _ => (tokens.get? name).getD ""

namespace Draft

/-- The text of a draft with the given placeholders. -/
def fill (tokens : Placeholders) (draft : Draft parameters) : String :=
  String.join (draft.map (Piece.text tokens))

theorem fill_cons (tokens : Placeholders) (piece : Piece parameters) (rest : Draft parameters) :
    fill tokens (piece :: rest) = piece.text tokens ++ fill tokens rest := by
  rw [fill, List.map_cons, String.join_cons, fill]

theorem fill_append (tokens : Placeholders) (draft draft' : Draft parameters) :
    fill tokens (draft ++ draft') = fill tokens draft ++ fill tokens draft' := by
  rw [fill, List.map_append, String.join_append, fill, fill]

/-! ## Wrapping a filled draft -/

/-- The cut of a filled draft, with text `gap` in front of it, is wrapped block by block into the
draft filled with guarded placeholders. -/
theorem wrapBlocks_fill (hreadable : parameters.Readable) (draft : Draft parameters)
    {gap : List Char} (hgap : '\x7b' ∉ gap) :
    let pieces := cut (gap ++ (draft.fill parameters.placeholders).toList)
    ∃ wrapped, wrapBlocks parameters pieces.blocks = .ok wrapped ∧
      wrapped ++ pieces.tail = gap ++ (draft.fill parameters.guardedPlaceholders).toList := by
  induction draft generalizing gap with
  | nil =>
      have hempty (tokens : Placeholders) : (fill tokens ([] : Draft parameters)).toList = [] := rfl
      rw [hempty, hempty, List.append_nil, cut_of_not_mem hgap]
      exact ⟨[], rfl, rfl⟩
  | cons piece rest ih =>
      rw [fill_cons, fill_cons, String.toList_append, String.toList_append, ← List.append_assoc,
        ← List.append_assoc]
      cases piece with
      -- A plain piece joins the gap before the next block.
      | plain text hfree =>
          refine ih fun hmem => ?_
          rcases List.mem_append.mp hmem with hold | hnew
          · exact hgap hold
          · exact hfree.opening_not_mem hnew
      | token name hdeclared =>
          obtain ⟨parameter, hparameter⟩ := Option.isSome_iff_exists.mp hdeclared
          have hentry := NameMap.mem_toList_of_get? hparameter
          have hname := hreadable.identifier _ hentry
          have hinside := Parameter.inside_placeholder hname (hreadable.enclosed _ hentry)
          have hplain : (Piece.text parameters.placeholders (.token name hdeclared)).toList =
              blockText (parameter.placeholderInside name) := by
            rw [Piece.text, Parameters.placeholders, NameMap.get?_map, hparameter]
            exact parameter.toList_placeholder name
          have hguarded : Piece.text parameters.guardedPlaceholders (.token name hdeclared) =
              parameter.guardedPlaceholder name := by
            rw [Piece.text, Parameters.guardedPlaceholders, NameMap.get?_map, hparameter]
            rfl
          -- The placeholder is the first block; the gap after it starts empty.
          obtain ⟨wrapped, hwrapped, htail⟩ := @ih [] List.not_mem_nil
          simp only [List.nil_append] at hwrapped htail
          rw [hplain, hguarded, cut_append_block (gap_of_not_mem hgap) hinside]
          refine ⟨gap ++ (parameter.guardedPlaceholder name).toList ++ wrapped, ?_, ?_⟩
          · simp only [wrapBlocks, wrapBlock_placeholder hparameter hname, hwrapped]
            rfl
          · rw [List.append_assoc, htail]

/-- Wrapping a draft with plain placeholders gives the draft with guarded ones. -/
theorem wrap_fill (hreadable : parameters.Readable) (draft : Draft parameters) :
    wrap parameters (draft.fill parameters.placeholders) =
      .ok (draft.fill parameters.guardedPlaceholders) := by
  obtain ⟨wrapped, hwrapped, htail⟩ := wrapBlocks_fill hreadable draft List.not_mem_nil
  simp only [List.nil_append] at hwrapped htail
  rw [wrap]
  simp only [hwrapped]
  change Except.ok (String.ofList _) = _
  rw [htail, String.ofList_toList]

/-! ## String values -/

theorem fill_of_plain {draft : Draft parameters}
    (hplain : ∀ name hdeclared, Piece.token name hdeclared ∉ draft)
    (tokens tokens' : Placeholders) :
    draft.fill tokens = draft.fill tokens' ∧ BraceFree (draft.fill tokens) := by
  induction draft with
  | nil =>
      refine ⟨rfl, ?_⟩
      change BraceFree ""
      decide
  | cons piece rest ih =>
      obtain ⟨hsame, hfree⟩ := ih fun name hdeclared hmem =>
        hplain name hdeclared (List.mem_cons_of_mem _ hmem)
      cases piece with
      | token name hdeclared => exact absurd (List.mem_cons_self ..) (hplain name hdeclared)
      | plain text htext =>
          rw [fill_cons, fill_cons, hsame]
          exact ⟨rfl, htext.append (hsame ▸ hfree)⟩

/-- A draft with a place for a placeholder reads as an expression. -/
theorem isExpression_fill {draft : Draft parameters} {tokens : Placeholders} {name : String}
    {hdeclared : (parameters.get? name).isSome} (hmem : .token name hdeclared ∈ draft)
    (hopen : '\x7b' ∈ (Piece.text tokens (.token name hdeclared)).toList) :
    Literal.isExpression (draft.fill tokens) = true := by
  have hfill : '\x7b' ∈ (draft.fill tokens).toList := by
    induction draft with
    | nil => cases hmem
    | cons piece rest ih =>
        rw [fill_cons, String.toList_append, List.mem_append]
        rcases List.mem_cons.mp hmem with rfl | hrest
        · exact Or.inl hopen
        · exact Or.inr (ih hrest)
  exact List.any_eq_true.mpr ⟨_, hfill, by decide⟩

end Draft

/-! ## Twins -/

/-- The two texts of one draft, with plain and with guarded placeholders. -/
def Twins (parameters : Parameters) (plain guarded : String) : Prop :=
  ∃ draft : Draft parameters, plain = draft.fill parameters.placeholders ∧
    guarded = draft.fill parameters.guardedPlaceholders

theorem Twins.of_braceFree {text : String} (hfree : BraceFree text) :
    Twins parameters text text := by
  have hfill (tokens : Placeholders) :
      Draft.fill tokens [(.plain text hfree : Piece parameters)] = text := by
    rw [Draft.fill_cons]
    exact String.append_empty
  exact ⟨[.plain text hfree], (hfill _).symm, (hfill _).symm⟩

theorem opening_mem_guardedPlaceholder (parameter : Parameter) (name : String) :
    '\x7b' ∈ (parameter.guardedPlaceholder name).toList := by
  have hplain : '\x7b' ∈ (parameter.placeholder name).toList := by
    rw [parameter.toList_placeholder]
    exact List.mem_cons_self ..
  rw [parameter.toList_guardedPlaceholder]
  split
  · exact List.mem_append_left _ (List.mem_append_right _ hplain)
  · exact hplain

theorem twins_textRelation (parameters : Parameters) : TextRelation (Twins parameters) where
  fixed := fun _ hfree => .of_braceFree hfree
  append := by
    rintro _ _ _ _ ⟨draft, rfl, rfl⟩ ⟨draft', rfl, rfl⟩
    exact ⟨draft ++ draft', (Draft.fill_append ..).symm, (Draft.fill_append ..).symm⟩
  stringText := by
    rintro _ _ ⟨draft, rfl, rfl⟩
    -- A placeholder brings a brace into both texts, and then neither is quoted.
    by_cases htoken : ∃ name hdeclared, Piece.token name hdeclared ∈ draft
    · obtain ⟨name, hdeclared, hmem⟩ := htoken
      obtain ⟨parameter, hparameter⟩ := Option.isSome_iff_exists.mp hdeclared
      have hplain : Literal.isExpression (draft.fill parameters.placeholders) = true := by
        refine Draft.isExpression_fill hmem ?_
        rw [Piece.text, Parameters.placeholders, NameMap.get?_map, hparameter, Option.map_some,
          Option.getD_some, parameter.toList_placeholder]
        exact List.mem_cons_self ..
      have hguarded : Literal.isExpression (draft.fill parameters.guardedPlaceholders) = true := by
        refine Draft.isExpression_fill hmem ?_
        rw [Piece.text, Parameters.guardedPlaceholders, NameMap.get?_map, hparameter]
        exact opening_mem_guardedPlaceholder parameter name
      rw [Literal.stringText, Literal.stringText, if_pos hplain, if_pos hguarded]
      exact ⟨draft, rfl, rfl⟩
    · have hplain : ∀ name hdeclared, Piece.token name hdeclared ∉ draft :=
        fun name hdeclared hmem => htoken ⟨name, hdeclared, hmem⟩
      obtain ⟨hsame, hfree⟩ :=
        Draft.fill_of_plain hplain parameters.placeholders parameters.guardedPlaceholders
      rw [← hsame]
      exact .of_braceFree hfree.stringText

end QueryArtifacts
