import QueryArtifacts.Proofs.Template.Insertions
import QueryArtifacts.Proofs.Template.Scan

/-!
# Bare tokens

A token is bare if a closing parenthesis follows the name.  The block then has to end in a closing
parenthesis, but this need not be the same one: `String(a) + f(b)` is read as a bare `String(a)`.
How many closing parentheses the token holds tells the two cases apart.

* `Token.IsBareCall` — a token that is nothing but a call.
* `isBareCall_iff_count` — a bare token is one exactly if it has a single closing parenthesis.
* `bare_tokens` — what a bare token looks like, and what wrapping does with it.
-/

namespace QueryArtifacts
namespace Template

/-- A token that is nothing but a call: blanks may stand before and behind its names and its
parentheses, and nothing else. -/
def Token.IsBareCall (token : Token) : Prop :=
  ∃ inside blanks, token.text.toList = blockText inside ∧
    token.Spells (')' :: blanks) inside ∧ Text.allBlank blanks = true

/-! ## Closing parentheses -/

theorem count_of_allBlank {blanks : List Char} (hblanks : Text.allBlank blanks = true) :
    blanks.count ')' = 0 :=
  List.count_eq_zero.mpr fun hmem => absurd (List.all_eq_true.mp hblanks _ hmem) (by decide)

theorem count_of_isIdentifier {name : List Char} (hname : IsIdentifier name) :
    name.count ')' = 0 :=
  List.count_eq_zero.mpr (hname.not_mem (by decide))

/-- A call brings one closing parenthesis into its block. -/
theorem Reference.Spells.count {reference : Reference} {more inside : List Char}
    (htype : IsIdentifier reference.typeName.toList) (hname : IsIdentifier reference.name.toList)
    (hspells : reference.Spells (')' :: more) inside) :
    (blockText inside).count ')' = more.count ')' + 1 := by
  obtain ⟨b₁, b₂, b₃, b₄, hblanks, rfl⟩ := hspells
  have hnone : ∀ b ∈ [b₁, b₂, b₃, b₄], b.count ')' = 0 := fun b hb =>
    count_of_allBlank (hblanks b hb)
  simp only [List.forall_mem_cons, List.not_mem_nil, false_imp_iff, implies_true, and_true]
    at hnone
  simp [blockText, List.count_append, hnone, count_of_isIdentifier htype,
    count_of_isIdentifier hname]

theorem exists_spells_of_bare {body : String} {token : Token} (hmem : token ∈ scan body)
    (hbare : token.hasArguments = false) :
    IsIdentifier token.typeName.toList ∧ IsIdentifier token.name.toList ∧
      ∃ inside more, token.text.toList = blockText inside ∧ token.Spells (')' :: more) inside ∧
        (Text.allBlank more = true ∨ EndsInParenthesis more) := by
  obtain ⟨⟨gap, inside⟩, -, hread, htext⟩ := exists_block_of_mem_tokensFrom hmem
  obtain ⟨htype, hname, tail, hspells, hhead, before, blanks, hblanks, htail⟩ :=
    Reference.ofText?_eq_some_iff.mp hread
  refine ⟨htype, hname, inside, ?_⟩
  have hinside : token.text.toList = blockText inside := by rw [htext, String.toList_ofList]
  rw [htail] at hspells hhead
  -- The parenthesis at the end is the one of the call, or comes later.
  cases before with
  | nil => exact ⟨blanks, hinside, hspells, Or.inl hblanks⟩
  | cons first rest =>
      obtain rfl : first = ')' := by simpa [hbare] using hhead
      exact ⟨rest ++ ')' :: blanks, hinside, hspells, Or.inr ⟨rest, blanks, hblanks, rfl⟩⟩

/-- A bare token is nothing but its call exactly if it has a single closing parenthesis. -/
theorem isBareCall_iff_count {body : String} {token : Token} (hmem : token ∈ scan body)
    (hbare : token.hasArguments = false) :
    token.IsBareCall ↔ token.text.toList.count ')' = 1 := by
  obtain ⟨htype, hname, inside, more, htext, hspells, hmore⟩ := exists_spells_of_bare hmem hbare
  constructor
  · rintro ⟨inside', blanks, htext', hspells', hblanks⟩
    rw [htext', hspells'.count htype hname, count_of_allBlank hblanks]
  · intro hcount
    rw [htext, hspells.count htype hname, Nat.add_eq_right, List.count_eq_zero] at hcount
    refine ⟨inside, more, htext, hspells, hmore.resolve_right ?_⟩
    rintro ⟨before, blanks, -, rfl⟩
    exact hcount (List.mem_append_right _ (List.mem_cons_self ..))

/-! ## Bare tokens and wrapping -/

/-- **A bare token is the call and what follows it up to a closing parenthesis.**  It is nothing but
the call exactly if that parenthesis is its only one.  Wrapping goes by the bare tokens of the scan:
what it puts under conditions is such a token each time, nothing but a call again exactly if there
is a single closing parenthesis, and no token of a known type and an undeclared name is left. -/
theorem bare_tokens (parameters : Parameters) (body : String) :
    (∀ token ∈ scan body, token.hasArguments = false →
      (token.IsBareCall ↔ token.text.toList.count ')' = 1) ∧
      ∃ inside more, token.text.toList = blockText inside ∧ token.Spells (')' :: more) inside ∧
        (Text.allBlank more = true ∨ EndsInParenthesis more)) ∧
    ∀ wrapped, wrap parameters body = .ok wrapped →
      (∀ token ∈ scan body, ¬ token.IsUndeclared parameters) ∧
      ∃ tokens : List Token, tokens.Sublist (scan body) ∧
        wrapped.toList = Text.insertFrom
          (tokens.flatMap fun token => [token.opening, token.ending]) 0 body.toList ∧
        ∀ token ∈ tokens, token.hasArguments = false ∧
          (token.IsBareCall ↔ token.text.toList.count ')' = 1) := by
  refine ⟨fun token hmem hbare => ⟨isBareCall_iff_count hmem hbare, ?_⟩, fun wrapped hwrap => ?_⟩
  · exact (exists_spells_of_bare hmem hbare).2.2
  · cases hfind : (scan body).find? (·.IsUndeclared parameters) with
    | some token =>
        rw [wrap_of_undeclared hfind] at hwrap
        cases hwrap
    | none =>
        rw [wrap_eq_insertFrom hfind] at hwrap
        cases hwrap
        refine ⟨by simpa using hfind, (scan body).filter (·.IsConditional parameters),
          List.filter_sublist, String.toList_ofList, fun token hmem => ?_⟩
        obtain ⟨hscan, hconditional⟩ := List.mem_filter.mp hmem
        have hbare : token.hasArguments = false := (of_decide_eq_true hconditional).1
        exact ⟨hbare, isBareCall_iff_count hscan hbare⟩

/-- A token that is wrapped, and nothing but its call. -/
theorem bare_tokens_twoByteBody :
    ∃ token ∈ scan twoByteBody, token.hasArguments = false ∧ token.IsBareCall := by
  have hmem : (⟨⟨"String", "device", false⟩, 2, 20, "\x7b\x7bString(device)\x7d\x7d"⟩ : Token) ∈
      scan twoByteBody := by
    decide +kernel
  exact ⟨_, hmem, rfl, (((bare_tokens deviceAndDate twoByteBody).1 _ hmem rfl).1).mpr (by decide)⟩

/-- A token that is read as the bare `device`, wrapped as such, and hides the undeclared `ghost`. -/
def compoundBody : String :=
  "\x7b\x7b String(device) + Int64(ghost) \x7d\x7d"

theorem exists_bare_not_bareCall :
    (∃ token ∈ scan compoundBody, token.hasArguments = false ∧ ¬ token.IsBareCall) ∧
    "ghost" ∉ deviceAndDate.names ∧
    wrap deviceAndDate compoundBody = .ok ("\x7b% if defined(device) %\x7d" ++ compoundBody ++
      "\x7b% end %\x7d") := by
  have hmem : (⟨⟨"String", "device", false⟩, 0, 35, compoundBody⟩ : Token) ∈
      scan compoundBody := by
    decide +kernel
  have hfind : (scan compoundBody).find? (·.IsUndeclared deviceAndDate) = none := by
    decide +kernel
  refine ⟨⟨_, hmem, rfl, ?_⟩, by decide, ?_⟩
  · rw [isBareCall_iff_count hmem rfl]
    decide
  · rw [wrap_eq_insertFrom hfind]
    exact congrArg Except.ok (by decide +kernel)

end Template
end QueryArtifacts
