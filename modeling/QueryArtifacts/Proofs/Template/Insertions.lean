import QueryArtifacts.Proofs.Template.Blocks
import QueryArtifacts.Template.Conditional

/-!
# Wrapping inserts and does nothing else

The tokens that the scan of a body reports settle what wrapping makes of it.  The first one with a
known type and an undeclared name is the error.  If there is none, the body gets an opening before
and an end behind every bare token of a conditional parameter, at the byte positions of the scan.

* `Text.Insertion`, `Text.insertFrom` — insertions by byte position, and what a text becomes.
* `Reference.IsUndeclared`, `Reference.IsConditional` — what decides about a token.
* `conditions` — the insertions that a list of tokens asks for.
* `wrap_eq_insertions` — wrapping, told from the scan.
-/

namespace QueryArtifacts

namespace Text

/-! ## Insertions -/

/-- A text that is put in at a position, counted in bytes. -/
structure Insertion where
  position : Nat
  text : List Char
  deriving DecidableEq, Repr

/-- What is put in at a position, in the order of the list. -/
def insertedAt (insertions : List Insertion) (position : Nat) : List Char :=
  (insertions.filter (·.position = position)).flatMap Insertion.text

/-- The characters of a text that starts at byte `offset`, each kept, and what is put in before
each of them and at the end. -/
def insertFrom (insertions : List Insertion) (offset : Nat) : List Char → List Char
  | [] => insertedAt insertions offset
  | c :: rest =>
      insertedAt insertions offset ++ c :: insertFrom insertions (offset + c.utf8Size) rest

theorem insertedAt_cons_self (insertion : Insertion) (insertions : List Insertion) :
    insertedAt (insertion :: insertions) insertion.position =
      insertion.text ++ insertedAt insertions insertion.position := by
  simp [insertedAt]

theorem insertedAt_cons_of_ne {insertion : Insertion} {position : Nat}
    (hposition : insertion.position ≠ position) (insertions : List Insertion) :
    insertedAt (insertion :: insertions) position = insertedAt insertions position := by
  simp [insertedAt, hposition]

theorem insertedAt_eq_nil {insertions : List Insertion} {position : Nat}
    (hlater : ∀ insertion ∈ insertions, position < insertion.position) :
    insertedAt insertions position = [] := by
  have hnone : insertions.filter (·.position = position) = [] := by
    refine List.filter_eq_nil_iff.mpr fun insertion hmem => ?_
    have hlt := hlater insertion hmem
    simp only [decide_eq_true_eq]
    omega
  rw [insertedAt, hnone, List.flatMap_nil]

/-- An insertion before the start of a text is not seen. -/
theorem insertFrom_cons_of_lt {insertion : Insertion} {offset : Nat}
    (hposition : insertion.position < offset) (insertions : List Insertion) (s : List Char) :
    insertFrom (insertion :: insertions) offset s = insertFrom insertions offset s := by
  induction s generalizing offset with
  | nil => exact insertedAt_cons_of_ne (Nat.ne_of_lt hposition) insertions
  | cons c rest ih =>
      rw [insertFrom, insertFrom, insertedAt_cons_of_ne (Nat.ne_of_lt hposition),
        ih (Nat.lt_add_right _ hposition)]

/-- The first insertion at the start of a text comes first. -/
theorem insertFrom_cons_self (insertion : Insertion) (insertions : List Insertion)
    (s : List Char) :
    insertFrom (insertion :: insertions) insertion.position s =
      insertion.text ++ insertFrom insertions insertion.position s := by
  cases s with
  | nil => exact insertedAt_cons_self insertion insertions
  | cons c rest =>
      rw [insertFrom, insertFrom, insertedAt_cons_self,
        insertFrom_cons_of_lt (Nat.lt_add_of_pos_right c.utf8Size_pos), List.append_assoc]

/-- A text in front of all insertions stays as it is. -/
theorem insertFrom_append {insertions : List Insertion} {offset : Nat} {s : List Char}
    (hlater : ∀ insertion ∈ insertions, offset + byteLength s ≤ insertion.position)
    (t : List Char) :
    insertFrom insertions offset (s ++ t) =
      s ++ insertFrom insertions (offset + byteLength s) t := by
  induction s generalizing offset with
  | nil => rfl
  | cons c rest ih =>
      have hpositive := c.utf8Size_pos
      rw [byteLength_cons] at hlater
      have hhere : insertedAt insertions offset = [] :=
        insertedAt_eq_nil fun insertion hmem => by
          have hle := hlater insertion hmem
          omega
      have hmore : ∀ insertion ∈ insertions,
          offset + c.utf8Size + byteLength rest ≤ insertion.position := by
        intro insertion hmem
        have hle := hlater insertion hmem
        omega
      rw [List.cons_append, insertFrom, hhere, List.nil_append, ih hmore, byteLength_cons,
        Nat.add_assoc, List.cons_append]

theorem insertFrom_nil (offset : Nat) (s : List Char) : insertFrom [] offset s = s := by
  induction s generalizing offset with
  | nil => rfl
  | cons c rest ih => exact congrArg (c :: ·) (ih _)

/-- Insertions keep every character of the text, in order. -/
theorem sublist_insertFrom (insertions : List Insertion) (offset : Nat) (s : List Char) :
    s.Sublist (insertFrom insertions offset s) := by
  induction s generalizing offset with
  | nil => exact List.nil_sublist _
  | cons c rest ih => exact ((ih _).cons_cons c).trans (List.sublist_append_right ..)

end Text

namespace Template

/-! ## What decides about a token -/

/-- The name of a parameter type with the name of no parameter. -/
def Reference.IsUndeclared (parameters : Parameters) (reference : Reference) : Prop :=
  (∃ type : ParameterType, type.name = reference.typeName) ∧ reference.name ∉ parameters.names

/-- Without arguments, the name of a parameter that may be missing, with its type. -/
def Reference.IsConditional (parameters : Parameters) (reference : Reference) : Prop :=
  reference.hasArguments = false ∧ ∃ parameter ∈ parameters.get? reference.name,
    parameter.required = false ∧ parameter.default.isNone = true ∧
      parameter.tokenType.name = reference.typeName

theorem isSome_ofName?_iff {name : String} :
    (ParameterType.ofName? name).isSome = true ↔ ∃ type : ParameterType, type.name = name := by
  rw [Option.isSome_iff_exists]
  exact exists_congr fun type => ParameterType.ofName?_eq_some_iff

theorem get?_eq_none_iff {parameters : Parameters} {name : String} :
    parameters.get? name = none ↔ name ∉ parameters.names := by
  rw [NameMap.get?, NameMap.names, List.lookup_eq_none_iff, List.mem_map]
  simp only [not_exists, not_and, bne_iff_ne, ne_eq]
  exact ⟨fun hne entry hmem heq => hne entry hmem heq.symm,
    fun hne entry hmem heq => hne entry hmem heq.symm⟩

instance (parameters : Parameters) (reference : Reference) :
    Decidable (reference.IsUndeclared parameters) :=
  decidable_of_iff ((ParameterType.ofName? reference.typeName).isSome = true ∧
      reference.name ∉ parameters.names)
    (and_congr_left' isSome_ofName?_iff)

instance (parameters : Parameters) (reference : Reference) :
    Decidable (reference.IsConditional parameters) :=
  instDecidableAnd

/-- The opening of a condition, before its token. -/
def Token.opening (token : Token) : Text.Insertion where
  position := token.start
  text := "\x7b% if defined(".toList ++ token.name.toList ++ ") %\x7d".toList

/-- The end of a condition, behind its token. -/
def Token.ending (token : Token) : Text.Insertion where
  position := token.stop
  text := "\x7b% end %\x7d".toList

/-- The conditions around all the tokens that ask for one. -/
def conditions (parameters : Parameters) (tokens : List Token) : List Text.Insertion :=
  (tokens.filter (·.IsConditional parameters)).flatMap fun token =>
    [token.opening, token.ending]

/-! ## One block -/

/-- The token of a block that starts at byte `start`. -/
def Reference.token (reference : Reference) (start : Nat) (inside : List Char) : Token :=
  { reference with
    start
    stop := start + Text.byteLength (blockText inside)
    text := String.ofList (blockText inside) }

/-- What the scan reports for a block that starts at byte `start`: at most one token. -/
def blockTokens (start : Nat) (inside : List Char) : List Token :=
  ((Reference.ofText? inside).map (·.token start inside)).toList

section Block

variable {parameters : Parameters} {start : Nat} {inside : List Char}

theorem blockTokens_of_text (hread : Reference.ofText? inside = none) :
    blockTokens start inside = [] := by
  rw [blockTokens, hread]
  rfl

theorem blockTokens_of_reference {reference : Reference}
    (hread : Reference.ofText? inside = some reference) :
    blockTokens start inside = [reference.token start inside] := by
  rw [blockTokens, hread]
  rfl

theorem isWrapped_iff {parameter : Parameter} {reference : Reference}
    (hparameter : parameters.get? reference.name = some parameter) :
    isWrapped parameter reference = true ↔ reference.IsConditional parameters := by
  simp only [isWrapped, Parameter.isConditional, Reference.IsConditional, hparameter,
    Option.mem_some, Bool.and_eq_true, Bool.not_eq_true', decide_eq_true_eq, exists_eq_left',
    eq_comm (a := reference.typeName)]
  constructor
  · rintro ⟨⟨⟨hrequired, hdefault⟩, harguments⟩, htype⟩
    exact ⟨harguments, hrequired, hdefault, htype⟩
  · rintro ⟨harguments, hrequired, hdefault, htype⟩
    exact ⟨⟨⟨hrequired, hdefault⟩, harguments⟩, htype⟩

/-- A block that holds a reference is refused, put under a condition, or kept. -/
theorem wrapBlock_of_reference {reference : Reference}
    (hread : Reference.ofText? inside = some reference) :
    wrapBlock parameters inside =
      if reference.IsUndeclared parameters then
        .error (.unknownParameter reference.name (String.ofList (blockText inside)))
      else if reference.IsConditional parameters then
        .ok (underCondition reference.name (blockText inside))
      else
        .ok (blockText inside) := by
  simp only [wrapBlock, hread]
  cases hget : parameters.get? reference.name with
  | none =>
      have hconditional : ¬ reference.IsConditional parameters := by
        rintro ⟨-, parameter, hparameter, -⟩
        rw [hget] at hparameter
        cases hparameter
      have hundeclared : reference.IsUndeclared parameters ↔
          (ParameterType.ofName? reference.typeName).isSome = true := by
        rw [isSome_ofName?_iff]
        exact and_iff_left (get?_eq_none_iff.mp hget)
      simp only [hundeclared, if_neg hconditional]
  | some parameter =>
      have hdeclared : ¬ reference.IsUndeclared parameters := by
        rintro ⟨-, hname⟩
        rw [← get?_eq_none_iff, hget] at hname
        cases hname
      simp only [if_neg hdeclared, isWrapped_iff hget]
      split <;> rfl

/-- A block in its place, between the opening and the end of its condition. -/
theorem insertFrom_condition (token : Token) {block : List Char}
    (hstop : token.stop = token.start + Text.byteLength block)
    {insertions : List Text.Insertion}
    (hlater : ∀ insertion ∈ insertions, token.stop ≤ insertion.position) (rest : List Char) :
    Text.insertFrom (token.opening :: token.ending :: insertions) token.start (block ++ rest) =
      underCondition token.name block ++ Text.insertFrom insertions token.stop rest := by
  have hopening : Text.insertFrom (token.opening :: token.ending :: insertions) token.start
        (block ++ rest) =
      token.opening.text ++
        Text.insertFrom (token.ending :: insertions) token.start (block ++ rest) :=
    Text.insertFrom_cons_self token.opening _ _
  have hblock : Text.insertFrom (token.ending :: insertions) token.start (block ++ rest) =
      block ++ Text.insertFrom (token.ending :: insertions) token.stop rest := by
    rw [hstop]
    refine Text.insertFrom_append (fun insertion hmem => ?_) rest
    rw [← hstop]
    rcases List.mem_cons.mp hmem with rfl | hmore
    · exact Nat.le_refl token.stop
    · exact hlater insertion hmore
  have hending : Text.insertFrom (token.ending :: insertions) token.stop rest =
      token.ending.text ++ Text.insertFrom insertions token.stop rest :=
    Text.insertFrom_cons_self token.ending _ _
  have hcondition : underCondition token.name block =
      token.opening.text ++ block ++ token.ending.text := rfl
  rw [hopening, hblock, hending, hcondition, List.append_assoc, List.append_assoc]

/-- A block whose token is undeclared is refused with that token. -/
theorem wrapBlock_of_undeclared {token : Token}
    (hfind : (blockTokens start inside).find? (·.IsUndeclared parameters) = some token) :
    wrapBlock parameters inside = .error (.unknownParameter token.name token.text) := by
  have hmem := List.mem_of_find?_eq_some hfind
  obtain ⟨reference, hread, rfl⟩ := Option.map_eq_some_iff.mp (Option.mem_toList.mp hmem)
  have hundeclared : (reference.token start inside).IsUndeclared parameters := by
    simpa using List.find?_some hfind
  rw [wrapBlock_of_reference hread]
  exact if_pos hundeclared

/-- Any other block is wrapped into the block with its insertions, those that follow left to what
follows. -/
theorem wrapBlock_of_declared
    (hdeclared : ∀ token ∈ blockTokens start inside, ¬ token.IsUndeclared parameters) :
    ∃ wrapped, wrapBlock parameters inside = .ok wrapped ∧
      ∀ insertions : List Text.Insertion, ∀ rest,
        (∀ insertion ∈ insertions,
          start + Text.byteLength (blockText inside) ≤ insertion.position) →
        Text.insertFrom (conditions parameters (blockTokens start inside) ++ insertions) start
            (blockText inside ++ rest) =
          wrapped ++
            Text.insertFrom insertions (start + Text.byteLength (blockText inside)) rest := by
  cases hread : Reference.ofText? inside with
  | none =>
      refine ⟨blockText inside, by simp only [wrapBlock, hread], fun insertions rest hlater => ?_⟩
      rw [blockTokens_of_text hread]
      exact Text.insertFrom_append hlater rest
  | some reference =>
      rw [blockTokens_of_reference hread] at hdeclared ⊢
      have hhere : ¬ reference.IsUndeclared parameters := hdeclared _ (List.mem_singleton_self _)
      rw [wrapBlock_of_reference hread, if_neg hhere]
      by_cases hconditional : reference.IsConditional parameters
      · have hconditions : conditions parameters [reference.token start inside] =
            [(reference.token start inside).opening, (reference.token start inside).ending] := by
          have htoken : (reference.token start inside).IsConditional parameters := hconditional
          simp [conditions, htoken]
        refine ⟨_, if_pos hconditional, fun insertions rest hlater => ?_⟩
        rw [hconditions]
        exact insertFrom_condition (reference.token start inside) rfl hlater rest
      · have hconditions : conditions parameters [reference.token start inside] = [] := by
          have htoken : ¬ (reference.token start inside).IsConditional parameters := hconditional
          simp [conditions, htoken]
        refine ⟨_, if_neg hconditional, fun insertions rest hlater => ?_⟩
        rw [hconditions]
        exact Text.insertFrom_append hlater rest

end Block

/-! ## All blocks -/

section Blocks

variable {parameters : Parameters} {offset : Nat} {blocks : List (List Char × List Char)}

theorem tokensFrom_cons (offset : Nat) (gap inside : List Char)
    (more : List (List Char × List Char)) :
    tokensFrom offset ((gap, inside) :: more) =
      blockTokens (offset + Text.byteLength gap) inside ++
        tokensFrom (offset + Text.byteLength gap + Text.byteLength (blockText inside)) more := by
  rw [tokensFrom, blockTokens]
  cases Reference.ofText? inside <;> rfl

/-- A token is the call that was read inside one of the blocks, and stands behind the pieces before
that block. -/
theorem exists_pieces_of_mem_tokensFrom {token : Token}
    (hmem : token ∈ tokensFrom offset blocks) :
    ∃ before gap inside after, blocks = before ++ (gap, inside) :: after ∧
      Reference.ofText? inside = some token.toReference ∧
      token = token.toReference.token (offset + Text.byteLength (⟨before, gap⟩ : Cut).text)
        inside := by
  induction blocks generalizing offset with
  | nil => cases hmem
  | cons block more ih =>
      obtain ⟨gap, inside⟩ := block
      rw [tokensFrom_cons, List.mem_append] at hmem
      rcases hmem with hhere | hlater
      · obtain ⟨reference, hread, rfl⟩ := Option.map_eq_some_iff.mp (Option.mem_toList.mp hhere)
        exact ⟨[], gap, inside, more, rfl, hread, rfl⟩
      · obtain ⟨before, gap', inside', after, hmore, hread, htoken⟩ := ih hlater
        refine ⟨(gap, inside) :: before, gap', inside', after, by rw [hmore]; rfl, hread, ?_⟩
        rw [text_cons_block, Text.byteLength_append, Text.byteLength_append, ← Nat.add_assoc,
          ← Nat.add_assoc]
        exact htoken

theorem exists_block_of_mem_tokensFrom {token : Token} (hmem : token ∈ tokensFrom offset blocks) :
    ∃ block ∈ blocks, Reference.ofText? block.2 = some token.toReference ∧
      token.text = String.ofList (blockText block.2) := by
  obtain ⟨before, gap, inside, after, rfl, hread, htoken⟩ := exists_pieces_of_mem_tokensFrom hmem
  exact ⟨(gap, inside), by simp, hread, by rw [htoken]; rfl⟩

/-- Every token stands where the scan says, in the body that is cut into these pieces. -/
theorem stands_of_mem_tokensFrom {token : Token} (hmem : token ∈ tokensFrom offset blocks)
    (tail : List Char) :
    ∃ before after, (⟨blocks, tail⟩ : Cut).text = before ++ (token.text.toList ++ after) ∧
      token.start = offset + Text.byteLength before ∧
      token.stop = token.start + Text.byteLength token.text.toList := by
  obtain ⟨before, gap, inside, after, rfl, -, htoken⟩ := exists_pieces_of_mem_tokensFrom hmem
  have htext : token.text.toList = blockText inside := by
    rw [htoken]
    exact String.toList_ofList
  refine ⟨(⟨before, gap⟩ : Cut).text, (⟨after, tail⟩ : Cut).text, ?_, ?_, ?_⟩
  · rw [htext, text_append_block]
  · rw [htoken]
    rfl
  · rw [htext, htoken]
    rfl

theorem le_position_of_mem_conditions {insertion : Text.Insertion}
    (hmem : insertion ∈ conditions parameters (tokensFrom offset blocks)) :
    offset ≤ insertion.position := by
  obtain ⟨token, htoken, hinsertion⟩ := List.mem_flatMap.mp hmem
  obtain ⟨before, after, -, hstart, hstop⟩ :=
    stands_of_mem_tokensFrom (List.mem_filter.mp htoken).1 []
  simp only [List.mem_cons, List.not_mem_nil, or_false] at hinsertion
  rcases hinsertion with rfl | rfl
  · change offset ≤ token.start
    omega
  · change offset ≤ token.stop
    omega

theorem conditions_append (tokens more : List Token) :
    conditions parameters (tokens ++ more) =
      conditions parameters tokens ++ conditions parameters more := by
  rw [conditions, List.filter_append, List.flatMap_append]
  rfl

/-- The first undeclared token is the error. -/
theorem wrapBlocks_of_undeclared {token : Token}
    (hfind : (tokensFrom offset blocks).find? (·.IsUndeclared parameters) = some token) :
    wrapBlocks parameters blocks = .error (.unknownParameter token.name token.text) := by
  induction blocks generalizing offset with
  | nil => cases hfind
  | cons block more ih =>
      obtain ⟨gap, inside⟩ := block
      rw [tokensFrom_cons, List.find?_append, Option.or_eq_some_iff] at hfind
      rw [wrapBlocks]
      rcases hfind with hhere | ⟨hnone, hlater⟩
      · rw [wrapBlock_of_undeclared hhere]
        rfl
      · have hdeclared : ∀ other ∈ blockTokens (offset + Text.byteLength gap) inside,
            ¬ other.IsUndeclared parameters := by
          simpa using hnone
        obtain ⟨wrapped, hwrapped, -⟩ := wrapBlock_of_declared hdeclared
        rw [hwrapped, ih hlater]
        rfl

/-- Without an undeclared token, the blocks are wrapped into the body with its insertions. -/
theorem wrapBlocks_of_declared
    (hdeclared : ∀ token ∈ tokensFrom offset blocks, ¬ token.IsUndeclared parameters) :
    ∃ wrapped, wrapBlocks parameters blocks = .ok wrapped ∧ ∀ tail, wrapped ++ tail =
      Text.insertFrom (conditions parameters (tokensFrom offset blocks)) offset
        (⟨blocks, tail⟩ : Cut).text := by
  induction blocks generalizing offset with
  | nil => exact ⟨[], rfl, fun tail => (Text.insertFrom_nil offset tail).symm⟩
  | cons block more ih =>
      obtain ⟨gap, inside⟩ := block
      rw [tokensFrom_cons] at hdeclared ⊢
      obtain ⟨wrapped, hwrapped, hinserted⟩ := wrapBlock_of_declared fun token hmem =>
        hdeclared token (List.mem_append_left _ hmem)
      obtain ⟨rest, hrest, htail⟩ := ih fun token hmem =>
        hdeclared token (List.mem_append_right _ hmem)
      refine ⟨gap ++ wrapped ++ rest, ?_, fun tail => ?_⟩
      · rw [wrapBlocks, hwrapped, hrest]
        rfl
      · have hgap : ∀ insertion ∈ conditions parameters (tokensFrom offset ((gap, inside) :: more)),
            offset + Text.byteLength gap ≤ insertion.position := by
          intro insertion hmem
          have hsame : tokensFrom offset ((gap, inside) :: more) =
              tokensFrom (offset + Text.byteLength gap) (([], inside) :: more) := by
            rw [tokensFrom_cons, tokensFrom_cons, Text.byteLength_nil, Nat.add_zero]
          rw [hsame] at hmem
          exact le_position_of_mem_conditions hmem
        rw [tokensFrom_cons] at hgap
        rw [text_cons_block, Text.insertFrom_append hgap, conditions_append,
          hinserted _ _ (fun insertion => le_position_of_mem_conditions), ← htail]
        simp only [List.append_assoc]

end Blocks

/-! ## The body -/

section Body

variable {parameters : Parameters} {body : String}

/-- The first undeclared token of a body is the error. -/
theorem wrap_of_undeclared {token : Token}
    (hfind : (scan body).find? (·.IsUndeclared parameters) = some token) :
    wrap parameters body = .error (.unknownParameter token.name token.text) := by
  rw [wrap, wrapBlocks_of_undeclared hfind]
  rfl

/-- A body without an undeclared token gets its conditions. -/
theorem wrap_eq_insertFrom
    (hfind : (scan body).find? (·.IsUndeclared parameters) = none) :
    wrap parameters body = .ok (String.ofList
      (Text.insertFrom (conditions parameters (scan body)) 0 body.toList)) := by
  have hdeclared : ∀ token ∈ scan body, ¬ token.IsUndeclared parameters := by
    simpa using hfind
  obtain ⟨wrapped, hwrapped, htail⟩ := wrapBlocks_of_declared hdeclared
  have hbody := htail (cut body.toList).tail
  rw [text_cut] at hbody
  rw [wrap, hwrapped]
  exact congrArg (fun text => Except.ok (String.ofList text)) hbody

/-- A body that is wrapped has no undeclared token. -/
theorem declared_of_wrap {wrapped : String} (hwrap : wrap parameters body = .ok wrapped) :
    ∀ token ∈ scan body, ¬ token.IsUndeclared parameters := by
  cases hfind : (scan body).find? (·.IsUndeclared parameters) with
  | some token =>
      rw [wrap_of_undeclared hfind] at hwrap
      cases hwrap
  | none => simpa using hfind

/-- A body without an undeclared token is wrapped, and keeps its characters. -/
theorem wrap_of_declared
    (hfind : (scan body).find? (·.IsUndeclared parameters) = none) :
    ∃ wrapped, wrap parameters body = .ok wrapped ∧ body.toList.Sublist wrapped.toList := by
  refine ⟨_, wrap_eq_insertFrom hfind, ?_⟩
  rw [String.toList_ofList]
  exact Text.sublist_insertFrom _ _ _

end Body

/-- **Wrapping is settled by the scan.**  It fails exactly if some token of the body has a known
type and an undeclared name, and the first such token is the error.  Otherwise the body gets an
opening before and an end behind each bare token of a conditional parameter, and keeps every
character of its own.  The positions of the scan are those of the tokens in the body. -/
theorem wrap_eq_insertions (parameters : Parameters) (body : String) :
    ((∃ error, wrap parameters body = .error error) ↔
      ∃ token ∈ scan body, token.IsUndeclared parameters) ∧
    (wrap parameters body =
      match (scan body).find? (·.IsUndeclared parameters) with
      | some token => .error (.unknownParameter token.name token.text)
      | none => .ok (String.ofList
          (Text.insertFrom (conditions parameters (scan body)) 0 body.toList))) ∧
    ∀ token ∈ scan body, ∃ before after,
      body.toList = before ++ (token.text.toList ++ after) ∧
      token.start = Text.byteLength before ∧
      token.stop = token.start + Text.byteLength token.text.toList := by
  have hequation : wrap parameters body =
      match (scan body).find? (·.IsUndeclared parameters) with
      | some token => .error (.unknownParameter token.name token.text)
      | none => .ok (String.ofList
          (Text.insertFrom (conditions parameters (scan body)) 0 body.toList)) := by
    cases hfind : (scan body).find? (·.IsUndeclared parameters) with
    | some token => exact wrap_of_undeclared hfind
    | none => exact wrap_eq_insertFrom hfind
  refine ⟨?_, hequation, fun token hmem => ?_⟩
  · rw [hequation]
    cases hfind : (scan body).find? (·.IsUndeclared parameters) with
    | some token =>
        refine iff_of_true ⟨_, rfl⟩ ⟨token, List.mem_of_find?_eq_some hfind, ?_⟩
        simpa using List.find?_some hfind
    | none =>
        refine iff_of_false (by simp) ?_
        simpa using hfind
  · obtain ⟨before, after, hbody, hstart, hstop⟩ :=
      stands_of_mem_tokensFrom hmem (cut body.toList).tail
    rw [text_cut] at hbody
    rw [Nat.zero_add] at hstart
    exact ⟨before, after, hbody, hstart, hstop⟩

/-- A parameter that may be missing and one that is required. -/
def deviceAndDate : Parameters where
  toList := [("device", .enumeration ["mobile"]), ("day", { type := .date, required := true })]
  distinct := by decide

/-- A character of two bytes, a token that is wrapped, a token of another type, and one that is
kept. -/
def twoByteBody : String :=
  "\u00e9\x7b\x7bString(device)\x7d\x7d\x7b\x7bDate(device)\x7d\x7d\x7b\x7bDate(day)\x7d\x7d"

theorem wrap_twoByteBody :
    wrap deviceAndDate twoByteBody = .ok ("\u00e9\x7b% if defined(device) %\x7d" ++
      "\x7b\x7bString(device)\x7d\x7d\x7b% end %\x7d" ++
      "\x7b\x7bDate(device)\x7d\x7d\x7b\x7bDate(day)\x7d\x7d") ∧
    ∃ token ∈ scan twoByteBody, token.start = 2 ∧ ∃ before after,
      twoByteBody.toList = before ++ (token.text.toList ++ after) ∧
      token.start = Text.byteLength before ∧
      token.stop = token.start + Text.byteLength token.text.toList := by
  have hexact := wrap_eq_insertions deviceAndDate twoByteBody
  have hdeclared : (scan twoByteBody).find? (·.IsUndeclared deviceAndDate) = none := by
    decide +kernel
  have hmem : (⟨⟨"String", "device", false⟩, 2, 20, "\x7b\x7bString(device)\x7d\x7d"⟩ : Token) ∈
      scan twoByteBody := by
    decide +kernel
  refine ⟨?_, _, hmem, rfl, hexact.2.2 _ hmem⟩
  rw [hexact.2.1, hdeclared]
  exact congrArg Except.ok (by decide +kernel)

end Template
end QueryArtifacts
