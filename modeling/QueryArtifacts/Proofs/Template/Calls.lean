import Mathlib.Data.List.TakeWhile
import QueryArtifacts.Template.Token

/-!
# Reading a call

The inside of a block is read as a call if it spells one: a type name, a parenthesis, and a
parameter name with a comma or a closing parenthesis behind it, blanks allowed before and behind
each name.  Of the rest only the end is looked at, which has to be a closing parenthesis.

* `IsIdentifier` — letters, digits and underscores, no digit in front.
* `takeIdentifier?_append` — an identifier is taken whole.
* `Reference.Spells`, `EndsInParenthesis` — how a call can be spelled.
* `Reference.ofText?_eq_some_iff` — the blocks that are read as a call, exactly.
* `callText`, `Reference.ofText?_callText` — a block that was written as a call.
-/

namespace QueryArtifacts

namespace Text

/-! ## Trimming -/

section Trimming

variable {blanks cs : List Char}

theorem exists_trimStart (cs : List Char) :
    ∃ blanks, allBlank blanks = true ∧ cs = blanks ++ trimStart cs :=
  ⟨cs.takeWhile isBlank, List.all_eq_true.mpr fun _ => List.mem_takeWhile_imp,
    List.takeWhile_append_dropWhile.symm⟩

theorem exists_trimEnd (cs : List Char) :
    ∃ blanks, allBlank blanks = true ∧ cs = trimEnd cs ++ blanks := by
  obtain ⟨blanks, hblanks, hcs⟩ := exists_trimStart cs.reverse
  refine ⟨blanks.reverse, by simpa [allBlank] using hblanks, ?_⟩
  have hreverse := congrArg List.reverse hcs
  rwa [List.reverse_reverse, List.reverse_append] at hreverse

/-- Trimming takes the blanks in front and stops where a text without them begins. -/
theorem trimStart_append (hblanks : allBlank blanks = true)
    (hcs : ∀ c ∈ cs.head?, isBlank c = false) : trimStart (blanks ++ cs) = cs := by
  rw [trimStart, List.dropWhile_append_of_pos (List.all_eq_true.mp hblanks)]
  cases cs with
  | nil => rfl
  | cons c rest => simp [hcs c rfl]

theorem trimEnd_append (hblanks : allBlank blanks = true)
    (hcs : ∀ c ∈ cs.getLast?, isBlank c = false) : trimEnd (cs ++ blanks) = cs := by
  have hreverse : trimStart (blanks.reverse ++ cs.reverse) = cs.reverse :=
    trimStart_append (by simpa [allBlank] using hblanks) (by rwa [List.head?_reverse])
  rw [trimEnd, List.reverse_append]
  exact List.reverse_eq_iff.mpr hreverse

/-- What comes first is a blank, or what stands behind the blanks. -/
theorem head?_append_cons (hblanks : allBlank blanks = true) {d : Char} :
    ∀ c ∈ (blanks ++ d :: cs).head?, isBlank c = true ∨ c = d := by
  cases blanks with
  | nil => simp
  | cons first rest =>
      intro c hc
      obtain rfl : first = c := by simpa using hc
      exact Or.inl (List.all_eq_true.mp hblanks first (List.mem_cons_self ..))

end Trimming

end Text

namespace Template

/-! ## Identifiers -/

theorem isBlank_of_isIdentifierChar {c : Char} (hc : isIdentifierChar c = true) :
    Text.isBlank c = false := by
  have hrange : 48 ≤ c.toNat ∧ c.toNat ≤ 57 ∨ 65 ≤ c.toNat ∧ c.toNat ≤ 90 ∨
      c.toNat = 95 ∨ 97 ≤ c.toNat ∧ c.toNat ≤ 122 := by
    have between {low high : Char} (hin : (c.val ≥ low.val && c.val ≤ high.val) = true) :
        low.toNat ≤ c.toNat ∧ c.toNat ≤ high.toNat := by
      rw [Bool.and_eq_true, decide_eq_true_eq, decide_eq_true_eq] at hin
      exact hin
    rcases Bool.or_eq_true_iff.mp hc with halphanum | hunderscore
    · rcases Bool.or_eq_true_iff.mp halphanum with halpha | hdigit
      · rcases Bool.or_eq_true_iff.mp halpha with hupper | hlower
        · exact Or.inr (Or.inl (of_decide_eq_true hupper))
        · exact Or.inr (Or.inr (Or.inr (between hlower)))
      · exact Or.inl (between hdigit)
    · obtain rfl := of_decide_eq_true hunderscore
      exact Or.inr (Or.inr (Or.inl rfl))
  simp only [Text.isBlank, Bool.or_eq_false_iff, Bool.and_eq_false_iff, decide_eq_false_iff_not,
    beq_eq_false_iff_ne]
  omega

/-- An identifier: letters, digits and underscores, no digit in front. -/
structure IsIdentifier (cs : List Char) : Prop where
  nonempty : cs ≠ []
  chars : ∀ c ∈ cs, isIdentifierChar c = true
  head : ∀ c ∈ cs.head?, c.isDigit = false

instance (cs : List Char) : Decidable (IsIdentifier cs) :=
  decidable_of_iff
    (cs ≠ [] ∧ cs.all isIdentifierChar = true ∧ cs.head?.toList.all (!Char.isDigit ·) = true) <| by
      have hhead : cs.head?.toList.all (!Char.isDigit ·) = true ↔
          ∀ c ∈ cs.head?, c.isDigit = false := by
        cases cs <;> simp
      rw [List.all_eq_true, hhead]
      exact ⟨fun ⟨hne, hcs, hc⟩ => ⟨hne, hcs, hc⟩, fun h => ⟨h.nonempty, h.chars, h.head⟩⟩

theorem IsIdentifier.not_mem {cs : List Char} (hcs : IsIdentifier cs) {c : Char}
    (hc : isIdentifierChar c = false) : c ∉ cs := by
  intro hmem
  rw [hcs.chars c hmem] at hc
  cases hc

/-- An identifier is taken whole, if no character that could belong to it follows. -/
theorem takeIdentifier?_append {name rest : List Char} (hname : IsIdentifier name)
    (hrest : ∀ c ∈ rest.head?, isIdentifierChar c = false) :
    takeIdentifier? (name ++ rest) = some (name, rest) := by
  have htake : rest.takeWhile isIdentifierChar = [] := by
    cases rest with
    | nil => rfl
    | cons c more => simp [hrest c rfl]
  have hdrop : rest.dropWhile isIdentifierChar = rest := by
    cases rest with
    | nil => rfl
    | cons c more => simp [hrest c rfl]
  cases hshape : name with
  | nil => exact absurd hshape hname.nonempty
  | cons first more =>
      have hfirst : isIdentifierChar first ∧ ¬ first.isDigit := by
        have hdigit := hname.head first (by simp [hshape])
        exact ⟨hname.chars first (by simp [hshape]), by simp [hdigit]⟩
      rw [← hshape]
      have hcons : takeIdentifier? (name ++ rest) =
          some ((name ++ rest).takeWhile isIdentifierChar,
            (name ++ rest).dropWhile isIdentifierChar) := by
        rw [hshape, List.cons_append, takeIdentifier?, if_pos hfirst]
      rw [hcons, List.takeWhile_append_of_pos hname.chars, htake, List.append_nil,
        List.dropWhile_append_of_pos hname.chars, hdrop]

/-- What is taken is an identifier. -/
theorem isIdentifier_of_takeIdentifier? {cs name rest : List Char}
    (htake : takeIdentifier? cs = some (name, rest)) : IsIdentifier name := by
  cases cs with
  | nil => cases htake
  | cons c more =>
      rw [takeIdentifier?] at htake
      split at htake
      · rename_i hfirst
        cases htake
        have hname : (c :: more).takeWhile isIdentifierChar =
            c :: more.takeWhile isIdentifierChar := List.takeWhile_cons_of_pos hfirst.1
        constructor
        · rw [hname]
          exact List.cons_ne_nil _ _
        · exact fun d hd => List.mem_takeWhile_imp hd
        · intro d hd
          rw [hname, List.head?_cons, Option.mem_some] at hd
          rw [← hd]
          exact Bool.eq_false_iff.mpr hfirst.2
      · cases htake

theorem eq_append_of_takeIdentifier? {cs name rest : List Char}
    (htake : takeIdentifier? cs = some (name, rest)) : cs = name ++ rest := by
  cases cs with
  | nil => cases htake
  | cons c more =>
      rw [takeIdentifier?] at htake
      split at htake
      · cases htake
        exact List.takeWhile_append_dropWhile.symm
      · cases htake

theorem isBlank_of_isIdentifier {name : List Char} (hname : IsIdentifier name)
    (rest : List Char) : ∀ c ∈ (name ++ rest).head?, Text.isBlank c = false := by
  cases hshape : name with
  | nil => exact absurd hshape hname.nonempty
  | cons first more =>
      intro c hc
      obtain rfl : first = c := by simpa using hc
      exact isBlank_of_isIdentifierChar (hname.chars first (by simp [hshape]))

/-! ## Calls -/

/-- The last character that is no blank is a closing parenthesis. -/
def EndsInParenthesis (cs : List Char) : Prop :=
  ∃ before blanks, Text.allBlank blanks = true ∧ cs = before ++ ')' :: blanks

/-- A block spells a call up to `tail`, which stands behind the name. -/
def Reference.Spells (reference : Reference) (tail inside : List Char) : Prop :=
  ∃ b₁ b₂ b₃ b₄ : List Char, (∀ b ∈ [b₁, b₂, b₃, b₄], Text.allBlank b = true) ∧
    inside = b₁ ++ (reference.typeName.toList ++
      (b₂ ++ '(' :: (b₃ ++ (reference.name.toList ++ (b₄ ++ tail)))))

theorem getLast?_trimEnd_iff {cs : List Char} :
    (Text.trimEnd cs).getLast? = some ')' ↔ EndsInParenthesis cs := by
  constructor
  · intro hlast
    obtain ⟨before, hbefore⟩ := List.getLast?_eq_some_iff.mp hlast
    obtain ⟨blanks, hblanks, hcs⟩ := Text.exists_trimEnd cs
    refine ⟨before, blanks, hblanks, ?_⟩
    rw [hcs, hbefore, List.append_assoc]
    rfl
  · rintro ⟨before, blanks, hblanks, rfl⟩
    have htrim : Text.trimEnd (before ++ [')'] ++ blanks) = before ++ [')'] := by
      refine Text.trimEnd_append hblanks fun c hc => ?_
      obtain rfl : ')' = c := by simpa using hc
      decide
    rw [← List.singleton_append, ← List.append_assoc, htrim, List.getLast?_concat]

/-- The parts of a block that is read as a call. -/
theorem Reference.parts_of_ofText? {inside : List Char} {reference : Reference}
    (hread : ofText? inside = some reference) :
    ∃ rest more arguments,
      takeIdentifier? (Text.trim inside) = some (reference.typeName.toList, rest) ∧
      Text.trimStart rest = '(' :: more ∧
      takeIdentifier? (Text.trimStart more) = some (reference.name.toList, arguments) ∧
      (Text.trimStart arguments).head? = some (if reference.hasArguments then ',' else ')') ∧
      (Text.trimEnd (Text.trimStart arguments)).getLast? = some ')' := by
  obtain ⟨⟨typeName, rest⟩, htype, hread⟩ := Option.bind_eq_some_iff.mp hread
  simp only at hread
  split at hread
  · rename_i more hopen
    obtain ⟨⟨name, arguments⟩, hname, hread⟩ := Option.bind_eq_some_iff.mp hread
    simp only at hread
    have hclose : ∃ hasArguments : Bool,
        (Text.trimStart arguments).head? = some (if hasArguments then ',' else ')') ∧
        (if (Text.trimEnd (Text.trimStart arguments)).getLast? = some ')' then
          some (⟨String.ofList typeName, String.ofList name, hasArguments⟩ : Reference)
        else none) = some reference := by
      split at hread
      · rename_i hcomma
        exact ⟨true, by rw [hcomma]; rfl, hread⟩
      · rename_i hparen
        exact ⟨false, by rw [hparen]; rfl, hread⟩
      · cases hread
    obtain ⟨hasArguments, hhead, hread⟩ := hclose
    split at hread
    · rename_i hlast
      cases hread
      exact ⟨rest, more, arguments, by rw [htype, String.toList_ofList], hopen,
        by rw [hname, String.toList_ofList], hhead, hlast⟩
    · cases hread
  · cases hread

/-- What is trimmed away from a block that spells a call: the blanks in front and at the end. -/
theorem Reference.Spells.trim {reference : Reference} {before blanks inside : List Char}
    (htype : IsIdentifier reference.typeName.toList) (hblanks : Text.allBlank blanks = true)
    (hspells : reference.Spells (before ++ ')' :: blanks) inside) :
    ∃ b₂ b₃ b₄ : List Char, (∀ b ∈ [b₂, b₃, b₄], Text.allBlank b = true) ∧
      Text.trim inside = reference.typeName.toList ++
        (b₂ ++ '(' :: (b₃ ++ (reference.name.toList ++ (b₄ ++ (before ++ [')']))))) := by
  obtain ⟨b₁, b₂, b₃, b₄, hall, rfl⟩ := hspells
  rw [List.forall_mem_cons] at hall
  refine ⟨b₂, b₃, b₄, hall.2, ?_⟩
  rw [Text.trim, Text.trimStart_append hall.1 (isBlank_of_isIdentifier htype _)]
  have hend : reference.typeName.toList ++ (b₂ ++ '(' :: (b₃ ++ (reference.name.toList ++
        (b₄ ++ (before ++ ')' :: blanks))))) =
      (reference.typeName.toList ++ (b₂ ++ '(' :: (b₃ ++ (reference.name.toList ++
        (b₄ ++ (before ++ [')'])))))) ++ blanks := by simp
  rw [hend]
  refine Text.trimEnd_append hblanks fun c hc => ?_
  simp only [← List.append_assoc, ← List.cons_append] at hc
  rw [List.getLast?_concat] at hc
  cases hc
  decide

/-- A trimmed call is read as its parts. -/
theorem Reference.ofText?_of_trim {inside typeName name b₂ b₃ b₄ more : List Char}
    {separator : Char} (htype : IsIdentifier typeName) (hname : IsIdentifier name)
    (hblanks : ∀ b ∈ [b₂, b₃, b₄], Text.allBlank b = true)
    (hseparator : separator = ',' ∨ separator = ')')
    (htrim : Text.trim inside =
      typeName ++ (b₂ ++ '(' :: (b₃ ++ (name ++ (b₄ ++ separator :: more)))))
    (hlast : (Text.trimEnd (separator :: more)).getLast? = some ')') :
    ofText? inside =
      some ⟨String.ofList typeName, String.ofList name, decide (separator = ',')⟩ := by
  rw [List.forall_mem_cons, List.forall_mem_cons, List.forall_mem_cons] at hblanks
  obtain ⟨hb₂, hb₃, hb₄, -⟩ := hblanks
  have hstop {blanks cs : List Char} {d : Char} (hblanks : Text.allBlank blanks = true)
      (hd : isIdentifierChar d = false) :
      ∀ c ∈ (blanks ++ d :: cs).head?, isIdentifierChar c = false := by
    intro c hc
    rcases Text.head?_append_cons hblanks c hc with hblank | rfl
    · refine Bool.eq_false_iff.mpr fun hchar => ?_
      rw [isBlank_of_isIdentifierChar hchar] at hblank
      cases hblank
    · exact hd
  have hopen : takeIdentifier? (typeName ++ (b₂ ++ '(' :: (b₃ ++ (name ++ (b₄ ++
        separator :: more))))) =
      some (typeName, b₂ ++ '(' :: (b₃ ++ (name ++ (b₄ ++ separator :: more)))) :=
    takeIdentifier?_append htype (hstop hb₂ (by decide))
  have hparen : Text.trimStart (b₂ ++ '(' :: (b₃ ++ (name ++ (b₄ ++ separator :: more)))) =
      '(' :: (b₃ ++ (name ++ (b₄ ++ separator :: more))) := by
    refine Text.trimStart_append hb₂ fun c hc => ?_
    obtain rfl : '(' = c := by simpa using hc
    decide
  have hstart : Text.trimStart (b₃ ++ (name ++ (b₄ ++ separator :: more))) =
      name ++ (b₄ ++ separator :: more) :=
    Text.trimStart_append hb₃ (isBlank_of_isIdentifier hname _)
  have hclose : takeIdentifier? (name ++ (b₄ ++ separator :: more)) =
      some (name, b₄ ++ separator :: more) := by
    refine takeIdentifier?_append hname (hstop hb₄ ?_)
    rcases hseparator with rfl | rfl <;> decide
  have hrest : Text.trimStart (b₄ ++ separator :: more) = separator :: more := by
    refine Text.trimStart_append hb₄ fun c hc => ?_
    obtain rfl : separator = c := by simpa using hc
    rcases hseparator with rfl | rfl <;> decide
  simp only [ofText?, htrim, hopen, hparen, hstart, hclose, hrest, hlast, Option.bind_eq_bind,
    Option.bind_some, Option.pure_def]
  rcases hseparator with rfl | rfl <;> simp

/-- **The blocks that are read as a call are those that spell one.**  Behind the name a comma or a
closing parenthesis decides whether there are arguments, and the block ends in a closing
parenthesis. -/
theorem Reference.ofText?_eq_some_iff {inside : List Char} {reference : Reference} :
    ofText? inside = some reference ↔
      IsIdentifier reference.typeName.toList ∧ IsIdentifier reference.name.toList ∧
        ∃ tail, reference.Spells tail inside ∧
          tail.head? = some (if reference.hasArguments then ',' else ')') ∧
          EndsInParenthesis tail := by
  constructor
  · intro hread
    obtain ⟨rest, more, arguments, htype, hopen, hname, hhead, hlast⟩ := parts_of_ofText? hread
    refine ⟨isIdentifier_of_takeIdentifier? htype, isIdentifier_of_takeIdentifier? hname, ?_⟩
    obtain ⟨b₁, hb₁, hinside⟩ := Text.exists_trimStart inside
    obtain ⟨b₅, hb₅, htrim⟩ := Text.exists_trimEnd (Text.trimStart inside)
    obtain ⟨b₂, hb₂, hrest⟩ := Text.exists_trimStart rest
    obtain ⟨b₃, hb₃, hmore⟩ := Text.exists_trimStart more
    obtain ⟨b₄, hb₄, harguments⟩ := Text.exists_trimStart arguments
    obtain ⟨before, b₆, hb₆, hend⟩ := getLast?_trimEnd_iff.mp hlast
    refine ⟨Text.trimStart arguments ++ b₅, ⟨b₁, b₂, b₃, b₄, by simp [*], ?_⟩, ?_, ?_⟩
    · calc inside = b₁ ++ (Text.trim inside ++ b₅) := hinside.trans (congrArg (b₁ ++ ·) htrim)
        _ = b₁ ++ (reference.typeName.toList ++ (rest ++ b₅)) := by
          rw [eq_append_of_takeIdentifier? htype, List.append_assoc]
        _ = b₁ ++ (reference.typeName.toList ++ (b₂ ++ '(' :: (more ++ b₅))) := by
          rw [← List.cons_append, ← hopen, ← List.append_assoc b₂, ← hrest]
        _ = b₁ ++ (reference.typeName.toList ++ (b₂ ++ '(' :: (b₃ ++
              (reference.name.toList ++ (arguments ++ b₅))))) := by
          rw [← List.append_assoc reference.name.toList, ← eq_append_of_takeIdentifier? hname,
            ← List.append_assoc b₃, ← hmore]
        _ = _ := by rw [← List.append_assoc b₄, ← harguments]
    · rw [List.head?_append, hhead, Option.some_or]
    · refine ⟨before, b₆ ++ b₅, ?_, by rw [hend, List.append_assoc, List.cons_append]⟩
      rw [Text.allBlank, List.all_append, Bool.and_eq_true]
      exact ⟨hb₆, hb₅⟩
  · rintro ⟨htype, hname, tail, hspells, hhead, before, b₅, hb₅, rfl⟩
    obtain ⟨b₂, b₃, b₄, hblanks, htrim⟩ := hspells.trim htype hb₅
    -- Without the blanks at its end, the tail still begins with its separator.
    obtain ⟨more, hmore⟩ : ∃ more, before ++ [')'] =
        (if reference.hasArguments then ',' else ')') :: more := by
      cases before with
      | nil => exact ⟨[], by rw [← Option.some.inj hhead, List.nil_append]⟩
      | cons first rest => exact ⟨rest ++ [')'], by rw [← Option.some.inj hhead, List.cons_append]⟩
    rw [hmore] at htrim
    have hlast : (Text.trimEnd (before ++ [')'])).getLast? = some ')' :=
      getLast?_trimEnd_iff.mpr ⟨before, [], rfl, rfl⟩
    rw [hmore] at hlast
    rw [ofText?_of_trim htype hname hblanks (by split <;> simp) htrim hlast,
      String.ofList_toList, String.ofList_toList]
    cases hkind : reference.hasArguments <;> simp [← hkind]

/-- Type and name of a call are identifiers. -/
theorem Reference.isIdentifier_of_ofText? {inside : List Char} {reference : Reference}
    (hread : ofText? inside = some reference) :
    IsIdentifier reference.typeName.toList ∧ IsIdentifier reference.name.toList := by
  obtain ⟨htype, hname, -⟩ := ofText?_eq_some_iff.mp hread
  exact ⟨htype, hname⟩

/-- The inside of a block that holds a call.  Arguments begin with the comma that separates them
from the name. -/
def callText (typeName name arguments : List Char) : List Char :=
  ' ' :: (typeName ++ '(' :: (name ++ arguments ++ [')'])) ++ [' ']

/-- A block that was written as a call is read as its parts. -/
theorem Reference.ofText?_callText {typeName name arguments : List Char}
    (htype : IsIdentifier typeName) (hname : IsIdentifier name)
    (harguments : ∀ c ∈ arguments.head?, c = ',') :
    ofText? (callText typeName name arguments) =
      some ⟨String.ofList typeName, String.ofList name, !arguments.isEmpty⟩ := by
  have hblank : Text.allBlank [' '] = true := by decide
  rw [ofText?_eq_some_iff, String.toList_ofList, String.toList_ofList]
  refine ⟨htype, hname, arguments ++ [')', ' '], ⟨[' '], [], [], [], by simp [hblank], ?_⟩, ?_,
    arguments, [' '], hblank, rfl⟩
  · simp [callText]
  · cases arguments with
    | nil => rfl
    | cons first more => simp [harguments first rfl]

end Template
end QueryArtifacts
