/-!
# Quoted text

Two ways to put a text between quotes, each given by what it does to one
character.

* `doubled` — a quote inside is written twice, nothing else changes.
* `escaped` — a quote or a backslash inside gets a backslash in front.
-/

namespace QueryArtifacts
namespace Text

/-- Write every quote `q` twice. -/
def doubled (q : Char) : List Char → List Char
  | [] => []
  | c :: rest => if c = q then q :: q :: doubled q rest else c :: doubled q rest

/-- Put a backslash before every quote `q` and every backslash. -/
def escaped (q : Char) : List Char → List Char
  | [] => []
  | c :: rest =>
      if c = q ∨ c = '\\' then '\\' :: c :: escaped q rest else c :: escaped q rest

/-- The text between two quotes `q`, inner quotes doubled. -/
def quoteDoubled (q : Char) (s : String) : String :=
  String.ofList (q :: doubled q s.toList ++ [q])

/-- The text between two quotes `q`, inner quotes and backslashes escaped. -/
def quoteEscaped (q : Char) (s : String) : String :=
  String.ofList (q :: escaped q s.toList ++ [q])

@[simp] theorem toList_quoteDoubled (q : Char) (s : String) :
    (quoteDoubled q s).toList = q :: doubled q s.toList ++ [q] :=
  String.toList_ofList

@[simp] theorem toList_quoteEscaped (q : Char) (s : String) :
    (quoteEscaped q s).toList = q :: escaped q s.toList ++ [q] :=
  String.toList_ofList

theorem doubled_append (q : Char) (s t : List Char) :
    doubled q (s ++ t) = doubled q s ++ doubled q t := by
  induction s with
  | nil => rfl
  | cons c rest ih => by_cases hc : c = q <;> simp [doubled, hc, ih]

theorem escaped_append (q : Char) (s t : List Char) :
    escaped q (s ++ t) = escaped q s ++ escaped q t := by
  induction s with
  | nil => rfl
  | cons c rest ih => by_cases hc : c = q ∨ c = '\\' <;> simp [escaped, hc, ih]

example : quoteDoubled '\'' "it's" = "'it''s'" := by decide
example : quoteEscaped '"' "a\\\"b" = "\"a\\\\\\\"b\"" := by decide

end Text
end QueryArtifacts
