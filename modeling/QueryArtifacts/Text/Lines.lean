/-!
# Lines

A line ends at a line feed, and one carriage return right before that line feed
belongs to the ending.  A text that ends in a line feed has no further, empty
line; a last line without a line feed keeps its carriage return.
-/

namespace QueryArtifacts
namespace Text

/-- The lines of a text, without their endings. -/
def lines : List Char → List (List Char)
  | [] => []
  | '\n' :: rest => [] :: lines rest
  | '\r' :: '\n' :: rest => [] :: lines rest
  | c :: rest =>
      match lines rest with
      | [] => [[c]]
      | line :: more => (c :: line) :: more

/-- The lines of a string. -/
def linesOf (s : String) : List String :=
  (lines s.toList).map String.ofList

@[simp] theorem lines_nil : lines [] = [] := rfl

/-- Only the empty text has no line. -/
theorem lines_eq_nil_iff {cs : List Char} : lines cs = [] ↔ cs = [] := by
  fun_cases lines cs <;> simp

example : linesOf "a\r\n\nb\r" = ["a", "", "b\r"] := by decide

end Text
end QueryArtifacts
