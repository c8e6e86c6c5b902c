import ScopeGrammar.Text.Span

/-!
# Lines

A line ends with a line feed, a carriage return followed by a line feed, or a carriage return
alone, and keeps its terminator. Text after the last terminator is a line of its own; nothing
after it adds no empty line.
-/

namespace ScopeGrammar

/-- Puts a character in front of the first line. -/
def consLine (c : Char) : List (List Char) → List (List Char)
  | [] => [[c]]
  | line :: lines => (c :: line) :: lines

/-- The lines of a text, each with its terminator. -/
def linesOf : List Char → List (List Char)
  | [] => []
  | '\n' :: cs => ['\n'] :: linesOf cs
  | '\r' :: '\n' :: cs => ['\r', '\n'] :: linesOf cs
  | '\r' :: cs => ['\r'] :: linesOf cs
  | c :: cs => consLine c (linesOf cs)

/-- A line without the terminator at its end. -/
def lineContent (line : List Char) : List Char :=
  match line.reverse with
  | '\n' :: '\r' :: rest => rest.reverse
  | '\n' :: rest => rest.reverse
  | '\r' :: rest => rest.reverse
  | _ => line

/-- The lines of a text, each with its terminator. -/
def splitLines (text : String) : List String :=
  (linesOf text.toList).map String.ofList

/-- The byte position at which the content of a line ends. -/
def contentEnd (line : String) : Nat :=
  byteLength (lineContent line.toList)

/-- Nothing of a text is lost: its lines put together are the text. -/
theorem flatten_linesOf (cs : List Char) : (linesOf cs).flatten = cs := by
  fun_induction linesOf cs with
  | case1 => rfl
  | case2 cs ih => simp [ih]
  | case3 cs ih => simp [ih]
  | case4 cs _ ih => simp [ih]
  | case5 c cs _ _ _ ih =>
    conv => rhs; rw [← ih]
    cases linesOf cs <;> rfl

end ScopeGrammar
