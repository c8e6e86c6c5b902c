/-!
# Literal text in patterns

`escape` turns a text into a pattern that matches the text itself: every character with a meaning
in patterns, and every blank, gets a backslash.
-/

namespace ScopeGrammar

/-- The characters that `escape` puts a backslash before. -/
def needsEscape (c : Char) : Bool :=
  c ∈ ['-', '\\', '\x7b', '\x7d', '*', '+', '?', '|', '^', '$', '.', ',', '[', ']', '(', ')', '#',
    ' ', '\t', '\n', '\x0c', '\r']

/-- The characters of a pattern for a text. -/
def escapeChars (cs : List Char) : List Char :=
  cs.flatMap fun c ↦ if needsEscape c then ['\\', c] else [c]

/-- A pattern for a text. -/
def escape (text : String) : String :=
  String.ofList (escapeChars text.toList)

@[simp] theorem escapeChars_nil : escapeChars [] = [] := rfl

theorem escapeChars_cons (c : Char) (cs : List Char) :
    escapeChars (c :: cs) = (if needsEscape c then ['\\', c] else [c]) ++ escapeChars cs := by
  simp [escapeChars]

end ScopeGrammar
