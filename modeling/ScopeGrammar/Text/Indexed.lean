import ScopeGrammar.Text.Span

/-!
# Indexed texts

A text whose characters can be found by their number, together with the byte position of each of
them, so that both ways to count can be turned into each other.
-/

namespace ScopeGrammar

/-- A text with the byte position of each of its characters and of its end. -/
structure IndexedText where
  chars : Array Char
  offsets : Array Nat
  deriving Repr, Inhabited

namespace IndexedText

/-- The byte positions of the characters of a text that begins at `n`, and of its end. -/
def offsetsFrom (n : Nat) : List Char → List Nat
  | [] => [n]
  | c :: cs => n :: offsetsFrom (n + c.utf8Size) cs

/-- Indexes a text. -/
def ofChars (cs : List Char) : IndexedText :=
  ⟨cs.toArray, (offsetsFrom 0 cs).toArray⟩

/-- The byte position of a character position; past the end, that of the end. -/
def offset (t : IndexedText) (i : Nat) : Nat :=
  t.offsets[i]?.getD (t.offsets.back?.getD 0)

/-- The index in `[lo, hi)` at which a byte position is found. -/
def indexIn (t : IndexedText) (n lo hi : Nat) : Option Nat :=
  if lo < hi then
    let mid := (lo + hi) / 2
    match t.offsets[mid]? with
    | none => none
    | some m =>
      if n < m then t.indexIn n lo mid
      else if m < n then t.indexIn n (mid + 1) hi
      else some mid
  else none
termination_by hi - lo

/-- The character position of a byte position, if a character begins there or the text ends
there. -/
def index? (t : IndexedText) (n : Nat) : Option Nat :=
  t.indexIn n 0 t.offsets.size

/-- The byte span of a span of character positions. -/
def span (t : IndexedText) (start stop : Nat) : Span :=
  ⟨t.offset start, t.offset stop⟩

end IndexedText

end ScopeGrammar
