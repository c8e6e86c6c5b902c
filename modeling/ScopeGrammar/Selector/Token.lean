import ScopeGrammar.Text.Blank
import ScopeGrammar.Text.Property
import ScopeGrammar.Text.Span

/-!
# Tokens of scope selectors

A selector is made of names, the precedence marks `L:` and `R:`, separators, minus signs and
parentheses, with white space between them where wanted. A name begins with a character of a word
or a dot and goes on with these and dashes. Each token carries the byte position at which it begins.
-/

namespace ScopeGrammar

/-- Where a matching selector asks to be placed among the rules it competes with. -/
inductive Precedence where
  /-- Before the local rules. -/
  | left
  /-- No wish. -/
  | default
  /-- After them. -/
  | right
  deriving DecidableEq, Repr

/-- A token of a selector. -/
inductive SelectorToken where
  | mark (p : Precedence)
  | name (text : List Char)
  /-- A comma or a vertical bar. -/
  | separator
  | minus
  | openParen
  | closeParen
  deriving DecidableEq, Repr

namespace SelectorToken

/-- Whether a character can begin a name. -/
def beginsName (c : Char) : Bool :=
  c == '.' || isWord c

/-- Whether a character can go on in a name. -/
def continuesName (c : Char) : Bool :=
  c == '.' || c == '-' || isWord c

/-- Reads one token: the token and the rest. Names take as much as they can. -/
def read? (cs : List Char) : Option (SelectorToken × List Char) :=
  match cs with
  | [] => none
  | 'L' :: ':' :: rest => some (mark .left, rest)
  | 'R' :: ':' :: rest => some (mark .right, rest)
  | c :: rest =>
    if beginsName c then
      some (name (c :: rest.takeWhile continuesName), rest.dropWhile continuesName)
    else
      match c with
      | ',' => some (separator, rest)
      | '|' => some (separator, rest)
      | '-' => some (minus, rest)
      | '(' => some (openParen, rest)
      | ')' => some (closeParen, rest)
      | _ => none

theorem length_lt_of_read? {cs rest : List Char} {t : SelectorToken}
    (h : read? cs = some (t, rest)) : rest.length < cs.length := by
  unfold read? at h
  split at h
  · contradiction
  · obtain ⟨-, rfl⟩ := Prod.mk.inj (Option.some.inj h)
    simp only [List.length_cons]
    omega
  · obtain ⟨-, rfl⟩ := Prod.mk.inj (Option.some.inj h)
    simp only [List.length_cons]
    omega
  · rename_i c tail _ _
    split at h
    · obtain ⟨-, rfl⟩ := Prod.mk.inj (Option.some.inj h)
      have := (List.dropWhile_suffix continuesName (l := tail)).length_le
      simp only [List.length_cons]
      omega
    · split at h <;> first
        | contradiction
        | (obtain ⟨-, rfl⟩ := Prod.mk.inj (Option.some.inj h)
           simp)

/-- The tokens of a text that begins at a byte position, or the position of the first character
that is neither white space nor part of a token. -/
def tokenize (position : Nat) (cs : List Char) : Except Nat (List (Nat × SelectorToken)) :=
  match cs with
  | [] => .ok []
  | c :: tail =>
    match _h : read? (c :: tail) with
    | some (t, rest) =>
      match tokenize (position + (byteLength (c :: tail) - byteLength rest)) rest with
      | .ok ts => .ok ((position, t) :: ts)
      | .error p => .error p
    | none =>
      if isBlank c then tokenize (position + c.utf8Size) tail else .error position
termination_by cs.length
decreasing_by
  · exact length_lt_of_read? _h
  · simp

end SelectorToken

end ScopeGrammar
