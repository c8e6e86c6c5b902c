import ScopeGrammar.Scope.Path
import ScopeGrammar.Text.Span

/-!
# Tokens of a line

A token is a span of a line with the scopes in force there. A `TokenRow` grows from the start of the
line: `extend` adds the token that reaches from where the last one stopped up to a position, so that
tokens neither overlap nor leave gaps. No token is empty or goes past the end of the line.
-/

namespace ScopeGrammar

/-- A span of a line and its scopes. -/
structure Token where
  span : Span
  scopes : ScopePath
  deriving DecidableEq, Repr

/-- The token as it is shown: its two ends and its scopes. -/
instance : ToString Token where
  toString t :=
    toString t.span.start ++ ".." ++ toString t.span.stop ++ " " ++ toString t.scopes

/-- The tokens of the beginning of a line. -/
structure TokenRow where
  /-- The tokens, the last one first. -/
  reversed : List Token
  /-- Where the last token stopped. -/
  reached : Nat
  /-- Where the line stops. -/
  stop : Nat
  deriving DecidableEq, Repr

namespace TokenRow

/-- No tokens of a line that stops at a position. -/
def empty (stop : Nat) : TokenRow :=
  ⟨[], 0, stop⟩

/-- The row up to a position, or up to the end of the line if that comes first. -/
def extend (row : TokenRow) (position : Nat) (scopes : ScopePath) : TokenRow :=
  let position := min position row.stop
  if row.reached < position then
    { row with reversed := ⟨⟨row.reached, position⟩, scopes⟩ :: row.reversed, reached := position }
  else row

/-- The tokens in order. -/
def tokens (row : TokenRow) : List Token :=
  row.reversed.reverse

end TokenRow

end ScopeGrammar
