import ScopeGrammar.Selector.Expression

/-!
# Reading scope selectors

```text
selector    := term (separator term)*
term        := mark? conjunction
conjunction := expression+
expression  := minus expression | openParen disjunction closeParen | name+
disjunction := conjunction (separator conjunction)*
```

The reader takes the tokens one by one. `SelectorLevel` is what it remembers of the selector itself
or of an open parenthesis: the alternatives and expressions that are finished, the minus signs that
wait for an expression, and the run of names that is still growing. As in the grammar, a minus sign
negates exactly the next expression, and a run of names is one expression.
-/

namespace ScopeGrammar

/-- The reasons for which a text is not a selector. -/
inductive SelectorError where
  /-- A character that no token has. -/
  | unexpectedCharacter
  /-- An expression has to stand here. -/
  | expectedExpression
  /-- A selector has to follow a separator. -/
  | expectedSelector
  /-- The selector has to go on with a separator or to end. -/
  | expectedSeparator
  /-- An expression has to follow a minus sign. -/
  | expectedNegated
  /-- The parenthesis has to be closed. -/
  | expectedClose
  deriving DecidableEq, Repr

namespace SelectorError

/-- What is said about the selector. -/
def text : SelectorError → String
  | unexpectedCharacter => "unexpected character"
  | expectedExpression => "expected a scope name, '-' or '('"
  | expectedSelector => "expected a selector after separator"
  | expectedSeparator => "expected ',' or end of selector"
  | expectedNegated => "expected an expression after '-'"
  | expectedClose => "expected ')'"

end SelectorError

/-- What has been read of a selector, or of the inside of a parenthesis. -/
structure SelectorLevel where
  /-- The finished alternatives of a parenthesis. -/
  alternatives : Option ScopeCondition := none
  /-- The finished expressions of the current conjunction. -/
  conjunction : Option ScopeCondition := none
  /-- The minus signs before the next expression. -/
  minuses : Nat := 0
  /-- The names of the run that is being read, the last one first. -/
  names : List ScopeName := []
  deriving DecidableEq, Repr

namespace SelectorLevel

/-- A condition under some minus signs. -/
def negated (minuses : Nat) (c : ScopeCondition) : ScopeCondition :=
  match minuses with
  | 0 => c
  | n + 1 => .not (negated n c)

/-- Adds a finished expression, without its minus signs, to the conjunction. -/
def addExpression (l : SelectorLevel) (c : ScopeCondition) : SelectorLevel :=
  let c := negated l.minuses c
  { l with
    conjunction := some (match l.conjunction with
      | some a => .both a c
      | none => c)
    minuses := 0 }

/-- Ends the run of names, if there is one. -/
def endRun (l : SelectorLevel) : SelectorLevel :=
  match l.names with
  | [] => l
  | names => { l.addExpression (.path names.reverse) with names := [] }

/-- The conjunction, which has to be finished and not empty. -/
def finished (l : SelectorLevel) : Except SelectorError ScopeCondition :=
  let l := l.endRun
  if l.minuses ≠ 0 then .error .expectedNegated
  else
    match l.conjunction with
    | some c => .ok c
    | none => .error .expectedExpression

/-- The finished alternatives and one more. -/
def disjunction (l : SelectorLevel) (c : ScopeCondition) : ScopeCondition :=
  match l.alternatives with
  | some a => .either a c
  | none => c

end SelectorLevel

/-- A selector that is being read. -/
structure SelectorReading where
  /-- The finished terms, the last one first. -/
  terms : List SelectorTerm := []
  /-- The mark of the term that is being read. -/
  mark : Option Precedence := none
  /-- What is being read. -/
  level : SelectorLevel := {}
  /-- What surrounds the open parentheses, the innermost one first. -/
  outer : List SelectorLevel := []
  deriving DecidableEq, Repr

namespace SelectorReading

/-- Whether nothing of a term has been read yet. -/
def atTermStart (st : SelectorReading) : Bool :=
  st.mark.isNone && st.level == {} && st.outer.isEmpty

/-- The error for a token that cannot stand after a finished conjunction. -/
def afterConjunction (st : SelectorReading) : SelectorError :=
  if st.outer.isEmpty then .expectedSeparator else .expectedClose

/-- Takes the next token. -/
def step (st : SelectorReading) (t : SelectorToken) : Except SelectorError SelectorReading := do
  match t with
  | .name text =>
    pure { st with level := { st.level with names := ScopeName.ofList text :: st.level.names } }
  | .minus =>
    let l := st.level.endRun
    pure { st with level := { l with minuses := l.minuses + 1 } }
  | .openParen => pure { st with level := {}, outer := st.level.endRun :: st.outer }
  | .closeParen =>
    let c ← st.level.finished
    match st.outer with
    | [] => .error .expectedSeparator
    | l :: outer =>
      pure { st with level := l.addExpression (st.level.disjunction c), outer := outer }
  | .separator =>
    let c ← st.level.finished
    match st.outer with
    | [] =>
      pure { terms := ⟨st.mark.getD .default, c⟩ :: st.terms }
    | _ :: _ => pure { st with level := { alternatives := some (st.level.disjunction c) } }
  | .mark p =>
    if st.atTermStart then pure { st with mark := some p }
    else
      let _ ← st.level.finished
      .error st.afterConjunction

/-- The terms that have been read at the end of the text. -/
def finish (st : SelectorReading) : Except SelectorError (List SelectorTerm) :=
  if st.atTermStart then
    match st.terms with
    | [] => .ok []
    | _ :: _ => .error .expectedSelector
  else do
    let c ← st.level.finished
    match st.outer with
    | [] => pure (⟨st.mark.getD .default, c⟩ :: st.terms).reverse
    | _ :: _ => .error .expectedClose

/-- Takes some tokens; an error comes with the position of the token that raised it, or with the
end position of the text. -/
def run (stop : Nat) (st : SelectorReading) :
    List (Nat × SelectorToken) → Except (Nat × SelectorError) (List SelectorTerm)
  | [] => st.finish.mapError (stop, ·)
  | (position, t) :: ts =>
    match st.step t with
    | .ok st => run stop st ts
    | .error e => .error (position, e)

end SelectorReading

namespace ScopeSelector

/-- Reads a selector. An error comes with its byte position. -/
def parse (source : String) : Except (Nat × SelectorError) ScopeSelector :=
  match SelectorToken.tokenize 0 source.toList with
  | .error position => .error (position, .unexpectedCharacter)
  | .ok tokens =>
    match SelectorReading.run (byteLength source.toList) {} tokens with
    | .ok terms => .ok ⟨source, terms⟩
    | .error e => .error e

end ScopeSelector

end ScopeGrammar
