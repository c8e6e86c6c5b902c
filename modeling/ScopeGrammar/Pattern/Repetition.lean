import ScopeGrammar.Pattern.Error
import ScopeGrammar.Pattern.Syntax

/-!
# Repeats of repeats

A repeat whose body is itself a repeat is simplified while a pattern is read: `(?:a+)*` is `a*`.
Six kinds of repeats combine by a table; repeats by fixed counts multiply. The simpler form matches
the same texts, but not always in the same order of preference, so the table is part of the meaning
of patterns.
-/

namespace ScopeGrammar

/-- The repeats that have an operator of their own: at most once, any number of times, and at least
once; greedy, or as rarely as possible. -/
inductive RepeatKind where
  | optional (greedy : Bool)
  | star (greedy : Bool)
  | plus (greedy : Bool)
  deriving DecidableEq, Repr

namespace RepeatKind

/-- The kind of a repeat, if it has one. -/
def of? (low : Nat) (high : Option Nat) (greedy : Bool) : Option RepeatKind :=
  match low, high with
  | 0, some 1 => some (optional greedy)
  | 0, none => some (star greedy)
  | 1, none => some (plus greedy)
  | _, _ => none

/-- A repeat of a kind. -/
def apply (body : Pattern) : RepeatKind → Pattern
  | optional greedy => .repeated body 0 (some 1) greedy
  | star greedy => .repeated body 0 none greedy
  | plus greedy => .repeated body 1 none greedy

/-- A repeat of `outer` kind over a repeat of `inner` kind of a body. -/
def compose (body : Pattern) (inner outer : RepeatKind) : Pattern :=
  let keepBoth := outer.apply (inner.apply body)
  let keepInner := inner.apply body
  let anyNumber := (star true).apply body
  let fewest := (star false).apply body
  let rarelySome := (optional false).apply ((plus true).apply body)
  match inner, outer with
  | optional true, optional true => keepInner
  | optional true, star true | optional true, plus true => anyNumber
  | optional true, optional false => (optional false).apply body
  | optional true, star false => fewest
  | optional true, plus false => keepBoth
  | star true, optional false | star true, star false => rarelySome
  | star true, _ => keepInner
  | plus true, optional true | plus true, star true => anyNumber
  | plus true, plus true | plus true, plus false => keepInner
  | plus true, optional false => keepBoth
  | plus true, star false => rarelySome
  | optional false, optional _ => keepInner
  | optional false, _ => fewest
  | star false, _ => keepInner
  | plus false, optional true | plus false, star true | plus false, plus true => keepBoth
  | plus false, optional false | plus false, star false => fewest
  | plus false, plus false => keepInner

end RepeatKind

/-- The product of two repeat counts, unless it is too large. -/
def repeatProduct? (n m : Nat) : Option Nat :=
  if n = 0 ∨ m = 0 then some 0 else if n < 2147483647 / m then some (n * m) else none

/-- Repeats a pattern. Repeating exactly once changes nothing. -/
def Pattern.repeat (p : Pattern) (low : Nat) (high : Option Nat) (greedy : Bool) :
    Except PatternError Pattern :=
  if low = 1 ∧ high = some 1 then .ok p
  else
    match p with
    | .repeated body low' high' greedy' =>
      match RepeatKind.of? low' high' greedy', RepeatKind.of? low high greedy with
      | some inner, some outer => .ok (inner.compose body outer)
      | inner, _ =>
        if high = some low ∧ high' = some low' then
          match repeatProduct? low low' with
          | some n => .ok (.repeated body n (some n) greedy)
          | none => .error .repeatTooLarge
        else
          match inner, high with
          | some (.star true), some (n + 2) | some (.plus true), some (n + 2) =>
            .ok (.repeated p low (some (if !greedy then n + 2 else if low = 0 then 1 else low))
              greedy)
          | _, _ => .ok (.repeated p low high greedy)
    | p => .ok (.repeated p low high greedy)

end ScopeGrammar
