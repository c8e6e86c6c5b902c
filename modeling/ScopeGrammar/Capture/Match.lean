import ScopeGrammar.Fault
import ScopeGrammar.Text.Span

/-!
# Matches

What a successful search reports: the span of the whole match and the span of each capture group,
if the group took part. Group 0 is the whole match.
-/

namespace ScopeGrammar

/-- A match and its capture groups; `groups` begins with group 1. -/
structure Match where
  whole : Span
  groups : List (Option Span)
  deriving DecidableEq, Repr, Inhabited

namespace Match

/-- Where the match starts. -/
def start (m : Match) : Nat := m.whole.start

/-- Where the match stops. -/
def stop (m : Match) : Nat := m.whole.stop

/-- All groups, the whole match first. -/
def captures (m : Match) : List (Option Span) :=
  some m.whole :: m.groups

/-- The span of a group, if there is such a group and it took part. -/
def group? (m : Match) : Nat → Option Span
  | 0 => some m.whole
  | i + 1 => (m.groups[i]?).join

@[simp] theorem group?_zero (m : Match) : m.group? 0 = some m.whole := rfl

/-- A position moved into the span. -/
def clampInto (bounds : Span) (p : Nat) : Nat :=
  max bounds.start (min p bounds.stop)

/-- A group cut to the bounds of a match. A group of which nothing is left is dropped, unless it
was empty to begin with and lies within the bounds. -/
def clipSpan (bounds s : Span) : Option Span :=
  let start := clampInto bounds s.start
  let stop := clampInto bounds s.stop
  if start < stop ∨ (s.isEmpty = true ∧ s.start = start) then some ⟨start, stop⟩ else none

/-- The match with its groups cut to its own span. Groups inside look-around can extend past it. -/
def clipped (m : Match) : Match :=
  ⟨m.whole, m.groups.map fun g ↦ g.bind (clipSpan m.whole)⟩

/-- The same for a match whose direction has not been checked. -/
def clipped? (m : Match) : Except Fault Match :=
  if m.start ≤ m.stop then .ok m.clipped else .error .backwardMatch

end Match

end ScopeGrammar
