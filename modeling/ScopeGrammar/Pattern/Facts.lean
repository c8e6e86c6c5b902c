import ScopeGrammar.Pattern.LookBehind

/-!
# Facts about a pattern as a whole

What the code for a part of a pattern needs to know about the rest of it.

A group is *revocable* if going back to an earlier choice also takes back what the group captured
since; for the other groups the last capture simply counts. A group is *watched* by a repeat whose
rounds can be empty if a back-reference elsewhere can tell what the round captured: then a round
that takes no text may still have an effect.
-/

namespace ScopeGrammar

namespace Pattern

/-- The groups of which going back takes back the captures: those in alternatives, in repeats with
a variable number of rounds and in negated look-around. `inside` says that the pattern stands in one
of these. -/
def revocableIn (inside : Bool) : Pattern → List Nat
  | text _ _ | char _ | anchor _ | backreference _ _ _ | never => []
  | sequence a b => a.revocableIn inside ++ b.revocableIn inside
  | either a b => a.revocableIn true ++ b.revocableIn true
  | group n body =>
    let inner := body.revocableIn inside
    if inside then n :: inner else inner
  | enclosed body | atomic body => body.revocableIn inside
  | repeated body low high _ => body.revocableIn (inside || high != some low)
  | lookAhead negated body | lookBehind negated body => body.revocableIn (inside || negated)

/-- The groups from this number on are revocable together. -/
def sharedFrom : Nat := 32

/-- Whether a round of a repeat can take no text. -/
def canBeEmpty (groups : Nat → Extent) (body : Pattern) : Bool :=
  (body.extent groups).low == 0

/-- The groups that the rounds of a repeat with this body may set, but for those in repeats that can
have empty rounds themselves and in look-around that has to hold. -/
def setByRound (groups : Nat → Extent) : Pattern → List Nat
  | text _ _ | char _ | anchor _ | backreference _ _ _ | never => []
  | sequence a b | either a b => a.setByRound groups ++ b.setByRound groups
  | group n body => n :: body.setByRound groups
  | enclosed body | atomic body => body.setByRound groups
  | repeated body _ high _ =>
    if high != some 0 && body.canBeEmpty groups then [] else body.setByRound groups
  | lookAhead negated body => if negated then body.setByRound groups else []
  | lookBehind negated body => if negated then body.setByRound groups else []

/-- The groups that the rounds of a repeat set and that are referred to from outside of it, as far
as they are revocable one by one; `references` are the references of the whole pattern. -/
def watched (groups : Nat → Extent) (references : List Nat) (body : Pattern) : List Nat :=
  let inner := body.references
  (body.setByRound groups).filter fun n ↦ n < sharedFrom && inner.count n < references.count n

end Pattern

/-- What the code for a part of a pattern needs to know about the whole. -/
structure PatternFacts where
  references : List Nat
  revocable : List Nat
  groups : Nat → Extent

namespace PatternFacts

/-- The facts about a resolved pattern, given the extents of its groups. -/
def ofPattern (p : Pattern) (groups : Nat → Extent) : PatternFacts where
  references := p.references
  revocable := p.revocableIn false ++ p.references
  groups := groups

/-- Whether going back takes back what a group captured. -/
def isRevocable (f : PatternFacts) (n : Nat) : Bool :=
  if n < Pattern.sharedFrom then f.revocable.contains n
  else f.revocable.any (Pattern.sharedFrom ≤ ·)

end PatternFacts

end ScopeGrammar
