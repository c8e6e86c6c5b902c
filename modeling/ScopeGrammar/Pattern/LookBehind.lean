import ScopeGrammar.Pattern.Error
import ScopeGrammar.Pattern.Extent
import ScopeGrammar.Pattern.Head

/-!
# Look-behind

A look-behind matches its body against the text that ends at the current position. Its body can be
of variable width, but not everything can be matched backwards, and what can start is bounded:
`resolve` refuses the others.

A repeat at the start of a look-behind may as well take its least number of rounds, since what comes
before does not matter; `shorten` cuts it down, unless it has to keep all its rounds anyway. A body
that can be empty without further condition makes the look-behind hold, or its negation fail.
Alternatives of different widths become look-behinds of their own.

Resolving a pattern also spells out what its texts stand for regardless of case.
-/

namespace ScopeGrammar

namespace Anchor

/-- Whether the anchor can stand in a look-behind: all but those for the end of the text. -/
def allowedBehind : Anchor → Bool
  | textEnd | textEndOrNewline => false
  | _ => true

end Anchor

namespace Pattern

/-- Whether a pattern can be the body of a look-behind. A negated one has no capture groups. -/
def allowedBehind (negated : Bool) : Pattern → Bool
  | text _ _ | char _ | backreference _ _ _ | never => true
  | anchor a => a.allowedBehind
  | sequence a b | either a b => a.allowedBehind negated && b.allowedBehind negated
  | group _ body => !negated && body.allowedBehind negated
  | enclosed body | repeated body _ _ _ | atomic body => body.allowedBehind negated
  | lookAhead _ _ => false
  | lookBehind negated' body => body.allowedBehind negated'

/-- The greatest number of characters that a look-behind can go back. -/
def maxBehind : Nat := 65535

/-- What resolving a part of a pattern has to know about the whole. -/
structure Surroundings where
  /-- The groups that some back-reference refers to. -/
  referenced : List Nat
  /-- The extents of the groups. -/
  groups : Nat → Extent
  /-- The bodies of the groups. -/
  bodies : List (Nat × Pattern)

/-- Whether a body of a repeat is so simple that fewer rounds of it can be told in advance. -/
def isSimple : Pattern → Bool
  | text _ _ | char _ | backreference _ _ _ => true
  | _ => false

/-- Cuts a repeat of a simple body down to its least number of rounds; the flag says that none are
left. A repeat that keeps its rounds before what follows stays as it is. -/
def shortenElement (next : Option Pattern) : Pattern → Pattern × Bool
  | repeated body low high greedy =>
    if body.isSimple && !(greedy && high == none && next.any (body.keepsRounds low ·)) then
      (repeated body low (some low) greedy, low == 0)
    else (repeated body low high greedy, false)
  | p => (p, false)

/-- Cuts down the leading elements of a list as long as nothing is left of them. -/
def shortenElements : Pattern → Pattern × Bool
  | sequence a b =>
    let (a, gone) := shortenElement (some b) a
    if gone then
      let (b, gone) := shortenElements b
      (sequence a b, gone)
    else (sequence a b, false)
  | p => shortenElement none p

/-- Cuts down the start of one alternative. A list of which nothing is left is refused. -/
def shortenBranch : Pattern → Except PatternError Pattern
  | sequence a b =>
    match shortenElements (sequence a b) with
    | (_, true) => .error .vacuousLookBehind
    | (p, false) => .ok p
  | p => .ok (shortenElement none p).1

/-- Cuts down the start of every alternative. -/
def shorten : Pattern → Except PatternError Pattern
  | either a b => do pure (either (← shortenBranch a) (← shorten b))
  | p => shortenBranch p

/-- Whether the extent of a body depends on a text regardless of case that follows; the groups up to
`seen` do not. -/
def Surroundings.dependsOnFollowing (s : Surroundings) (seen : Nat) (body : Pattern) : Bool :=
  (reachedGroups s.bodies s.bodies.length body.extentReferences.eraseDups).any fun n ↦
    seen < n && (s.bodies.lookup n).any hasFoldedExtent

/-- The look-behind for a body, and the extent of the body if it is still to be matched. -/
def settleBehind (s : Surroundings) (negated : Bool) (seen : Nat) (body : Pattern) :
    Except PatternError (Pattern × Option Extent) := do
  let body ← shorten body
  let e := body.extent s.groups
  if s.dependsOnFollowing seen body then .error .invalidLookBehind
  else if maxBehind < e.low || e.high.any (maxBehind < ·) then .error .invalidLookBehind
  else if e.low == 0 && e.sure && !body.groupBodies.any (s.referenced.contains ·.1) then
    pure (if negated then never else empty, none)
  else pure (lookBehind negated body, some e)

/-- The look-behinds for some alternatives. -/
def settleAll (s : Surroundings) (negated : Bool) (seen : Nat) (bodies : List Pattern) :
    Except PatternError (List Pattern) :=
  bodies.mapM fun body ↦ (·.1) <$> settleBehind s negated seen body

/-- The look-behind for a body. If the alternatives after the first one have fixed widths, but not
all the same, then each becomes a look-behind of its own. -/
def behind (s : Surroundings) (negated : Bool) (seen : Nat) :
    Pattern → Except PatternError Pattern
  | either a b => do
    match ← settleBehind s negated seen (either a b) with
    | (p, some e) =>
      let others := (← shorten b).alternatives
      if !e.isFixed && others.all (fun q ↦ (q.extent s.groups).isFixed) then
        let first ← behind s negated seen a
        let rest ← settleAll s negated seen others
        pure (if negated then sequenceAll (first :: rest) else eitherAll (first :: rest))
      else pure p
    | (p, none) => pure p
  | p => (·.1) <$> settleBehind s negated seen p

/-- The greatest number of rounds, and of bytes, of a repeated text that is written out. -/
def maxWritten : Nat := 100

/-- A repeat whose body is resolved. A short text that is repeated a fixed number of times is
written out. -/
def repeatResolved (body : Pattern) (low : Nat) (high : Option Nat) (greedy : Bool) : Pattern :=
  match body with
  | text codes i =>
    if 1 < low ∧ low ≤ maxWritten ∧ high = some low ∧
        (codes.map codeSize).foldr (· + ·) 0 * low ≤ maxWritten then
      text (List.replicate low codes).flatten i
    else repeated body low high greedy
  | body => repeated body low high greedy

/-- Resolves the texts regardless of case and the look-behinds of a pattern; `inBehind` says that it
stands in a look-behind, and `seen` is the number of groups that begin before it. -/
def resolveIn (s : Surroundings) :
    Pattern → (inBehind : Bool) → (seen : Nat) → Except PatternError Pattern
  | text codes true, inBehind, _ => .ok (expandText inBehind codes)
  | text codes false, _, _ => .ok (text codes false)
  | char test, _, _ => .ok (char test)
  | anchor a, _, _ => .ok (anchor a)
  | sequence a b, inBehind, seen => do
    pure (sequence (← resolveIn s a inBehind seen)
      (← resolveIn s b inBehind (seen + a.groupBodies.length)))
  | either a b, inBehind, seen => do
    pure (either (← resolveIn s a inBehind seen)
      (← resolveIn s b inBehind (seen + a.groupBodies.length)))
  | group n body, inBehind, seen => do pure (group n (← resolveIn s body inBehind (seen + 1)))
  | enclosed body, inBehind, seen => do pure (enclosed (← resolveIn s body inBehind seen))
  | repeated body low high greedy, inBehind, seen => do
    pure (repeatResolved (← resolveIn s body inBehind seen) low high greedy)
  | atomic body, inBehind, seen => do pure (atomic (← resolveIn s body inBehind seen))
  | lookAhead negated body, inBehind, seen => do
    pure (lookAhead negated (← resolveIn s body inBehind seen))
  | lookBehind negated body, _, seen => do
    if body.allowedBehind negated then
      behind s negated (seen + body.groupBodies.length) (← resolveIn s body true seen)
    else .error .invalidLookBehind
  | backreference groups i inside, _, _ => .ok (backreference groups i inside)
  | never, _, _ => .ok never

/-- Resolves a pattern. -/
def resolve (p : Pattern) : Except PatternError Pattern :=
  resolveIn ⟨p.references, p.groupExtents, p.groupBodies⟩ p false 0

end Pattern

end ScopeGrammar
