import ScopeGrammar.Fault
import ScopeGrammar.Scope.Name
import ScopeGrammar.Text.Span

/-!
# Flattening scoped ranges

Turns scoped ranges, which may nest or overlap, into a row of spans that do not overlap. A sweep
over the ends of the ranges keeps the list of open ranges; wherever it moves on, the stretch behind
it becomes a span with the scopes of the open ranges, outermost first. Of ranges that start
together the longer is the outer one, and equal ranges nest in the order given. Empty and backward
ranges hold no text and are left out.
-/

namespace ScopeGrammar

/-- A range with the scope it gives to its text. -/
structure ScopedRange where
  span : Span
  scope : ScopeName
  deriving DecidableEq, Repr

namespace ScopedRange

/-- One end of a range: where it is, whether the range opens there, the other end, and the place of
the range in the list. -/
structure Edge where
  position : Nat
  opens : Bool
  reach : Nat
  index : Nat
  scope : ScopeName
  deriving DecidableEq, Repr

/-- Whether two edges are in sweep order: by position, openings before closings, and of two
openings the one that reaches further first, then by place in the list. -/
def Edge.le (a b : Edge) : Bool :=
  a.position < b.position ||
    (a.position == b.position &&
      match a.opens, b.opens with
      | true, false => true
      | false, true => false
      | true, true => b.reach < a.reach || (a.reach == b.reach && a.index ≤ b.index)
      | false, false => a.index ≤ b.index)

/-- The two edges of a range that holds text. -/
def edges (r : ScopedRange) (index : Nat) : List Edge :=
  if r.span.isEmpty then []
  else
    [⟨r.span.start, true, r.span.stop, index, r.scope⟩,
     ⟨r.span.stop, false, r.span.start, index, r.scope⟩]

/-- Removes the last range with an index from the open ranges. -/
def removeLast (index : Nat) (opened : List (Nat × ScopeName)) : List (Nat × ScopeName) :=
  (opened.reverse.eraseP (·.1 == index)).reverse

/-- A sweep in progress. -/
structure Sweep where
  /-- Index and scope of the open ranges, outermost first. -/
  opened : List (Nat × ScopeName)
  /-- The position of the last edge. -/
  last : Option Nat
  /-- The spans made so far, last first. -/
  spans : List (Span × List ScopeName)

/-- The stretch from the last edge to a position, with the scopes of the open ranges. -/
def Sweep.stretchTo (s : Sweep) (position : Nat) : List (Span × List ScopeName) :=
  match s.last with
  | some last => if last < position then [(⟨last, position⟩, s.opened.map (·.2))] else []
  | none => []

/-- Moves the sweep over an edge. -/
def Sweep.step (s : Sweep) (e : Edge) : Sweep where
  opened := if e.opens then s.opened ++ [(e.index, e.scope)] else removeLast e.index s.opened
  last := some e.position
  spans := s.stretchTo e.position ++ s.spans

/-- The spans between the ends of the ranges, with the scopes that cover them. -/
def flatten (ranges : List ScopedRange) : Except Fault (List (Span × List ScopeName)) :=
  let edges := (ranges.zipIdx.flatMap fun (r, i) ↦ r.edges i).mergeSort Edge.le
  let sweep := edges.foldl Sweep.step ⟨[], none, []⟩
  if sweep.opened.isEmpty then .ok sweep.spans.reverse else .error .unbalancedRanges

end ScopedRange

end ScopeGrammar
