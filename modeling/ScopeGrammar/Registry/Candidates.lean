import ScopeGrammar.Event
import ScopeGrammar.Registry.Basic
import Std.Data.HashSet

/-!
# Candidates

The candidates of a rule are the rules with a pattern of their own that can be reached from it
through groups and includes, in the order in which they are declared. Every rule is visited once, so
that a group that includes itself adds nothing the second time. Disabled rules are passed over with
all that they hold, and so are includes that lead nowhere; both are logged.

The number of rules in the registry bounds the number of visits.
-/

namespace ScopeGrammar

namespace Registry

/-- The rule that an include in a grammar leads to. -/
def resolve (r : Registry) (base : GrammarId) (ref : RuleRef) (target : IncludeTarget) :
    Except Fault (Option RuleRef) :=
  match target with
  | .self => .ok (some (.root ref.grammar))
  | .base => .ok (some (.root base))
  | .entry name => do
    let g ← r.grammar ref.grammar
    pure ((← g.lookup ref.rule name).map (⟨ref.grammar, ·⟩))
  | .grammar scopeName entry =>
    match r.idByScopeName? scopeName, entry with
    | none, _ => .ok none
    | some id, none => .ok (some (.root id))
    | some id, some name => do
      let g ← r.grammar id
      pure ((← g.lookup rootRule name).map (⟨id, ·⟩))
  | .unknown _ => .ok none

/-- An expansion in progress. -/
structure Expansion where
  visited : Std.HashSet RuleRef := {}
  /-- The candidates found so far, the last one first. -/
  found : List RuleRef := []
  log : Array Event := #[]

/-- What visiting a rule leads to: the rules that take its place, or `none` for a candidate, and
what is logged. -/
def visit (r : Registry) (base : GrammarId) (ref : RuleRef) :
    Except Fault (Option (List RuleRef) × Option Event) := do
  let g ← r.grammar ref.grammar
  let rule ← g.rule ref.rule
  if rule.disabled then pure (some [], some (.disabledRule (← g.describe ref.rule)))
  else
    match rule.body with
    | .single _ | .region _ => pure (none, none)
    | .group group => pure (some (group.patterns.map (⟨ref.grammar, ·⟩)), none)
    | .includes target =>
      match ← r.resolve base ref target with
      | some ref' => pure (some [ref'], none)
      | none => pure (some [], some (.deadInclude target.source g.scopeName))

/-- Visits rules in order, each followed by those that take its place. No more than `room` rules are
visited. -/
def expand (r : Registry) (base : GrammarId) (room : Nat) (e : Expansion) (pending : List RuleRef) :
    Except Fault Expansion :=
  match pending.dropWhile (· ∈ e.visited), room with
  | [], _ => .ok e
  | _ :: _, 0 => .error .unknownRule
  | ref :: pending, room + 1 => do
    let (places, event) ← r.visit base ref
    r.expand base room
      { visited := e.visited.insert ref
        found := if places.isNone then ref :: e.found else e.found
        log := match event with
          | some event => e.log.push event
          | none => e.log }
      (places.getD [] ++ pending)

/-- The candidates that some rules lead to, and what is logged. -/
def candidatesFrom (r : Registry) (base : GrammarId) (refs : List RuleRef) :
    Except Fault (List RuleRef × Array Event) := do
  let e ← r.expand base r.ruleCount {} refs
  pure (e.found.reverse, e.log)

/-- The candidates that the rules held by a rule lead to. -/
def childCandidates (r : Registry) (base : GrammarId) (owner : RuleRef) :
    Except Fault (List RuleRef × Array Event) := do
  let rule ← r.rule owner
  r.candidatesFrom base (rule.patterns.map (⟨owner.grammar, ·⟩))

/-- The candidates that a rule itself leads to: the rule, if it has a pattern. -/
def entryCandidates (r : Registry) (base : GrammarId) (ref : RuleRef) :
    Except Fault (List RuleRef × Array Event) :=
  r.candidatesFrom base [ref]

end Registry

end ScopeGrammar
