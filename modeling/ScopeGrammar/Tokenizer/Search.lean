import ScopeGrammar.Tokenizer.Memory

/-!
# Searching a line

What can match in the innermost frame, in order of preference: the injections that ask for the
place before all others, the end pattern of the region, the rules of the frame, and the other
injections. A region can ask for its end pattern to come after its rules. Of the matches the one
that starts first is taken, and of those that start together the one of the preferred candidate.
-/

namespace ScopeGrammar

/-- Something that can match. -/
inductive Candidate where
  /-- The end pattern of the innermost frame. -/
  | exit
  | rule (ref : RuleRef)
  deriving DecidableEq, Repr

namespace Tokenizing

/-- The injections whose selectors hold of some scopes, with their precedences. -/
def activeInjections (ctx : Context) (scopes : ScopePath) : List (Precedence × RuleRef) :=
  ctx.injections.filterMap fun (grammar, injection) ↦
    (injection.selector.precedence? scopes.toList).map (·, ⟨grammar, injection.rule⟩)

/-- The candidates of injected rules. -/
def injectedCandidates (ctx : Context) : List (Precedence × RuleRef) → Tokenizing (List Candidate)
  | [] => pure []
  | (_, ref) :: rest => do
    let refs ← candidates ctx ref .entry
    let others ← injectedCandidates ctx rest
    pure (refs.map .rule ++ others)

/-- The end pattern of the innermost frame, if it is a region with an end pattern: once with its
place before the rules, once with its place after them. -/
def exitCandidate (stack : Stack) (last : Bool) : List Candidate :=
  match stack.frames with
  | .region r :: _ => if r.kind = .beginEnd ∧ r.exitLast = last then [.exit] else []
  | _ => []

/-- All that can match in the innermost frame, which has the rules of `owner`. -/
def orderedCandidates (ctx : Context) (stack : Stack) (owner : RuleRef) :
    Tokenizing (List Candidate) := do
  let injected := activeInjections ctx stack.scopes
  let left ← injectedCandidates ctx (injected.filter (·.1 == .left))
  let rules ← candidates ctx owner .children
  let others ← injectedCandidates ctx (injected.filter (·.1 != .left))
  pure (left ++ exitCandidate stack false ++ rules.map .rule ++ exitCandidate stack true ++ others)

/-- The pattern of a candidate. -/
def candidateRegex (ctx : Context) (stack : Stack) : Candidate → Tokenizing (Option Regex)
  | .exit =>
    match stack.frames with
    | .region r :: _ => some <$> ofFault (r.exit.regex ctx.registry)
    | _ => pure none
  | .rule ref => do
    let g ← ofFault (ctx.registry.grammar ref.grammar)
    let rule ← ofFault (g.rule ref.rule)
    match rule.entry? with
    | some id => some <$> ofFault (g.regex id)
    | none => pure none

/-- Whether a match starts before the best one so far. -/
def startsBefore (m : Match) : Option (Match × Candidate) → Bool
  | none => true
  | some (b, _) => m.start < b.start

/-- The best match of some candidates up to a position, given the best of those that are
preferred. A match that starts at the position of the line cannot be bettered. -/
def bestOf (ctx : Context) (line : LineText) (s : LineState) (bound : Nat)
    (best : Option (Match × Candidate)) :
    List Candidate → Tokenizing (Option (Match × Candidate))
  | [] => pure best
  | c :: cs => do
    match ← candidateRegex ctx s.stack c with
    | none => bestOf ctx line s bound best cs
    | some r =>
      match ← search ctx line r ⟨s.position, bound⟩ s.liveAnchors with
      | none => bestOf ctx line s bound best cs
      | some m =>
        if startsBefore m best then
          if m.start = s.position then pure (some (m, c))
          else bestOf ctx line s bound (some (m, c)) cs
        else bestOf ctx line s bound best cs

/-- The best match in the innermost frame up to a position. -/
def findBest (ctx : Context) (line : LineText) (s : LineState) (bound : Nat) :
    Tokenizing (Option (Match × Candidate)) :=
  match s.stack.owner? with
  | none => pure none
  | some owner => do
    let cs ← orderedCandidates ctx s.stack owner
    bestOf ctx line s bound none cs

end Tokenizing

end ScopeGrammar
