import ScopeGrammar.Tokenizer.Scan

/-!
# Regions that go on line by line

At the start of a line, each open region with a while pattern has to match that pattern, the
outermost first. The first one that does not is closed with all that it holds. The match of one that
does is scoped like the text that began the region, without anything that was opened later.
-/

namespace ScopeGrammar

namespace Tokenizing

/-- The state after a region was found to go on. -/
def afterContinuation (m : Match) (before scanned : LineState) : LineState :=
  let advanced : Bool := before.position < m.stop
  { scanned with
    stack := before.stack
    anchor := some m.stop
    position := if advanced then max scanned.position m.stop else scanned.position
    atTextStart := scanned.atTextStart && !advanced }

/-- Scopes the match with which a region goes on. The frames are those of the region and of what
holds it. -/
def enterContinuation (ctx : Context) (line : LineText) (fuel : Nat) (frames : List Frame)
    (r : Region) (m : Match) (s : LineState) : Tokenizing LineState := do
  trace ctx r.rule (.continued · m.whole)
  let rule ← ofFault (ctx.registry.rule r.rule)
  let inner := { s with stack := { s.stack with frames := frames } }
  let (inner, entered) ← enterCaptures line inner m r.contentScopes r.rule.grammar
    (rule.exitCaptures?.getD {})
  let scanned ← if entered then scan ctx line (some (frames.length + 1)) fuel inner else pure inner
  pure (afterContinuation m s scanned)

/-- Goes through frames from the outermost one on; `passed` are those that it has gone through,
innermost first. -/
def continueRegions (ctx : Context) (line : LineText) (fuel : Nat) (passed : List Frame) :
    List Frame → LineState → Tokenizing LineState
  | [], s => pure s
  | .captured c :: inside, s => continueRegions ctx line fuel (.captured c :: passed) inside s
  | .region r :: inside, s =>
    match r.kind with
    | .beginEnd => continueRegions ctx line fuel (.region r :: passed) inside s
    | .beginWhile => do
      let regex ← ofFault (r.exit.regex ctx.registry)
      match ← search ctx line regex ⟨s.position, line.stop⟩ s.liveAnchors with
      | some m =>
        if m.start = s.position then
          let frames := .region r :: passed
          let s ← enterContinuation ctx line fuel frames r m s
          continueRegions ctx line fuel frames inside s
        else discontinue ctx passed r inside s
      | none => discontinue ctx passed r inside s
where
  /-- Closes a region and all that it holds. -/
  discontinue (ctx : Context) (passed : List Frame) (r : Region) (inside : List Frame)
      (s : LineState) : Tokenizing LineState := do
    trace ctx r.rule (.discontinued · s.position (inside.length + 1))
    pure { s with stack := { s.stack with frames := passed } }

end Tokenizing

end ScopeGrammar
