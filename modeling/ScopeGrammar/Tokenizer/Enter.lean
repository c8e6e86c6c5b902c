import ScopeGrammar.Scope.Spans
import ScopeGrammar.Tokenizer.Search

/-!
# Applying a match

A match of the end pattern closes the innermost region, a match of another rule gives scopes to its
text or opens a region. Either way the captures of the match get their scopes: at once, if they have
nothing but scopes, or else through a frame that goes over the text of the match again.

A match that takes no text is only of use if it opens or closes something new; `none` says that the
rules are stuck.
-/

namespace ScopeGrammar

namespace Tokenizing

/-! ### Captures -/

/-- The captures of a match that something is done with and that hold text, with what is done. -/
def capturedScopes (line : LineText) (m : Match) (grammar : GrammarId) :
    List (Nat × CaptureRule) → Tokenizing (List (Nat × CapturedScopes))
  | [] => pure []
  | (index, r) :: rest => do
    match m.clipped.group? index with
    | none => capturedScopes line m grammar rest
    | some span =>
      if span.isEmpty then capturedScopes line m grammar rest
      else
        let scopes ← resolve line m r.name
        let others ← capturedScopes line m grammar rest
        pure ((index, ⟨scopes, r.patterns.map (⟨grammar, ·⟩)⟩) :: others)

end Tokenizing

mutual

/-- The scoped ranges of a capture and of those in it, from the outside in. -/
def scopedRanges : CaptureTree CapturedScopes → List ScopedRange
  | ⟨_, span, captured, children⟩ =>
    captured.scopes.map (⟨span, ·⟩) ++ scopedRangesOfAll children

/-- The scoped ranges of some captures. -/
def scopedRangesOfAll : List (CaptureTree CapturedScopes) → List ScopedRange
  | [] => []
  | t :: ts => scopedRanges t ++ scopedRangesOfAll ts

end

/-- Gives scopes to the spans of captures, which lie in text with the scopes of `path`. -/
def TokenRow.extendSpans (row : TokenRow) (path : ScopePath)
    (spans : List (Span × List ScopeName)) : TokenRow :=
  spans.foldl
    (fun row (span, scopes) ↦
      (row.extend span.start path).extend span.stop (path.append scopes)) row

namespace Tokenizing

/-- Gives the scopes of `path` to the text of a match, and theirs to its captures. If a capture has
rules of its own, a frame for the match is opened instead; the result tells. -/
def enterCaptures (line : LineText) (s : LineState) (m : Match) (path : ScopePath)
    (grammar : GrammarId) (captures : Captures) : Tokenizing (LineState × Bool) :=
  if m.whole.isEmpty then pure (s, false)
  else if captures.isEmpty then pure (s.extend m.stop path, false)
  else do
    let forest := CaptureTree.forest m.clipped (← capturedScopes line m grammar captures.entries)
    if captures.hasPatterns then
      let frame := Frame.captured ⟨none, path, forest, m.start, m.stop⟩
      pure ({ s with stack := s.stack.push frame }, true)
    else
      let spans ← ofFault (ScopedRange.flatten (scopedRangesOfAll forest))
      pure ({ s with row := (s.row.extendSpans path spans).extend m.stop path }, false)

/-! ### Regions -/

/-- The exit pattern of a region that just began: that of its rule, with the captures of the begin
match filled in. -/
def exitPattern (ctx : Context) (line : LineText) (ref : RuleRef) (r : RegionRule) (m : Match) :
    Tokenizing ExitPattern :=
  if r.exitHasReferences then do
    let g ← ofFault (ctx.registry.grammar ref.grammar)
    let template ← ofFault (g.regex r.exit)
    match ← ofFault (fillReferences template.pattern.toList line.chars m) with
    | some filled => .filled <$> compilePattern (String.ofList filled) template.location
    | none => pure (.fixed ref.grammar r.exit)
  else pure (.fixed ref.grammar r.exit)

/-- The frame of a region that just began. -/
def regionFrame (ctx : Context) (line : LineText) (s : LineState) (ref : RuleRef) (r : RegionRule)
    (m : Match) : Tokenizing Region := do
  let exit ← exitPattern ctx line ref r m
  let nameScopes := s.stack.scopes.append (← resolve line m r.name)
  let contentScopes := nameScopes.append (← resolve line m r.contentName)
  trace ctx ref (.began · m.whole)
  pure
    { kind := r.kind, rule := ref, nameScopes, contentScopes, exit, exitLast := r.endLast
      bound := s.stack.bound?, tookLineEnd := m.stop == line.stop
      anchorBefore := s.anchor, enteredAt := some s.position }

/-! ### Matches -/

/-- Moves on after a match whose captures were entered. If a frame was opened for them, that frame
goes over the match, and the position is its start. -/
def advance (m : Match) (before : Nat) (entered : LineState × Bool) : LineState :=
  let s := entered.1
  let advanced : Bool := before < m.stop
  { s with
    position := if entered.2 then m.start else if advanced then m.stop else s.position
    atTextStart := s.atTextStart && !advanced }

/-- Closes the innermost region with a match of its end pattern. -/
def applyExit (ctx : Context) (line : LineText) (s : LineState) (m : Match) :
    Tokenizing (Option LineState) :=
  match s.stack.frames with
  | .region r :: below => do
    if m.stop ≤ s.position ∧ r.enteredAt = some s.position then
      trace ctx r.rule (.endedInPlace · s.position)
      pure none
    else
      trace ctx r.rule (.ended · m.whole)
      let rule ← ofFault (ctx.registry.rule r.rule)
      let closed := { s with stack := { s.stack with frames := below }, anchor := r.anchorBefore }
      let entered ← enterCaptures line closed m r.nameScopes r.rule.grammar
        (rule.exitCaptures?.getD {})
      pure (some (advance m s.position entered))
  | _ => throw (.fault .rootFrameRemoved)

/-- Gives its scopes to a match of a rule of a single pattern. -/
def applySingle (ctx : Context) (line : LineText) (s : LineState) (ref : RuleRef) (r : SingleRule)
    (m : Match) : Tokenizing (Option LineState) := do
  if m.stop ≤ s.position then
    trace ctx ref (.matchedNothing · s.position)
    pure none
  else
    trace ctx ref (.matched · m.whole)
    let path := s.stack.scopes.append (← resolve line m r.name)
    let entered ← enterCaptures line s m path ref.grammar r.captures
    pure (some (advance m s.position entered))

/-- Opens a region with a match of its begin pattern. -/
def applyRegion (ctx : Context) (line : LineText) (s : LineState) (ref : RuleRef) (r : RegionRule)
    (m : Match) : Tokenizing (Option LineState) := do
  if m.stop ≤ s.position ∧ s.stack.hasEnteredAt ref s.position then
    trace ctx ref (.begunTwice · s.position)
    pure none
  else
    let region ← regionFrame ctx line s ref r m
    let opened := { s with stack := s.stack.push (.region region), anchor := some m.stop }
    let entered ← enterCaptures line opened m region.nameScopes ref.grammar r.beginCaptures
    pure (some (advance m s.position entered))

/-- Applies a match in the innermost frame, of which the text before the match was given its
scopes. -/
def applyMatch (ctx : Context) (line : LineText) (s : LineState) (m : Match) :
    Candidate → Tokenizing (Option LineState)
  | .exit => applyExit ctx line s m
  | .rule ref => do
    let rule ← ofFault (ctx.registry.rule ref)
    match rule.body with
    | .single r => applySingle ctx line s ref r m
    | .region r => applyRegion ctx line s ref r m
    | .includes _ | .group _ => throw (.fault .ruleWithoutPattern)

end Tokenizing

end ScopeGrammar
