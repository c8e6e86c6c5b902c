import ScopeGrammar.Tokenizer.Enter

/-!
# Scanning a line

`step` looks for the next match in the innermost frame and applies it; without a match it goes on to
the next capture of the frame, or closes the frame at its bound. `run` repeats it. Rules can lead
back to each other through captures for ever, so `run` takes fuel, and what it has reached when the
fuel runs out is told from a result.
-/

namespace ScopeGrammar

/-- What a step leads to. -/
inductive Step where
  /-- Another step. -/
  | goOn (s : LineState)
  /-- The end of the scan. -/
  | done (s : LineState)

/-- The captures of a frame that do not lie behind a position. -/
def pendingFrom (position : Nat) (pending : List (CaptureTree CapturedScopes)) :
    List (CaptureTree CapturedScopes) :=
  pending.dropWhile fun t ↦ t.span.start < position

namespace LineState

/-- Forgets the captures of the innermost frame that lie behind the position. -/
def dropPassed (s : LineState) : LineState :=
  match s.stack.frames with
  | .captured c :: below =>
    let c := { c with pending := pendingFrom s.position c.pending }
    { s with stack := { s.stack with frames := .captured c :: below } }
  | _ => s

/-- The next capture of the innermost frame. -/
def nextCapture? (s : LineState) : Option (CaptureTree CapturedScopes) :=
  match s.stack.frames with
  | .captured c :: _ => c.pending.head?
  | _ => none

/-- Opens a frame for the next capture of the innermost frame. -/
def openCapture (s : LineState) (t : CaptureTree CapturedScopes) : LineState :=
  let s := s.extendContent t.span.start
  let frame := Frame.captured
    { patterns := t.label.patterns, scopes := s.stack.scopes.append t.label.scopes
      pending := t.children, start := t.span.start, stop := t.span.stop }
  let frames :=
    match s.stack.frames with
    | .captured c :: below => .captured { c with pending := c.pending.tail } :: below
    | frames => frames
  { s with position := t.span.start, stack := { s.stack with frames := frame :: frames } }

end LineState

namespace Tokenizing

/-- The match to apply next, if there is one before the next capture. Nothing is searched in a
frame without rules, nor at its bound, where only empty matches are left. -/
def nextMatch (ctx : Context) (line : LineText) (s : LineState) (bound : Nat) :
    Tokenizing (Option (Match × Candidate)) :=
  if s.stack.bound?.isSome && bound ≤ s.position then pure none
  else do
    match ← findBest ctx line s bound, s.nextCapture? with
    | some (m, c), some t => pure (if m.start < t.span.start then some (m, c) else none)
    | found, _ => pure found

/-- Closes the frames that end in the line, and gives the rest of the line to what is left. -/
def stopLine (line : LineText) (s : LineState) : List Frame → LineState
  | f :: below =>
    match f.bound? with
    | some bound =>
      let anchor :=
        match f with
        | .region r => r.anchorBefore
        | .captured _ => s.anchor
      stopLine line { s with row := s.row.extend bound f.scopes, anchor := anchor } below
    | none => stopHere (f :: below)
  | [] => stopHere []
where
  /-- Gives the rest of the line to the innermost of some frames. -/
  stopHere (frames : List Frame) : LineState :=
    let s := { s with stack := { s.stack with frames := frames } }
    { s.extendContent line.stop with position := line.stop }

/-- Closes the innermost frame at its bound. The scan ends with a frame that has none, or when as
many frames as `stopDepth` are left. -/
def closeAtBound (ctx : Context) (stopDepth : Option Nat) (bound : Nat) (s : LineState) :
    Tokenizing Step := do
  let s := { s.extendContent bound with position := max s.position bound }
  match s.stack.frames with
  | [] => pure (.done s)
  | f :: below =>
    if f.bound?.isNone then pure (.done s)
    else
      let left := { s with stack := { s.stack with frames := below } }
      let left ← match f with
        | .region r => do
          trace ctx r.rule .outlasted
          pure { left with anchor := r.anchorBefore }
        | .captured _ => pure left
      pure (if stopDepth = some left.stack.depth then .done left else .goOn left)

/-- Makes one step of a scan. -/
def step (ctx : Context) (line : LineText) (stopDepth : Option Nat) (s : LineState) :
    Tokenizing Step := do
  let s := s.dropPassed
  let bound := s.stack.bound?.getD line.stop
  match ← nextMatch ctx line s bound with
  | some (m, c) =>
    let s := s.extendContent m.start
    match ← applyMatch ctx line s m c with
    | some s => pure (.goOn s)
    | none => pure (.done (stopLine line s s.stack.frames))
  | none =>
    match s.nextCapture? with
    | some t => pure (.goOn (s.openCapture t))
    | none => closeAtBound ctx stopDepth bound s

end Tokenizing

/-- Where a scan came to, and why it did not come to its end if it did not. -/
structure ScanReport where
  state : LineState
  memory : Memory
  failure : Option Failure

/-- Scans from a state on. After a failure, the state is the one before the step that failed. -/
def runScan (ctx : Context) (line : LineText) (stopDepth : Option Nat) :
    Nat → LineState → Memory → ScanReport
  | 0, s, memory => ⟨s, memory, some .unfinished⟩
  | fuel + 1, s, memory =>
    match Tokenizing.step ctx line stopDepth s memory with
    | .ok (.goOn s) memory => runScan ctx line stopDepth fuel s memory
    | .ok (.done s) memory => ⟨s, memory, none⟩
    | .error failure memory => ⟨s, memory, some failure⟩

namespace Tokenizing

/-- Scans from a state on, to the end of the scan. -/
def scan (ctx : Context) (line : LineText) (stopDepth : Option Nat) (fuel : Nat) (s : LineState) :
    Tokenizing LineState := fun memory ↦
  let report := runScan ctx line stopDepth fuel s memory
  match report.failure with
  | none => .ok report.state report.memory
  | some failure => .error failure report.memory

end Tokenizing

end ScopeGrammar
