import ScopeGrammar.Tokenizer.Continuation

/-!
# Tokenizing a document

A session goes through the lines of a document with a grammar of a registry. What is open at the end
of a line is open at the start of the next; a line that fails leaves what was open before the step
that failed, without what would have ended in the line. A line that ends in a fault leaves nothing
to go on from: the session is lost, and every further line of it is a fault.

All sessions of a registry share its filled-in patterns, so that a step of a session gives back a
registry as well.
-/

namespace ScopeGrammar

/-- A document that is being tokenized. -/
structure Session where
  base : GrammarId
  injections : List (GrammarId × Injection)
  stack : Stack
  lines : Array String
  /-- The index of the line that comes next. -/
  nextLine : Nat := 0
  firstLine : Bool := true
  trace : Bool := false
  candidates : CandidateCache := {}
  /-- Whether a line ended in a fault, after which nothing is open any more. -/
  lost : Bool := false
  /-- What searches the patterns. -/
  engine : Engine := .machine

/-- What tokenizing a line comes to. -/
structure LineReport where
  result : Except Failure (List Token)
  session : Session
  registry : Registry
  log : Array Event
  /-- The names that were made of captured text. -/
  names : Array ScopeName

namespace Session

/-- How many steps a scan of a line may take. -/
def defaultFuel : Nat := 1000000000

/-- A session over some lines. -/
def ofLines (r : Registry) (base : GrammarId) (lines : List String) (E : Engine := .machine) :
    Except Fault Session := do
  let g ← r.grammar base
  let injections ← r.injectionsFor base
  pure { base, injections, stack := .ofGrammar base g.scope, lines := lines.toArray, engine := E }

/-- A session over the lines of a text. -/
def ofText (r : Registry) (base : GrammarId) (text : String) (E : Engine := .machine) :
    Except Fault Session :=
  ofLines r base (splitLines text) E

/-- Whether all lines are done. -/
def isAtEnd (s : Session) : Bool :=
  s.lines.size ≤ s.nextLine

/-- The number of open frames, with that of the grammar. -/
def depth (s : Session) : Nat :=
  if s.lost then 0 else s.stack.depth

/-- Descriptions of what is open, that of the grammar first. -/
def describeStack (s : Session) : List String :=
  if s.lost then [] else s.stack.describe

/-- The report of a scan to the end of a line, of which no frame may be left that ends in its
line. -/
def checkEnded (report : ScanReport) : ScanReport :=
  if report.failure.isNone && report.state.stack.frames.any (·.bound?.isSome) then
    { report with failure := some (.fault .boundedFrameLeft) }
  else report

/-- Tokenizes a line from the state at its start. The state that is left behind is that after the
last step. -/
def scanLine (ctx : Context) (line : LineText) (fuel : Nat) (start : LineState) (memory : Memory) :
    ScanReport :=
  match Tokenizing.continueRegions ctx line fuel [] start.stack.frames.reverse start memory with
  | .ok s memory => checkEnded (runScan ctx line none fuel s memory)
  | .error failure memory => ⟨start, memory, some failure⟩

/-- What a line of the document is tokenized with. -/
def context (s : Session) (r : Registry) : Context :=
  ⟨r, s.base, s.injections, s.trace, s.engine⟩

/-- The scan of a line that follows the last one. -/
def scanNext (s : Session) (r : Registry) (line : LineText) (fuel : Nat) : ScanReport :=
  scanLine (s.context r) line fuel (.start s.stack s.firstLine line)
    { candidates := s.candidates, patterns := r.patterns }

/-- The stack that a scan leaves for the next line: after a failure, without what would have ended
in the line. -/
def stackAfter (report : ScanReport) : Stack :=
  let stack := report.state.stack
  (if report.failure.isSome then stack.withoutBounded else stack).forNextLine

/-- Tokenizes a line that follows the last one. A terminator at its end does not count. -/
def tokenizeLine (s : Session) (r : Registry) (line : String) (fuel : Nat := defaultFuel) :
    LineReport :=
  if s.lost then ⟨.error (.fault .sessionLost), s, r, #[], #[]⟩ else
  let report := s.scanNext r (.ofLine line) fuel
  { result :=
      match report.failure with
      | none => .ok report.state.row.tokens
      | some failure => .error failure
    session :=
      { s with
        stack := stackAfter report, firstLine := false, candidates := report.memory.candidates
        lost := report.failure.any Failure.isFault }
    registry := { r with patterns := report.memory.patterns }
    log := report.memory.log
    names := report.memory.names }

/-- Tokenizes the next line of the document; there are no tokens when all lines are done. -/
def tokenizeNext (s : Session) (r : Registry) (fuel : Nat := defaultFuel) : LineReport :=
  match s.lines[s.nextLine]? with
  | none => ⟨.ok [], s, r, #[], #[]⟩
  | some line => { s with nextLine := s.nextLine + 1 }.tokenizeLine r line fuel

/-- What tokenizing several lines comes to. -/
structure TextReport where
  result : Except Failure (List (List Token))
  registry : Registry
  log : Array Event

/-- Tokenizes lines one after the other until one of them fails. -/
def tokenizeLines (s : Session) (r : Registry) (fuel : Nat) : List String → TextReport
  | [] => ⟨.ok [], r, #[]⟩
  | line :: lines =>
    let report := s.tokenizeLine r line fuel
    match report.result with
    | .error failure => ⟨.error failure, report.registry, report.log⟩
    | .ok tokens =>
      let rest := report.session.tokenizeLines report.registry fuel lines
      ⟨rest.result.map (tokens :: ·), rest.registry, report.log ++ rest.log⟩

end Session

namespace Registry

/-- The tokens of the lines of a text, with the grammar of a name or scope name. -/
def tokenizeText (r : Registry) (name text : String) (fuel : Nat := Session.defaultFuel)
    (E : Engine := .machine) : Session.TextReport :=
  match r.id? name with
  | none => ⟨.error (.error (.unknownName name)), r, #[]⟩
  | some id =>
    match Session.ofText r id text E with
    | .error fault => ⟨.error (.fault fault), r, #[]⟩
    | .ok s => s.tokenizeLines r fuel (splitLines text)

end Registry

end ScopeGrammar
