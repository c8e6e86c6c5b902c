import ScopeGrammar.Registry.Candidates
import ScopeGrammar.Registry.Injections
import ScopeGrammar.Tokenizer.Line

/-!
# What tokenizing reads, remembers and logs

`Context` is what stays the same while a document is tokenized. `Memory` is what grows: the log, the
names that are made of captured text, and the candidates of rules and the filled-in patterns,
neither of which is worked out twice. A `Tokenizing` computation may fail and keeps its memory when
it does.
-/

namespace ScopeGrammar

/-- What a document is tokenized with. -/
structure Context where
  registry : Registry
  /-- The grammar of the document. -/
  base : GrammarId
  injections : List (GrammarId × Injection)
  /-- Whether every step of the rules is logged. -/
  trace : Bool
  /-- What searches patterns. -/
  engine : Engine

/-- Which candidates of a rule are meant. -/
inductive CandidateKind where
  /-- Those that the rules held by the rule lead to. -/
  | children
  /-- Those that the rule itself leads to. -/
  | entry
  deriving DecidableEq, Hashable, Repr

/-- The candidates of rules that are known. -/
abbrev CandidateCache := Std.HashMap (RuleRef × CandidateKind) (List RuleRef)

/-- What is remembered while a document is tokenized. -/
structure Memory where
  candidates : CandidateCache := {}
  patterns : PatternCache := {}
  log : Array Event := #[]
  /-- The names that were made of captured text, in the order in which they were made. -/
  names : Array ScopeName := #[]

/-- A computation that may fail and keeps its memory. -/
abbrev Tokenizing := EStateM Failure Memory

namespace Tokenizing

/-- The result of something that may find a fault. -/
def ofFault {α : Type} : Except Fault α → Tokenizing α
  | .ok a => pure a
  | .error f => throw (.fault f)

/-- Logs an event. -/
def log (e : Event) : Tokenizing Unit :=
  modify fun m ↦ { m with log := m.log.push e }

/-- Logs an event of a rule if rules are traced. -/
def trace (ctx : Context) (rule : RuleRef) (e : String → Event) : Tokenizing Unit :=
  if ctx.trace then do
    log (e (← ofFault (ctx.registry.describe rule)))
  else pure ()

/-- The candidates of a rule. -/
def candidates (ctx : Context) (ref : RuleRef) (kind : CandidateKind) :
    Tokenizing (List RuleRef) := do
  match (← get).candidates[(ref, kind)]? with
  | some refs => pure refs
  | none =>
    let (refs, events) ← ofFault (match kind with
      | .children => ctx.registry.childCandidates ctx.base ref
      | .entry => ctx.registry.entryCandidates ctx.base ref)
    modify fun m ↦
      { m with log := m.log ++ events, candidates := m.candidates.insert (ref, kind) refs }
    pure refs

/-- The compiled form of a filled-in pattern. -/
def compilePattern (pattern location : String) : Tokenizing Regex :=
  modifyGet fun m ↦
    let (r, patterns) := m.patterns.compile pattern location
    (r, { m with patterns := patterns })

/-- Notes the names that a template gave. Only a template that refers to captures makes its names
anew; those of any other were made when its grammar was loaded. -/
def noteNames (t : ScopeTemplate) (names : List ScopeName) : Tokenizing Unit :=
  if t.hasCaptures then modify fun m ↦ { m with names := m.names ++ names } else pure ()

/-- The scopes that a template gives for a match in a line; none without a template. -/
def resolve (line : LineText) (m : Match) : Option ScopeTemplate → Tokenizing (List ScopeName)
  | none => pure []
  | some t => do
    for word in t.unknownModifiers m do
      log (.unknownModifier word t.source)
    let names ← ofFault (t.resolve line.chars m)
    noteNames t names
    pure names

/-- The leftmost match of a pattern in a span of a line. -/
def search (ctx : Context) (line : LineText) (r : Regex) (range : Span) (live : LiveAnchors) :
    Tokenizing (Option Match) :=
  match r.search line.indexed range live ctx.engine with
  | .ok found => pure found
  | .error (.refused e) => throw (.error (.regex e))
  | .error .outside => throw (.fault .searchOutsideText)
  | .error .exhausted => throw (.fault .searchExhausted)

end Tokenizing

/-- The pattern that an exit pattern stands for. -/
def ExitPattern.regex (r : Registry) : ExitPattern → Except Fault Regex
  | fixed grammar regex => do (← r.grammar grammar).regex regex
  | filled regex => .ok regex

end ScopeGrammar
