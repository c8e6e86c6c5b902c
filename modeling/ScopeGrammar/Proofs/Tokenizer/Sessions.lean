import ScopeGrammar.Grammar.Compile
import ScopeGrammar.Proofs.Registry.References
import ScopeGrammar.Proofs.Tokenizer.Invariant

/-!
# Reachable sessions

`Reachable` are the sessions that calls lead to from the start of a document, whatever the calls
returned and whatever other sessions left in the shared patterns meanwhile. What a session is
tokenized with never changes (`Reachable.fixed_eq`), so that a property of its stack is one of the
stack that a scan leaves (`Reachable.stack_induction`).

A document of regions in parentheses, whose first line opens one and leaves it open, shows that
there is something to speak of.
-/

namespace ScopeGrammar

/-- The registry with other filled-in patterns, as other sessions leave them. -/
def Registry.withPatterns (r : Registry) (patterns : PatternCache) : Registry :=
  { r with patterns := patterns }

namespace Session

/-- The sessions that calls lead to from the start of a document. A call that ends in a fault leaves
nothing to go on from. -/
inductive Reachable (E : Engine) (r : Registry) (base : GrammarId) : Session → Prop
  | start {s : Session} (lines : List String) (h : ofLines r base lines E = .ok s) :
      Reachable E r base s
  /-- Tracing is switched. -/
  | traced {s : Session} (hs : Reachable E r base s) (trace : Bool) :
      Reachable E r base { s with trace := trace }
  /-- The next line of the document is taken. -/
  | taken {s : Session} (hs : Reachable E r base s) :
      Reachable E r base { s with nextLine := s.nextLine + 1 }
  /-- A line is tokenized. -/
  | line {s : Session} (hs : Reachable E r base s) (patterns : PatternCache) (line : String)
      (fuel : Nat)
      (h : ∀ f, (s.tokenizeLine (r.withPatterns patterns) line fuel).result ≠ .error (.fault f)) :
      Reachable E r base (s.tokenizeLine (r.withPatterns patterns) line fuel).session

variable {E : Engine} {r : Registry} {base : GrammarId} {s : Session} {patterns : PatternCache}
  {line : String} {fuel : Nat}

/-! ### Starts and reports -/

/-- A session begins with the root of its grammar and the injections that are active for it. -/
theorem exists_of_ofLines {lines : List String} (h : ofLines r base lines E = .ok s) :
    ∃ g injections, r.grammar base = .ok g ∧ r.injectionsFor base = .ok injections ∧
      s = { base, injections, stack := .ofGrammar base g.scope, lines := lines.toArray
            engine := E } := by
  obtain ⟨g, hg, h⟩ := exists_of_bind_eq_ok h
  obtain ⟨injections, hinjections, h⟩ := exists_of_bind_eq_ok h
  exact ⟨g, injections, hg, hinjections, (Except.ok.inj h).symm⟩

/-- A line leaves its stack to the session and is not the first one afterwards, whatever it comes
to. -/
theorem tokenizeLine_session (h : s.lost = false) :
    (s.tokenizeLine r line fuel).session =
      { s with
        stack := stackAfter (s.scanNext r (.ofLine line) fuel), firstLine := false
        candidates := (s.scanNext r (.ofLine line) fuel).memory.candidates
        lost := (s.scanNext r (.ofLine line) fuel).failure.any Failure.isFault } := by
  rw [tokenizeLine, if_neg (by simp [h])]

/-- The names that a line makes are those that its scan notes. -/
theorem tokenizeLine_names (h : s.lost = false) :
    (s.tokenizeLine r line fuel).names =
      (s.scanNext r (.ofLine line) fuel).memory.names := by
  rw [tokenizeLine, if_neg (by simp [h])]

/-- A line fails just if its scan does. -/
theorem tokenizeLine_eq_error_iff (h : s.lost = false) {failure : Failure} :
    (s.tokenizeLine r line fuel).result = .error failure ↔
      (s.scanNext r (.ofLine line) fuel).failure = some failure := by
  rw [tokenizeLine, if_neg (by simp [h])]
  dsimp only
  split <;> simp [*]

/-- A line gives the tokens of its scan if the scan does not fail. -/
theorem tokenizeLine_eq_ok_iff (h : s.lost = false) {tokens : List Token} :
    (s.tokenizeLine r line fuel).result = .ok tokens ↔
      (s.scanNext r (.ofLine line) fuel).failure = none ∧
        (s.scanNext r (.ofLine line) fuel).state.row.tokens = tokens := by
  rw [tokenizeLine, if_neg (by simp [h])]
  dsimp only
  split <;> simp [*]

/-! ### Lines of a session -/

/-- What is kept all through a line holds of the state that is left at its end. -/
theorem scanNext_state {text : LineText} {P : LineState → Prop}
    (hP : LineInvariant (s.context r) text P) (hs : P (.start s.stack s.firstLine text))
    (fuel : Nat) : P (s.scanNext r text fuel).state :=
  hP.scanLine_state hs _

/-- A line that does not fail ends with a step that ends it. -/
theorem exists_last_step_of_scanNext {text : LineText} {P : LineState → Prop}
    (hP : LineInvariant (s.context r) text P) (hs : P (.start s.stack s.firstLine text))
    (h : (s.scanNext r text fuel).failure = none) :
    ∃ s', P s' ∧ Transition (s.context r) text none s' (.done (s.scanNext r text fuel).state) :=
  hP.exists_last_step_of_scanLine hs h

namespace Reachable

/-- Taking the next line of a document and tokenizing it is a call like any other. -/
theorem tokenizeNext (hs : Reachable E r base s)
    (h : ∀ f, (s.tokenizeNext (r.withPatterns patterns) fuel).result ≠ .error (.fault f)) :
    Reachable E r base (s.tokenizeNext (r.withPatterns patterns) fuel).session := by
  rw [Session.tokenizeNext] at h ⊢
  split at h
  · exact hs
  · exact hs.taken.line patterns _ fuel h

/-- The stack of a session that is reached is not lost. -/
theorem lost_eq (hs : Reachable E r base s) : s.lost = false := by
  induction hs with
  | start lines h =>
    obtain ⟨g, injections, hg, hinjections, rfl⟩ := exists_of_ofLines h
    rfl
  | traced _ _ ih => exact ih
  | taken _ ih => exact ih
  | line hs patterns line fuel h ih =>
    rw [tokenizeLine_session ih]
    -- a session is lost by a fault only, and no call that ends in one leads on
    cases hfailure : (scanNext _ (r.withPatterns patterns) (.ofLine line) fuel).failure with
    | none => rfl
    | some failure =>
      cases failure with
      | fault f => exact (h f ((tokenizeLine_eq_error_iff ih).2 hfailure)).elim
      | error e => rfl
      | unfinished => rfl

/-- What is the same in all sessions of a document. -/
theorem fixed_eq (hs : Reachable E r base s) :
    s.engine = E ∧ s.base = base ∧ r.injectionsFor base = .ok s.injections := by
  induction hs with
  | start lines h =>
    obtain ⟨g, injections, hg, hinjections, rfl⟩ := exists_of_ofLines h
    exact ⟨rfl, rfl, hinjections⟩
  | traced _ _ ih => exact ih
  | taken _ ih => exact ih
  | line hs patterns line fuel h ih =>
    rw [tokenizeLine_session hs.lost_eq]
    exact ih

/-- A session goes on with the engine that it began with. -/
theorem engine_context (hs : Reachable E r base s) (r' : Registry) : (s.context r').engine = E :=
  hs.fixed_eq.1

/-- **A property of stacks that holds at the start of a document and that scans keep holds in all
sessions.** -/
theorem stack_induction {Q : Stack → Prop}
    (start : ∀ g, r.grammar base = .ok g → Q (.ofGrammar base g.scope))
    (line : ∀ {s : Session} (patterns : PatternCache) (line : String) (fuel : Nat),
      Reachable E r base s → Q s.stack →
        Q (stackAfter (s.scanNext (r.withPatterns patterns) (.ofLine line) fuel)))
    (hs : Reachable E r base s) : Q s.stack := by
  induction hs with
  | start lines h =>
    obtain ⟨g, injections, hg, hinjections, rfl⟩ := exists_of_ofLines h
    exact start g hg
  | traced _ _ ih => exact ih
  | taken _ ih => exact ih
  | line hs patterns text fuel h ih =>
    rw [tokenizeLine_session hs.lost_eq]
    exact line patterns text fuel hs ih

end Reachable

end Session

/-! ### Parentheses -/

/-- A grammar of regions in parentheses. -/
def GrammarDefinition.parens : GrammarDefinition where
  scopeName := "text"
  patterns := [{ beginPattern := some "(", endPattern := some ")" }]

/-- The grammar of regions in parentheses, compiled. -/
def Grammar.parens : Grammar where
  name := ""
  scopeName := "text"
  scope := .ofString "text"
  rules :=
    #[⟨0, none, false, .group ⟨[1], []⟩⟩,
      ⟨1, some 0, false, .region
        { kind := .beginEnd, name := none, contentName := none, begin := 0, beginCaptures := {}
          exit := 1, exitHasReferences := false, exitCaptures := {}, endLast := false
          patterns := [], repository := [] }⟩]
  regexes := #[.ofPattern "(" "patterns[0].begin", .ofPattern ")" "patterns[0].end"]
  injections := []
  exported := none
  injectTo := []

theorem Grammar.compile_parens (matcher : List Char → Matcher) :
    (compile .parens (.ofMatcher matcher)).result = .ok .parens :=
  rfl

namespace Registry

/-- The registry of that grammar. -/
def parens : Registry where
  grammars := #[.parens]
  byScopeName := Std.HashMap.insert {} "text" 0

theorem add_parens : add {} .parens = .ok (0, parens) :=
  rfl

theorem childCandidates_parens : parens.childCandidates 0 (.root 0) = .ok ([⟨0, 1⟩], #[]) :=
  candidatesFrom_of_matching (r := parens) (by decide) rfl

end Registry

namespace Session

open Tokenizing

variable (E : Engine)

/-- The session at the start of a document. -/
def parens : Session where
  base := 0
  injections := []
  stack := .ofGrammar 0 (.ofString "text")
  lines := #[]
  engine := E

/-- A session with that grammar can be begun. -/
theorem parens_reachable : Reachable E .parens 0 (parens E) :=
  .start [] rfl

/-- What it is tokenized with. -/
def parensContext : Context :=
  (parens E).context (Registry.parens.withPatterns {})

/-- The candidates that are known once the first match was looked for. -/
def rootCandidates : CandidateCache :=
  Std.HashMap.insert {} (.root 0, .children) [⟨0, 1⟩]

/-- What can match at the start of a line is the begin pattern. -/
theorem orderedCandidates_parens :
    orderedCandidates (parensContext E) (parens E).stack (.root 0) {} =
      .ok [.rule ⟨0, 1⟩] { candidates := rootCandidates } := by
  have hcandidates : Tokenizing.candidates (parensContext E) (.root 0) .children {} =
      .ok [⟨0, 1⟩] { candidates := rootCandidates } :=
    candidates_of_new Std.HashMap.getElem?_empty Registry.childCandidates_parens
  show (Tokenizing.candidates (parensContext E) (.root 0) .children >>= _) {} = _
  rw [bind_eq_of_eq_ok hcandidates]
  rfl

/-- The candidates that are known at the end of the line. -/
def parensCandidates : CandidateCache :=
  rootCandidates.insert (⟨0, 1⟩, .children) []

/-- The state at the start of the line. -/
def parensStart : LineState :=
  .start (.ofGrammar 0 (.ofString "text")) true (.ofLine "a(")

/-- The region that the parenthesis opens. -/
def parensRegion : Region where
  kind := .beginEnd
  rule := ⟨0, 1⟩
  nameScopes := .ofRoot (.ofString "text")
  contentScopes := .ofRoot (.ofString "text")
  exit := .fixed 0 1
  exitLast := false
  bound := none
  tookLineEnd := false
  anchorBefore := none
  enteredAt := some 0

/-- The state after the parenthesis. -/
def parensState : LineState where
  stack := (parens .literal).stack.push (.region parensRegion)
  position := 2
  anchor := some 2
  atTextStart := false
  row := ⟨[⟨⟨1, 2⟩, .ofRoot (.ofString "text")⟩, ⟨⟨0, 1⟩, .ofRoot (.ofString "text")⟩], 2, 2⟩

/-- The parenthesis is found. -/
theorem nextMatch_parensStart :
    nextMatch (parensContext .literal) (.ofLine "a(") parensStart 3 {} =
      .ok (some (⟨⟨1, 2⟩, []⟩, .rule ⟨0, 1⟩)) { candidates := rootCandidates } := by
  have hfound : (Regex.ofPattern "(" "patterns[0].begin").search (LineText.ofLine "a(").indexed
      ⟨0, 3⟩ ⟨true, false⟩ .literal = .ok (some ⟨⟨1, 2⟩, []⟩) := by decide +kernel
  exact nextMatch_of_singleton rfl rfl rfl (orderedCandidates_parens _) rfl hfound

/-- The region opens. -/
theorem step_parensStart :
    step (parensContext .literal) (.ofLine "a(") none parensStart {} =
      .ok (.goOn parensState) { candidates := rootCandidates } :=
  (bind_eq_of_eq_ok nextMatch_parensStart).trans rfl

/-- There is nothing to end the region, and the line ends. -/
theorem step_parensState :
    step (parensContext .literal) (.ofLine "a(") none parensState { candidates := rootCandidates } =
      .ok (.done (parensState.atLimit (.ofLine "a("))) { candidates := parensCandidates } := by
  have hnew : rootCandidates[((⟨0, 1⟩ : RuleRef), CandidateKind.children)]? = none := by
    rw [rootCandidates, Std.HashMap.getElem?_insert, if_neg (by decide),
      Std.HashMap.getElem?_empty]
  have hordered : orderedCandidates (parensContext .literal) parensState.stack ⟨0, 1⟩
      { candidates := rootCandidates } = .ok [.exit] { candidates := parensCandidates } :=
    (bind_eq_of_eq_ok (@candidates_of_new (parensContext .literal) _ _ _ hnew rfl)).trans rfl
  have hfound : (Regex.ofPattern ")" "patterns[0].end").search (LineText.ofLine "a(").indexed
      ⟨2, 3⟩ ⟨false, true⟩ .literal = .ok none := by decide +kernel
  have hbest : bestOf (parensContext .literal) (.ofLine "a(") parensState 3 none [.exit] =
      pure (Option.map (·, .exit) none) := bestOf_singleton rfl hfound
  have hnext : nextMatch (parensContext .literal) (.ofLine "a(") parensState 3
      { candidates := rootCandidates } = .ok none { candidates := parensCandidates } :=
    nextMatch_eq_ok rfl rfl rfl hordered hbest
  exact (bind_eq_of_eq_ok hnext).trans rfl

theorem scanNext_parens :
    (parens .literal).scanNext (Registry.parens.withPatterns {}) (.ofLine "a(") 2 =
      ⟨parensState.atLimit (.ofLine "a("), { candidates := parensCandidates }, none⟩ := by
  show checkEnded
    (runScan (parensContext .literal) (.ofLine "a(") none (0 + 1 + 1) parensStart {}) = _
  rw [runScan, step_parensStart]
  dsimp only
  rw [runScan, step_parensState]
  rfl

/-- The line is tokenized up to its end. -/
theorem tokenizeLine_parens :
    ((parens .literal).tokenizeLine (Registry.parens.withPatterns {}) "a(" 2).result =
      .ok [⟨⟨0, 1⟩, .ofRoot (.ofString "text")⟩, ⟨⟨1, 2⟩, .ofRoot (.ofString "text")⟩] := by
  rw [tokenizeLine_eq_ok_iff rfl, scanNext_parens]
  exact ⟨rfl, rfl⟩

/-- The region is open in the line after it. -/
theorem stack_tokenizeLine_parens :
    ((parens .literal).tokenizeLine (Registry.parens.withPatterns {}) "a(" 2).session.stack =
      (parens .literal).stack.push (.region { parensRegion with enteredAt := none }) := by
  rw [tokenizeLine_session rfl, scanNext_parens]
  rfl

/-- The line leaves a session with an open region. -/
theorem parens_reachable_tokenizeLine :
    Reachable .literal .parens 0
      ((parens .literal).tokenizeLine (Registry.parens.withPatterns {}) "a(" 2).session :=
  (parens_reachable .literal).line {} "a(" 2 fun f h ↦ by
    rw [tokenizeLine_parens] at h
    contradiction

end Session

end ScopeGrammar
