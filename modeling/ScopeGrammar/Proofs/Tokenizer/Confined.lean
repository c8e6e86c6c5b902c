import ScopeGrammar.Proofs.Tokenizer.Invariant

/-!
# How computations can fail

`Confined A I x` says that the computation `x` keeps what is remembered within `I`, and that if it
fails then with one of the failures `A`. It is put together along the computation, each part from
what the parts before it return; the rules for that are here.

The first use of it: only a scan can run out of fuel (`finishes_step`). All else that makes up a
step goes through lists and ends. What is said of memories on the way is any property that logging,
compiling and finding candidates keep (`MemoryInvariant`). The same goes for any other failures, as
long as faults are among them and searches fail in no other way (`Admits`), and for a whole line
(`Admits.scanLine_confined`).
-/

namespace ScopeGrammar

/-- The candidates of a rule, as they are found when they are not known yet, and what is logged. -/
def Registry.freshCandidates (r : Registry) (base : GrammarId) (ref : RuleRef) :
    CandidateKind → Except Fault (List RuleRef × Array Event)
  | .children => r.childCandidates base ref
  | .entry => r.entryCandidates base ref

namespace Tokenizing

variable {α β : Type} {A : Failure → Prop} {I : Memory → Prop}

/-- The computation keeps within some memories and fails in some ways only. -/
def Confined (A : Failure → Prop) (I : Memory → Prop) (x : Tokenizing α) : Prop :=
  ∀ memory, I memory →
    match x memory with
    | .ok _ memory' => I memory'
    | .error e memory' => A e ∧ I memory'

/-! ### Rules -/

/-- A computation may be said to fail in more ways than it does. -/
theorem Confined.mono {B : Failure → Prop} {x : Tokenizing α} (hx : Confined A I x)
    (h : ∀ e, A e → B e) : Confined B I x := by
  intro memory hmemory
  have hx := hx memory hmemory
  cases heq : x memory with
  | ok a memory' =>
    rw [heq] at hx
    exact hx
  | error e memory' =>
    rw [heq] at hx
    exact ⟨h e hx.1, hx.2⟩

/-- A value that is returned does not fail and changes nothing that is remembered. -/
theorem confined_pure (a : α) : Confined A I (pure a : Tokenizing α) :=
  fun _ h ↦ h

/-- A failure that is among those that are admitted is one. -/
theorem confined_throw {e : Failure} (he : A e) : Confined A I (throw e : Tokenizing α) :=
  fun _ h ↦ ⟨he, h⟩

/-- A computation without memory fails in the faults that it finds. -/
theorem confined_ofFault {x : Except Fault α} (hx : ∀ f, x = .error f → A (.fault f)) :
    Confined A I (ofFault x) := by
  cases x with
  | ok a => exact confined_pure a
  | error f => exact confined_throw (hx f rfl)

/-- **A sequence is confined if its first part is, and the second one for all that the first part
returns.** -/
theorem Confined.bind {x : Tokenizing α} {f : α → Tokenizing β} (hx : Confined A I x)
    (hf : ∀ a, ReturnsFrom I x a → Confined A I (f a)) : Confined A I (x >>= f) := by
  intro memory h
  have hx := hx memory h
  cases heq : x memory with
  | ok a memory' =>
    rw [heq] at hx
    rw [bind_eq_of_eq_ok heq]
    exact hf a ⟨memory, memory', h, heq⟩ memory' hx
  | error e memory' =>
    rw [heq] at hx
    rw [bind_eq_of_eq_error heq]
    exact hx

/-- What a sequence returns comes of something that its first part returns. -/
theorem ReturnsFrom.exists_of_bind {x : Tokenizing α} {f : α → Tokenizing β} {b : β}
    (h : ReturnsFrom I (x >>= f) b) (hx : Confined A I x) :
    ∃ a, ReturnsFrom I x a ∧ ReturnsFrom I (f a) b := by
  obtain ⟨memory, memory', hmemory, h⟩ := h
  obtain ⟨a, between, ha, hb⟩ := exists_of_bind_eq h
  have hbetween := hx memory hmemory
  rw [ha] at hbetween
  exact ⟨a, ⟨memory, between, hmemory, ha⟩, between, memory', hbetween, hb⟩

/-- Changing a result adds no failure. -/
theorem Confined.map {f : α → β} {x : Tokenizing α} (hx : Confined A I x) :
    Confined A I (f <$> x) := by
  rw [map_eq_pure_bind]
  exact hx.bind fun a _ ↦ confined_pure (f a)

/-- A change of what is remembered has to keep to the memories. -/
theorem confined_modify {f : Memory → Memory} (hf : ∀ memory, I memory → I (f memory)) :
    Confined A I (modify f : Tokenizing Unit) :=
  fun memory h ↦ hf memory h

/-- A loop that always goes on. -/
theorem confined_forIn {items : List α} {f : α → Tokenizing Unit}
    (hf : ∀ a ∈ items, Confined A I (f a)) :
    Confined A I (forIn items PUnit.unit fun a _ ↦ do
      f a
      pure (ForInStep.yield PUnit.unit) : Tokenizing PUnit) := by
  induction items with
  | nil => exact confined_pure _
  | cons a items ih =>
    rw [List.forIn_cons, bind_assoc]
    refine (hf a List.mem_cons_self).bind fun _ _ ↦ ?_
    exact ih fun a' h ↦ hf a' (List.mem_cons_of_mem _ h)

/-- What is made of a result depends on the results that there are. -/
theorem bind_congr_of_returns {x : Tokenizing α} {f g : α → Tokenizing β}
    (h : ∀ a, Returns x a → f a = g a) : x >>= f = x >>= g := by
  funext memory
  cases heq : x memory with
  | ok a memory' => rw [bind_eq_of_eq_ok heq, bind_eq_of_eq_ok heq, h a (returns_of_eq heq)]
  | error e memory' => rw [bind_eq_of_eq_error heq, bind_eq_of_eq_error heq]

/-! ### What a step does besides searching -/

variable {ctx : Context} {line : LineText}

/-- Noting names changes nothing else. -/
theorem confined_noteNames
    (hI : ∀ {memory : Memory} (names : Array ScopeName), I memory →
      I { memory with names := names })
    (t : ScopeTemplate) (names : List ScopeName) : Confined A I (noteNames t names) := by
  rw [noteNames]
  split
  · exact confined_modify fun _ h ↦ hI _ h
  · exact confined_pure _

/-- The captures of a match get their labels as the scopes of their templates are told. -/
theorem confined_capturedScopes_of_resolve {m : Match}
    (hresolve : ∀ t, Confined A I (resolve line m t)) (grammar : GrammarId)
    (entries : List (Nat × CaptureRule)) :
    Confined A I (capturedScopes line m grammar entries) := by
  induction entries with
  | nil => exact confined_pure _
  | cons entry rest ih =>
    rw [capturedScopes]
    split
    · exact ih
    · split
      · exact ih
      · exact (hresolve _).bind fun _ _ ↦ ih.bind fun _ _ ↦ confined_pure _

/-- Captures are entered as their labels are told, and as their ranges are flattened. -/
theorem confined_enterCaptures_of_resolve {m : Match}
    (hresolve : ∀ t, Confined A I (resolve line m t))
    (hflatten : ∀ ranges, Confined A I (ofFault (ScopedRange.flatten ranges))) (s : LineState)
    (path : ScopePath) (grammar : GrammarId) (captures : Captures) :
    Confined A I (enterCaptures line s m path grammar captures) := by
  rw [enterCaptures]
  split
  · exact confined_pure _
  · split
    · exact confined_pure _
    · refine (confined_capturedScopes_of_resolve hresolve _ _).bind fun labels _ ↦ ?_
      split
      · exact confined_pure _
      · exact (hflatten _).bind fun _ _ ↦ confined_pure _

/-- The memories are kept to by all that is done to a memory. -/
structure MemoryInvariant (ctx : Context) (I : Memory → Prop) : Prop where
  /-- Something is logged. -/
  logged : ∀ {memory : Memory} (log : Array Event), I memory → I { memory with log := log }
  /-- Names are noted. -/
  noted : ∀ {memory : Memory} (names : Array ScopeName), I memory →
    I { memory with names := names }
  /-- A pattern is compiled. -/
  compiled : ∀ {memory : Memory} (patterns : PatternCache), I memory →
    I { memory with patterns := patterns }
  /-- Candidates are found. -/
  found : ∀ {memory : Memory} {ref : RuleRef} {kind : CandidateKind} {refs : List RuleRef}
    {events : Array Event}, I memory →
      ctx.registry.freshCandidates ctx.base ref kind = .ok (refs, events) →
      I { memory with candidates := memory.candidates.insert (ref, kind) refs }

/-- If all memories will do, they are kept to. -/
theorem memoryInvariant_true (ctx : Context) : MemoryInvariant ctx fun _ ↦ True where
  logged _ _ := True.intro
  noted _ _ := True.intro
  compiled _ _ := True.intro
  found _ _ := True.intro

/-- All faults are among the failures, and the memories are kept to. -/
structure Admits (ctx : Context) (A : Failure → Prop) (I : Memory → Prop) : Prop where
  fault : ∀ f, A (.fault f)
  memory : MemoryInvariant ctx I

namespace Admits

variable (hA : Admits ctx A I)

include hA

/-- A fault is always admitted. -/
theorem confined_fault (x : Except Fault α) : Confined A I (ofFault x) :=
  confined_ofFault fun f _ ↦ hA.fault f

/-- Writing to the log cannot fail. -/
theorem confined_log (e : Event) : Confined A I (log e) :=
  confined_modify fun memory h ↦ hA.memory.logged (memory.log.push e) h

/-- Noting a rule fails only if the rule is not there, which is a fault. -/
theorem confined_trace (rule : RuleRef) (e : String → Event) :
    Confined A I (trace ctx rule e) := by
  rw [trace]
  split
  · exact (hA.confined_fault _).bind fun _ _ ↦ hA.confined_log _
  · exact confined_pure _

/-- Making the names of a match fails only if captured text cannot be cut out, which is a fault. -/
theorem confined_resolve (m : Match) (t : Option ScopeTemplate) :
    Confined A I (resolve line m t) := by
  cases t with
  | none => exact confined_pure _
  | some t =>
    refine (confined_forIn fun _ _ ↦ hA.confined_log _).bind fun _ _ ↦ ?_
    refine (hA.confined_fault _).bind fun names _ ↦ ?_
    exact (confined_noteNames hA.memory.noted t names).bind fun _ _ ↦ confined_pure _

/-! ### Candidates -/

/-- Finding the candidates of a rule fails with faults only, and what is found is remembered. -/
theorem confined_candidates (ref : RuleRef) (kind : CandidateKind) :
    Confined A I (candidates ctx ref kind) := by
  -- reading the memory leaves it as it is
  refine Confined.bind (fun _ h ↦ h) fun memory _ ↦ ?_
  split
  · exact confined_pure _
  · refine (hA.confined_fault _).bind fun found hfound ↦ ?_
    obtain ⟨refs, events⟩ := found
    have hfresh : ctx.registry.freshCandidates ctx.base ref kind = .ok (refs, events) := by
      cases kind <;> exact hfound.returns.eq_ok_of_ofFault
    exact (confined_modify fun memory h ↦
      hA.memory.logged (memory.log ++ events) (hA.memory.found h hfresh)).bind
        fun _ _ ↦ confined_pure _

/-- Finding the candidates of injections fails with faults only. -/
theorem confined_injectedCandidates (injected : List (Precedence × RuleRef)) :
    Confined A I (injectedCandidates ctx injected) := by
  induction injected with
  | nil => exact confined_pure _
  | cons i rest ih =>
    exact (hA.confined_candidates _ _).bind fun _ _ ↦ ih.bind fun _ _ ↦ confined_pure _

/-- Finding all that can match in a frame fails with faults only. -/
theorem confined_orderedCandidates (stack : Stack) (owner : RuleRef) :
    Confined A I (orderedCandidates ctx stack owner) :=
  (hA.confined_injectedCandidates _).bind fun _ _ ↦ (hA.confined_candidates _ _).bind fun _ _ ↦
    (hA.confined_injectedCandidates _).bind fun _ _ ↦ confined_pure _

/-- Finding the pattern of a candidate fails with faults only. -/
theorem confined_candidateRegex (stack : Stack) (c : Candidate) :
    Confined A I (candidateRegex ctx stack c) := by
  cases c with
  | exit =>
    rw [candidateRegex]
    split
    · exact (hA.confined_fault _).map
    · exact confined_pure _
  | rule ref =>
    refine (hA.confined_fault _).bind fun g _ ↦ (hA.confined_fault _).bind fun rule _ ↦ ?_
    split
    · exact (hA.confined_fault _).map
    · exact confined_pure _

/-! ### Applying a match -/

/-- Entering the captures of a match fails with faults only. -/
theorem confined_enterCaptures (s : LineState) (m : Match) (path : ScopePath)
    (grammar : GrammarId) (captures : Captures) :
    Confined A I (enterCaptures line s m path grammar captures) :=
  confined_enterCaptures_of_resolve (hA.confined_resolve m) (fun _ ↦ hA.confined_fault _) s path
    grammar captures

/-- Making the frame of a region fails with faults only. Its end pattern is filled in here and
searched later. -/
theorem confined_regionFrame (s : LineState) (ref : RuleRef) (r : RegionRule) (m : Match) :
    Confined A I (regionFrame ctx line s ref r m) := by
  refine Confined.bind ?_ fun _ _ ↦ ?_
  · rw [exitPattern]
    split
    · refine (hA.confined_fault _).bind fun _ _ ↦ (hA.confined_fault _).bind fun _ _ ↦
        (hA.confined_fault _).bind fun filled _ ↦ ?_
      split
      · exact Confined.map fun memory h ↦ hA.memory.compiled _ h
      · exact confined_pure _
    · exact confined_pure _
  · exact (hA.confined_resolve _ _).bind fun _ _ ↦ (hA.confined_resolve _ _).bind fun _ _ ↦
      (hA.confined_trace _ _).bind fun _ _ ↦ confined_pure _

/-- Applying a match fails with faults only. -/
theorem confined_applyMatch (s : LineState) (m : Match) (c : Candidate) :
    Confined A I (applyMatch ctx line s m c) := by
  cases c with
  | exit =>
    rw [applyMatch, applyExit]
    split
    · split
      · exact (hA.confined_trace _ _).bind fun _ _ ↦ confined_pure _
      · exact (hA.confined_trace _ _).bind fun _ _ ↦ (hA.confined_fault _).bind fun _ _ ↦
          (hA.confined_enterCaptures _ _ _ _ _).bind fun _ _ ↦ confined_pure _
    · exact confined_throw (hA.fault _)
  | rule ref =>
    refine (hA.confined_fault _).bind fun rule _ ↦ ?_
    split
    · rw [applySingle]
      split
      · exact (hA.confined_trace _ _).bind fun _ _ ↦ confined_pure _
      · exact (hA.confined_trace _ _).bind fun _ _ ↦ (hA.confined_resolve _ _).bind fun _ _ ↦
          (hA.confined_enterCaptures _ _ _ _ _).bind fun _ _ ↦ confined_pure _
    · rw [applyRegion]
      split
      · exact (hA.confined_trace _ _).bind fun _ _ ↦ confined_pure _
      · exact (hA.confined_regionFrame _ _ _ _).bind fun _ _ ↦
          (hA.confined_enterCaptures _ _ _ _ _).bind fun _ _ ↦ confined_pure _
    all_goals exact confined_throw (hA.fault _)

theorem confined_discontinue (passed : List Frame) (r : Region) (inside : List Frame)
    (s : LineState) : Confined A I (continueRegions.discontinue ctx passed r inside s) :=
  (hA.confined_trace _ _).bind fun _ _ ↦ confined_pure _

end Admits

/-! ### Steps -/

/-- What is searched in the innermost frame fails in some ways only. -/
def SearchesConfined (A : Failure → Prop) (I : Memory → Prop) (ctx : Context) (line : LineText)
    (s : LineState) : Prop :=
  ∀ (c : Candidate) (regex : Regex), Returns (candidateRegex ctx s.stack c) (some regex) →
    ∀ bound, Confined A I (search ctx line regex ⟨s.position, bound⟩ s.liveAnchors)

namespace Admits

variable (hA : Admits ctx A I)

include hA

/-- Going through the candidates fails with faults, or as one of their searches does. -/
theorem confined_bestOf {s : LineState} (hs : SearchesConfined A I ctx line s) (bound : Nat)
    (best : Option (Match × Candidate)) (cs : List Candidate) :
    Confined A I (bestOf ctx line s bound best cs) := by
  induction cs generalizing best with
  | nil => exact confined_pure _
  | cons c cs ih =>
    refine (hA.confined_candidateRegex _ _).bind fun regex hregex ↦ ?_
    split
    · exact ih best
    · refine (hs c _ hregex.returns bound).bind fun found _ ↦ ?_
      split
      · exact ih best
      · split
        · split
          · exact confined_pure _
          · exact ih _
        · exact ih best

/-- Finding the next match fails with faults, or as a search of the frame does. -/
theorem confined_nextMatch {s : LineState} (hs : SearchesConfined A I ctx line s) (bound : Nat) :
    Confined A I (nextMatch ctx line s bound) := by
  rw [nextMatch]
  split
  · exact confined_pure _
  · refine Confined.bind ?_ fun found _ ↦ ?_
    · rw [findBest]
      split
      · exact confined_pure _
      · exact (hA.confined_orderedCandidates _ _).bind fun _ _ ↦ hA.confined_bestOf hs _ _ _
    · split <;> exact confined_pure _

/-- **A step fails with faults, or as its searches do.** -/
theorem confined_step {s : LineState} (hs : SearchesConfined A I ctx line s.dropPassed)
    (stopDepth : Option Nat) : Confined A I (step ctx line stopDepth s) := by
  refine (hA.confined_nextMatch hs _).bind fun found _ ↦ ?_
  split
  · refine (hA.confined_applyMatch _ _ _).bind fun next _ ↦ ?_
    split <;> exact confined_pure _
  · split
    · exact confined_pure _
    · rw [closeAtBound]
      dsimp only
      split
      · exact confined_pure _
      · split
        · exact confined_pure _
        · split
          · exact (hA.confined_trace _ _).bind fun _ _ ↦ (confined_pure _).bind fun _ _ ↦
              confined_pure _
          · exact (confined_pure _).bind fun _ _ ↦ confined_pure _

end Admits

/-- The computation keeps within some memories and does not run out of fuel. -/
def Finishes (I : Memory → Prop) (x : Tokenizing α) : Prop :=
  Confined (· ≠ .unfinished) I x

/-- Everything but running out of fuel is admitted where only that is excluded. -/
theorem MemoryInvariant.finishes (hI : MemoryInvariant ctx I) :
    Admits ctx (· ≠ .unfinished) I :=
  ⟨fun _ ↦ by simp, hI⟩

/-- A search ends, with a result or with a failure of its own. -/
theorem finishes_search (r : Regex) (range : Span) (live : LiveAnchors) :
    Finishes I (search ctx line r range live) := by
  rw [search]
  split
  · exact confined_pure _
  all_goals exact confined_throw (by simp)

/-- **A step does not run out of fuel.** -/
theorem finishes_step (hI : MemoryInvariant ctx I) (stopDepth : Option Nat) (s : LineState) :
    Finishes I (step ctx line stopDepth s) :=
  hI.finishes.confined_step (fun _ _ _ _ ↦ finishes_search _ _ _) stopDepth

/-! ### Lines -/

/-- The states of a line, and how what is searched in them can fail. -/
structure SearchInvariant (A : Failure → Prop) (I : Memory → Prop) (ctx : Context)
    (line : LineText) (P : LineState → Prop) : Prop where
  states : LineInvariant ctx line P
  searches : ∀ {s : LineState}, P s → SearchesConfined A I ctx line s
  /-- The while patterns of open regions are searched as well. -/
  whileSearches : ∀ {s : LineState} {r : Region} {below : List Frame} {regex : Regex}, P s →
    (.region r :: below) <:+ s.stack.frames → r.exit.regex ctx.registry = .ok regex →
      Confined A I (search ctx line regex ⟨s.position, line.stop⟩ s.liveAnchors)

namespace SearchInvariant

variable {P : LineState → Prop} (hP : SearchInvariant A I ctx line P) (hA : Admits ctx A I)
  (hunfinished : A .unfinished)

include hP hA hunfinished

/-- A scan keeps within some memories and fails in some ways only. -/
theorem runScan_confined (stopDepth : Option Nat) (fuel : Nat) {s : LineState} (hs : P s)
    {memory : Memory} (h : I memory) :
    I (runScan ctx line stopDepth fuel s memory).memory ∧
      ∀ e, (runScan ctx line stopDepth fuel s memory).failure = some e → A e := by
  induction fuel generalizing s memory with
  | zero => exact ⟨h, fun e he ↦ Option.some.inj he ▸ hunfinished⟩
  | succ fuel ih =>
    have hstep := hA.confined_step (hP.searches (hP.states.dropPassed hs)) stopDepth memory h
    rw [runScan]
    cases heq : step ctx line stopDepth s memory with
    | ok next memory' =>
      rw [heq] at hstep
      cases next with
      | goOn s' => exact ih (hP.states.step hs (returns_of_eq heq)) hstep
      | done s' => exact ⟨hstep, fun e he ↦ by cases he⟩
    | error e memory' =>
      rw [heq] at hstep
      exact ⟨hstep.2, fun e' he' ↦ Option.some.inj he' ▸ hstep.1⟩

/-- A scan fails in the ways that its steps do, or runs out of fuel. -/
theorem confined_scan (stopDepth : Option Nat) (fuel : Nat) {s : LineState} (hs : P s) :
    Confined A I (scan ctx line stopDepth fuel s) := by
  intro memory h
  obtain ⟨hmemory, hfailure⟩ := hP.runScan_confined hA hunfinished stopDepth fuel hs h
  rw [scan]
  cases heq : (runScan ctx line stopDepth fuel s memory).failure with
  | none => exact hmemory
  | some e => exact ⟨hfailure e heq, hmemory⟩

/-- A region that goes on fails in the ways that the scan of its captures does. -/
theorem confined_enterContinuation (fuel : Nat) {s : LineState} {passed : List Frame} {r : Region}
    {m : Match} (hs : P s) (hframes : (.region r :: passed) <:+ s.stack.frames)
    (hreported : ctx.engine.ReportsIn line.chars ⟨s.position, line.stop⟩ m)
    (hstart : m.start = s.position) :
    Confined A I (enterContinuation ctx line fuel (.region r :: passed) r m s) := by
  refine (hA.confined_trace _ _).bind fun _ _ ↦ (hA.confined_fault _).bind
    fun rule hrule ↦ (hA.confined_enterCaptures _ _ _ _ _).bind fun e he ↦ ?_
  have hinner : P e.1 :=
    hP.states.entered (hP.states.withFrames hs hframes) ⟨⟨passed, rfl⟩, hreported, hstart⟩
      hrule.returns.eq_ok_of_ofFault (capturesEntered_of_enterCaptures he.returns)
  obtain ⟨inner, entered⟩ := e
  cases entered with
  | false => exact (confined_pure _).bind fun _ _ ↦ confined_pure _
  | true => exact (hP.confined_scan hA hunfinished _ _ hinner).bind fun _ _ ↦ confined_pure _

/-- The regions of earlier lines fail in the ways that their while patterns and the scans of their
captures do. -/
theorem confined_continueRegions (fuel : Nat) {s : LineState} {passed inside : List Frame}
    (hs : P s) (hframes : inside.reverse ++ passed = s.stack.frames) :
    Confined A I (continueRegions ctx line fuel passed inside s) := by
  induction inside generalizing passed s with
  | nil => exact confined_pure _
  | cons f inside ih =>
    obtain ⟨hmove, hsuffix⟩ := next_of_reverse_append_eq hframes
    cases f with
    | captured c => exact ih hs hmove
    | region r =>
      rw [continueRegions]
      split
      · exact ih hs hmove
      · refine (hA.confined_fault _).bind fun regex hregex ↦ ?_
        have hsearch := hP.whileSearches hs hsuffix hregex.returns.eq_ok_of_ofFault
        refine hsearch.bind fun found hfound ↦ ?_
        split
        · split
          · rename_i m hstart
            have hreported := reportsIn_of_search hfound.returns
            refine (hP.confined_enterContinuation hA hunfinished fuel hs hsuffix hreported
              hstart).bind fun s' hs' ↦ ?_
            obtain ⟨hs', hstack⟩ :=
              hP.states.enterContinuation hs hsuffix hreported hstart hs'.returns
            exact ih hs' (by rw [hstack]; exact hmove)
          · exact hA.confined_discontinue _ _ _ _
        · exact hA.confined_discontinue _ _ _ _

/-- **Tokenizing a line fails with faults, for want of fuel, or as its searches do**, and keeps
within some memories however it ends. -/
theorem scanLine_confined (fuel : Nat) {start : LineState} (hs : P start) {memory : Memory}
    (h : I memory) :
    I (Session.scanLine ctx line fuel start memory).memory ∧
      ∀ e, (Session.scanLine ctx line fuel start memory).failure = some e → A e := by
  have hframes : start.stack.frames.reverse.reverse ++ [] = start.stack.frames := by simp
  have hcontinue := hP.confined_continueRegions hA hunfinished fuel hs hframes memory h
  rw [Session.scanLine]
  cases heq : continueRegions ctx line fuel [] start.stack.frames.reverse start memory with
  | ok s memory' =>
    rw [heq] at hcontinue
    have hs' := (hP.states.continueRegions hs hframes (returns_of_eq heq)).1
    obtain ⟨hmemory, hfailure⟩ := hP.runScan_confined hA hunfinished none fuel hs' hcontinue
    dsimp only
    rw [Session.checkEnded]
    split
    · exact ⟨hmemory, fun e he ↦ Option.some.inj he ▸ hA.fault _⟩
    · exact ⟨hmemory, hfailure⟩
  | error e memory' =>
    rw [heq] at hcontinue
    exact ⟨hcontinue.2, fun e' he' ↦ Option.some.inj he' ▸ hcontinue.1⟩

end SearchInvariant

/-! ### Memories -/

/-- If all failures are admitted, all states will do. -/
theorem searchInvariant_true (ctx : Context) (line : LineText) (I : Memory → Prop) :
    SearchInvariant (fun _ ↦ True) I ctx line fun _ ↦ True where
  states := ⟨fun _ _ ↦ True.intro, fun _ ↦ True.intro, fun _ _ ↦ True.intro,
    fun _ _ _ _ ↦ True.intro, fun _ _ _ ↦ True.intro⟩
  searches _ _ _ _ _ := (finishes_search _ _ _).mono fun _ _ ↦ True.intro
  whileSearches _ _ _ := (finishes_search _ _ _).mono fun _ _ ↦ True.intro

/-- A scan keeps within some memories, however it ends. -/
theorem runScan_memory (hI : MemoryInvariant ctx I) (stopDepth : Option Nat) (fuel : Nat)
    (s : LineState) {memory : Memory} (h : I memory) :
    I (runScan ctx line stopDepth fuel s memory).memory :=
  ((searchInvariant_true ctx line I).runScan_confined ⟨fun _ ↦ True.intro, hI⟩ True.intro stopDepth
    fuel True.intro h).1

/-- **Tokenizing a line keeps within some memories**, however it ends. -/
theorem scanLine_memory (hI : MemoryInvariant ctx I) (fuel : Nat) (start : LineState)
    {memory : Memory} (h : I memory) :
    I (Session.scanLine ctx line fuel start memory).memory :=
  ((searchInvariant_true ctx line I).scanLine_confined ⟨fun _ ↦ True.intro, hI⟩ True.intro fuel
    True.intro h).1

end Tokenizing

end ScopeGrammar
