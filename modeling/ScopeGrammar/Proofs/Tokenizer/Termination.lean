import ScopeGrammar.Proofs.Tokenizer.Carried
import ScopeGrammar.Proofs.Tokenizer.Confined
import ScopeGrammar.Proofs.Tokenizer.Potential

/-!
# Scans come to an end

Since the potential of a state gets less with every step, no scan goes on for ever unless it opens
captures inside captures without limit (`exists_capturedCount_gt`). A scan whose states have a
common limit thus comes to its end if it is given enough fuel, and so does a line
(`ScanInvariant.exists_fuel_of_scanLine`):
all of its scans settle, one after the other.

Where no capture has rules of its own, no capture is ever opened, and zero is a limit.
-/

namespace ScopeGrammar

open Tokenizing

variable {ctx : Context} {line : LineText} {limit : Nat}

/-! ### Runs -/

/-- **No scan goes on for ever with a limited number of open captures.** -/
theorem exists_capturedCount_gt (hE : ctx.engine.StaysInRange) {stopDepth : Option Nat}
    {states : ℕ → LineState}
    (h : ∀ n, Returns (step ctx line stopDepth (states n)) (.goOn (states (n + 1)))) (limit : Nat) :
    ∃ n, limit < (states n).stack.capturedCount := by
  by_contra hnone
  have hlimit : ∀ n, (states n).stack.capturedCount ≤ limit :=
    fun n ↦ Nat.le_of_not_lt fun hlt ↦ hnone ⟨n, hlt⟩
  -- otherwise the potential would get less for ever
  obtain ⟨n, hn⟩ := WellFounded.not_rel_apply_succ
    (r := (· < ·)) fun n ↦ (states n).potential ctx.registry.refs limit line
  exact hn (potential_lt_of_step hE (hlimit (n + 1)) (h n))

/-! ### Enough fuel -/

section Settles

variable {α β : Type} {I : Memory → Prop}

/-- A result is a value with a property and a memory, or a failure other than a want of fuel. -/
def IsSettled (I : Memory → Prop) (Q : α → Prop) : EStateM.Result Failure Memory α → Prop
  | .ok a memory => Q a ∧ I memory
  | .error e _ => e ≠ .unfinished

/-- With enough fuel a computation comes to such a result, which more fuel does not change, whatever
is remembered at first. -/
def Settles (I : Memory → Prop) (Q : α → Prop) (x : ℕ → Tokenizing α) : Prop :=
  ∀ memory, I memory →
    ∃ result, IsSettled I Q result ∧ ∃ n, ∀ fuel, n ≤ fuel → x fuel memory = result

theorem settles_of_finishes {Q : α → Prop} {x : Tokenizing α} (hx : Finishes I x)
    (hQ : ∀ a, ReturnsFrom I x a → Q a) : Settles I Q fun _ ↦ x := by
  intro memory hmemory
  have hfinishes := hx memory hmemory
  refine ⟨x memory, ?_, 0, fun _ _ ↦ rfl⟩
  cases heq : x memory with
  | ok a memory' =>
    rw [heq] at hfinishes
    exact ⟨hQ a ⟨memory, memory', hmemory, heq⟩, hfinishes⟩
  | error e memory' =>
    rw [heq] at hfinishes
    exact hfinishes.1

/-- A sequence takes the fuel that its two parts take. -/
theorem Settles.bind {Q : α → Prop} {R : β → Prop} {x : ℕ → Tokenizing α}
    {f : ℕ → α → Tokenizing β} (hx : Settles I Q x)
    (hf : ∀ a, Q a → Settles I R fun fuel ↦ f fuel a) :
    Settles I R fun fuel ↦ x fuel >>= f fuel := by
  intro memory hmemory
  obtain ⟨result, hresult, n, hn⟩ := hx memory hmemory
  cases result with
  | ok a memory' =>
    obtain ⟨result', hresult', k, hk⟩ := hf a hresult.1 memory' hresult.2
    refine ⟨result', hresult', max n k, fun fuel hfuel ↦ ?_⟩
    have hfirst := hn fuel (Nat.le_trans (Nat.le_max_left n k) hfuel)
    exact (bind_eq_of_eq_ok hfirst).trans (hk fuel (Nat.le_trans (Nat.le_max_right n k) hfuel))
  | error e memory' =>
    exact ⟨.error e memory', hresult, n, fun fuel hfuel ↦ bind_eq_of_eq_error (hn fuel hfuel)⟩

end Settles

/-- The property is kept by all that tokenizing a line does with what is remembered. -/
structure ScanInvariant (ctx : Context) (line : LineText) (I : Memory → Prop)
    (P : LineState → Prop) : Prop where
  memory : MemoryInvariant ctx I
  step : ∀ {stopDepth : Option Nat} {s : LineState} {next : Step}, P s →
    ReturnsFrom I (step ctx line stopDepth s) next → P next.state
  withFrames : ∀ {s : LineState} {frames : List Frame}, P s → frames <:+ s.stack.frames →
    P (s.withFrames frames)
  entered : ∀ {s : LineState} {r : Region} {m : Match} {rule : Rule} {e : LineState × Bool}, P s →
    GoesOn ctx line s r m → ctx.registry.rule r.rule = .ok rule →
    CapturesEntered line s m r.contentScopes r.rule.grammar (rule.exitCaptures?.getD {}) e → P e.1
  continued : ∀ {s scanned : LineState} {m : Match}, P s → P scanned →
    ctx.engine.ReportsIn line.chars ⟨s.position, line.stop⟩ m → P (afterContinuation m s scanned)

theorem LineInvariant.scanInvariant {P : LineState → Prop} (hP : LineInvariant ctx line P) :
    ScanInvariant ctx line (fun _ ↦ True) P where
  memory := memoryInvariant_true ctx
  step hs h := hP.step hs h.returns
  withFrames := hP.withFrames
  entered := hP.entered
  continued := hP.continued

namespace ScanInvariant

variable {I : Memory → Prop} {P : LineState → Prop}

/-- **A scan with enough fuel comes to its end**, if what holds of its states limits the number of
open captures. -/
theorem exists_fuel_of_runScan (hP : ScanInvariant ctx line I P) (hE : ctx.engine.StaysInRange)
    (hlimit : ∀ s, P s → s.stack.capturedCount ≤ limit) (stopDepth : Option Nat) {s : LineState}
    (hs : P s) {memory : Memory} (hmemory : I memory) :
    ∃ n, (∀ fuel, n ≤ fuel →
        runScan ctx line stopDepth fuel s memory = runScan ctx line stopDepth n s memory) ∧
      (runScan ctx line stopDepth n s memory).failure ≠ some .unfinished ∧
      P (runScan ctx line stopDepth n s memory).state := by
  -- the induction is on the potential, whose order is well-founded
  induction hμ : s.potential ctx.registry.refs limit line using WellFoundedLT.induction
    generalizing s memory with
  | ind μ ih =>
    have hstep : Finishes I (Tokenizing.step ctx line stopDepth s) :=
      finishes_step hP.memory stopDepth s
    have hfinishes := hstep memory hmemory
    cases hstep : Tokenizing.step ctx line stopDepth s memory with
    | ok next memory' =>
      rw [hstep] at hfinishes
      have hnext : P next.state := hP.step hs ⟨memory, memory', hmemory, hstep⟩
      cases next with
      | goOn s' =>
        have hlt := potential_lt_of_step hE (hlimit s' hnext) (returns_of_eq hstep)
        obtain ⟨n, hn, hresult⟩ := ih _ (hμ ▸ hlt) hnext hfinishes rfl
        -- the fuel of the step itself comes on top of what the scan after it needs
        have hrun : ∀ fuel, runScan ctx line stopDepth (fuel + 1) s memory =
            runScan ctx line stopDepth fuel s' memory' := by
          intro fuel
          rw [runScan, hstep]
        refine ⟨n + 1, fun fuel hfuel ↦ ?_, by rw [hrun]; exact hresult⟩
        obtain ⟨fuel, rfl⟩ := Nat.exists_eq_add_of_le' (Nat.le_trans (Nat.le_add_left 1 n) hfuel)
        rw [hrun, hrun]
        exact hn fuel (Nat.le_of_succ_le_succ hfuel)
      | done s' =>
        have hrun : ∀ fuel,
            runScan ctx line stopDepth (fuel + 1) s memory = ⟨s', memory', none⟩ := by
          intro fuel
          rw [runScan, hstep]
        refine ⟨1, fun fuel hfuel ↦ ?_, by rw [hrun]; exact ⟨by simp, hnext⟩⟩
        obtain ⟨fuel, rfl⟩ := Nat.exists_eq_add_of_le' hfuel
        rw [hrun, hrun]
    | error e memory' =>
      rw [hstep] at hfinishes
      have hrun : ∀ fuel,
          runScan ctx line stopDepth (fuel + 1) s memory = ⟨s, memory', some e⟩ := by
        intro fuel
        rw [runScan, hstep]
      refine ⟨1, fun fuel hfuel ↦ ?_, ?_⟩
      · obtain ⟨fuel, rfl⟩ := Nat.exists_eq_add_of_le' hfuel
        rw [hrun, hrun]
      · rw [hrun]
        exact ⟨fun heq ↦ hfinishes.1 (Option.some.inj heq), hs⟩

theorem settles_scan (hP : ScanInvariant ctx line I P) (hE : ctx.engine.StaysInRange)
    (hlimit : ∀ s, P s → s.stack.capturedCount ≤ limit) {stopDepth : Option Nat} {s : LineState}
    (hs : P s) : Settles I P fun fuel ↦ scan ctx line stopDepth fuel s := by
  intro memory hmemory
  obtain ⟨n, hn, hfailure, hstate⟩ :=
    hP.exists_fuel_of_runScan hE hlimit stopDepth hs hmemory
  have hkept : I (runScan ctx line stopDepth n s memory).memory :=
    runScan_memory hP.memory _ _ _ hmemory
  refine ⟨scan ctx line stopDepth n s memory, ?_, n, fun fuel hfuel ↦ ?_⟩
  · rw [scan]
    cases hreport : (runScan ctx line stopDepth n s memory).failure with
    | none => exact ⟨hstate, hkept⟩
    | some e =>
      rw [hreport] at hfailure
      exact fun heq ↦ hfailure (congrArg some heq)
  · show scan ctx line stopDepth fuel s memory = _
    rw [scan, scan, hn fuel hfuel]

/-- The captures of a region that goes on. -/
theorem settles_enterContinuation (hP : ScanInvariant ctx line I P) (hE : ctx.engine.StaysInRange)
    (hlimit : ∀ s, P s → s.stack.capturedCount ≤ limit) {s : LineState} {passed : List Frame}
    {r : Region} {m : Match} (hs : P s) (hframes : (.region r :: passed) <:+ s.stack.frames)
    (hreported : ctx.engine.ReportsIn line.chars ⟨s.position, line.stop⟩ m)
    (hstart : m.start = s.position) :
    Settles I (fun s' ↦ P s' ∧ s'.stack = s.stack) fun fuel ↦
      enterContinuation ctx line fuel (.region r :: passed) r m s := by
  refine (settles_of_finishes (hP.memory.finishes.confined_trace _ _) fun _ _ ↦ True.intro).bind
    fun _ _ ↦ (settles_of_finishes (hP.memory.finishes.confined_fault _)
      fun rule hrule ↦ hrule.returns.eq_ok_of_ofFault).bind fun rule hrule ↦ ?_
  refine (settles_of_finishes (hP.memory.finishes.confined_enterCaptures _ _ _ _ _) fun e he ↦
    hP.entered (hP.withFrames hs hframes) ⟨⟨passed, rfl⟩, hreported, hstart⟩ hrule
      (capturesEntered_of_enterCaptures he.returns)).bind fun e he ↦ ?_
  obtain ⟨inner, entered⟩ := e
  have hdone : ∀ scanned, P scanned →
      Settles I (fun s' ↦ P s' ∧ s'.stack = s.stack) fun _ ↦ pure (afterContinuation m s scanned) :=
    fun scanned hscanned ↦ settles_of_finishes (confined_pure _) fun s' hs' ↦ by
      rw [hs'.returns.eq_of_pure]
      exact ⟨hP.continued hs hscanned hreported, rfl⟩
  cases entered with
  | false =>
    exact (settles_of_finishes (confined_pure inner) fun s' hs' ↦
      hs'.returns.eq_of_pure ▸ he).bind hdone
  | true => exact (hP.settles_scan hE hlimit he).bind hdone

/-- Going through the open regions. -/
theorem settles_continueRegions (hP : ScanInvariant ctx line I P) (hE : ctx.engine.StaysInRange)
    (hlimit : ∀ s, P s → s.stack.capturedCount ≤ limit) {s : LineState} {passed inside : List Frame}
    (hs : P s) (hframes : inside.reverse ++ passed = s.stack.frames) :
    Settles I P fun fuel ↦ continueRegions ctx line fuel passed inside s := by
  induction inside generalizing passed s with
  | nil =>
    exact settles_of_finishes (confined_pure s) fun s' hs' ↦ hs'.returns.eq_of_pure ▸ hs
  | cons f inside ih =>
    obtain ⟨hmove, hsuffix⟩ := next_of_reverse_append_eq hframes
    cases f with
    | captured c => exact ih hs hmove
    | region r =>
      have hclose : Settles I P fun _ ↦ continueRegions.discontinue ctx passed r inside s := by
        refine settles_of_finishes (hP.memory.finishes.confined_discontinue _ _ _ _) fun s' hs' ↦ ?_
        obtain ⟨_, -, hs'⟩ := hs'.returns.exists_of_bind
        rw [hs'.eq_of_pure]
        exact hP.withFrames hs ((List.suffix_cons _ _).trans hsuffix)
      simp only [continueRegions]
      cases r.kind with
      | beginEnd => exact ih hs hmove
      | beginWhile =>
        refine (settles_of_finishes (hP.memory.finishes.confined_fault _)
          fun _ _ ↦ True.intro).bind fun regex _ ↦ ?_
        refine (settles_of_finishes (Q := fun found ↦ ∀ m, found = some m →
          ctx.engine.ReportsIn line.chars ⟨s.position, line.stop⟩ m) (finishes_search _ _ _)
          fun found hfound m hm ↦ ?_).bind fun found hfound ↦ ?_
        · rw [hm] at hfound
          exact reportsIn_of_search hfound.returns
        · cases found with
          | none => exact hclose
          | some m =>
            dsimp only
            split
            · rename_i hstart
              refine (hP.settles_enterContinuation hE hlimit hs hsuffix (hfound m rfl) hstart).bind
                fun s' hs' ↦ ih hs'.1 ?_
              rw [hs'.2]
              exact hmove
            · exact hclose

/-- **Tokenizing a line with enough fuel comes to an end**, if what holds of its states limits the
number of open captures. -/
theorem exists_fuel_of_scanLine (hP : ScanInvariant ctx line I P) (hE : ctx.engine.StaysInRange)
    (hlimit : ∀ s, P s → s.stack.capturedCount ≤ limit) {start : LineState} (hstart : P start)
    {memory : Memory} (hmemory : I memory) :
    ∃ n, ∀ fuel, n ≤ fuel →
      (Session.scanLine ctx line fuel start memory).failure ≠ some .unfinished := by
  have hsettles : Settles I P fun fuel ↦
      continueRegions ctx line fuel [] start.stack.frames.reverse start :=
    hP.settles_continueRegions hE hlimit hstart (by simp)
  obtain ⟨result, hresult, n, hn⟩ := hsettles memory hmemory
  have hcontinue : ∀ fuel, n ≤ fuel →
      continueRegions ctx line fuel [] start.stack.frames.reverse start memory = result := hn
  cases result with
  | ok s memory' =>
    obtain ⟨k, hk, hfailure, -⟩ := hP.exists_fuel_of_runScan hE hlimit none hresult.1
      hresult.2
    refine ⟨max n k, fun fuel hfuel ↦ ?_⟩
    rw [Session.scanLine, hcontinue fuel (Nat.le_trans (Nat.le_max_left n k) hfuel)]
    show (Session.checkEnded _).failure ≠ _
    rw [Session.checkEnded, hk fuel (Nat.le_trans (Nat.le_max_right n k) hfuel)]
    split
    · simp
    · exact hfailure
  | error e memory' =>
    refine ⟨n, fun fuel hfuel ↦ ?_⟩
    rw [Session.scanLine, hcontinue fuel hfuel]
    exact fun heq ↦ hresult (Option.some.inj heq)

end ScanInvariant

/-! ### Without rules for captures -/

/-- What a rule does with captures. -/
def Rule.captures (r : Rule) : List Captures :=
  match r.body with
  | .single r => [r.captures]
  | .region r => [r.beginCaptures, r.exitCaptures]
  | .includes _ | .group _ => []

/-- No captured text is tokenized by rules of its own. -/
def Registry.HasNoCapturePatterns (r : Registry) : Prop :=
  ∀ ref rule, r.rule ref = .ok rule → ∀ c ∈ rule.captures, c.hasPatterns = false

namespace Registry.HasNoCapturePatterns

theorem exitCaptures (h : ctx.registry.HasNoCapturePatterns) {ref : RuleRef} {rule : Rule}
    (hrule : ctx.registry.rule ref = .ok rule) :
    (rule.exitCaptures?.getD {}).hasPatterns = false := by
  have hall := h ref rule hrule
  rw [Rule.exitCaptures?]
  rw [Rule.captures] at hall
  split
  · rename_i r hbody
    rw [hbody] at hall
    exact hall r.exitCaptures (by simp)
  all_goals rfl

theorem of_site (h : ctx.registry.HasNoCapturePatterns) {T : Stack → RuleRef → Prop}
    {G : Stack → Frame → Prop} {s : Stack} {path : ScopePath} {grammar : GrammarId}
    {captures : Captures} (hsite : CaptureSite ctx T G s path grammar captures) :
    captures.hasPatterns = false := by
  cases hsite with
  | ended _ r rule _ hrule => exact h.exitCaptures hrule
  | matched _ ref rule r names _ hrule hbody =>
    have hall := h ref rule hrule
    rw [Rule.captures, hbody] at hall
    exact hall r.captures (by simp)
  | began s region rule r _ hrule hbody =>
    have hall := h region.rule rule hrule
    rw [Rule.captures, hbody] at hall
    exact hall r.beginCaptures (by simp)
  | continued s r rule _ hrule => exact h.exitCaptures hrule

/-- No capture is ever opened. -/
theorem frameInvariant (h : ctx.registry.HasNoCapturePatterns) :
    FrameInvariant ctx line (fun _ _ ↦ True) fun _ f ↦ f.isCaptured = false where
  pending hc _ := hc
  child hc _ := hc
  began _ _ _ _ _ _ := rfl
  entered _ hsite _ _ hp _ := absurd (h.of_site hsite) (by simp [hp])

end Registry.HasNoCapturePatterns

theorem Registry.hasNoCapturePatterns_parens : parens.HasNoCapturePatterns := by
  intro ref rule hrule
  obtain ⟨g, hg, hrule⟩ := rule_eq_ok_iff.1 hrule
  obtain rfl : g = .parens := by simpa [parens] using Array.mem_of_getElem? hg
  rcases (by simpa [Grammar.parens] using Array.mem_of_getElem? hrule) with rfl | rfl
  · simp [Rule.captures]
  · simp [Rule.captures, Captures.hasPatterns]

/-- Tokenizing a line with enough fuel comes to an end if no capture has rules of its own. -/
theorem exists_fuel_of_scanLine (hE : ctx.engine.StaysInRange)
    (hr : ctx.registry.HasNoCapturePatterns) {start : LineState}
    (hstart : start.stack.Layered fun _ f ↦ f.isCaptured = false) (memory : Memory) :
    ∃ n, ∀ fuel, n ≤ fuel →
      (Session.scanLine ctx line fuel start memory).failure ≠ some .unfinished := by
  -- no capture is ever open, so that zero is a limit
  have hlimit : ∀ s : LineState, (s.stack.Layered fun _ f ↦ f.isCaptured = false) →
      s.stack.capturedCount ≤ 0 := fun s hs ↦ Nat.le_of_eq (Stack.capturedCount_eq_zero hs)
  exact hr.frameInvariant.lineInvariant.scanInvariant.exists_fuel_of_scanLine hE hlimit hstart
    True.intro

/-! ### Lines of a document -/

/-- What one line hands over to the next holds no captures. -/
theorem Stack.IsCarried.layered_region {r : Registry} {base : GrammarId} {s : Stack}
    (h : s.IsCarried r base) : s.Layered fun _ f ↦ f.isCaptured = false :=
  h.layered_of_region fun _ _ _ ↦ rfl

namespace Session

variable {E : Engine} {r : Registry} {base : GrammarId} {s : Session}

/-- **Scans come to an end.** Whatever state the loop of a scan is in, of a line or of the captures
of a region that goes on, it does not go on for ever unless the number of open captures grows beyond
all limits. If no capture has rules of its own, a line is tokenized with any fuel from some amount
on. -/
theorem scans_terminate (hE : E.StaysInRange) (hs : Reachable E r base s) (patterns : PatternCache)
    (line : String) :
    (∀ (stopDepth : Option Nat) (limit : Nat), ¬ ∃ states : ℕ → LineState,
      (∀ n, Returns (step (s.context (r.withPatterns patterns)) (.ofLine line) stopDepth (states n))
        (.goOn (states (n + 1)))) ∧ ∀ n, (states n).stack.capturedCount ≤ limit) ∧
    (r.HasNoCapturePatterns → ∃ n, ∀ fuel, n ≤ fuel →
      (s.tokenizeLine (r.withPatterns patterns) line fuel).result ≠ .error .unfinished) := by
  have hE' : (s.context (r.withPatterns patterns)).engine.StaysInRange :=
    (hs.engine_context _).symm ▸ hE
  refine ⟨fun stopDepth limit ⟨states, hsteps, hcount⟩ ↦ ?_, fun hr ↦ ?_⟩
  · obtain ⟨n, hn⟩ := exists_capturedCount_gt hE' hsteps limit
    exact absurd (hcount n) (Nat.not_le_of_lt hn)
  · have hr' : (s.context (r.withPatterns patterns)).registry.HasNoCapturePatterns := hr
    have hstart : (LineState.start s.stack s.firstLine (.ofLine line)).stack.Layered
        fun _ f ↦ f.isCaptured = false := hs.isCarried.layered_region
    obtain ⟨n, hn⟩ := exists_fuel_of_scanLine hE' hr' hstart
      { candidates := s.candidates, patterns := patterns }
    refine ⟨n, fun fuel hfuel heq ↦ hn fuel hfuel ?_⟩
    exact (tokenizeLine_eq_error_iff hs.lost_eq).1 heq

/-- Every line of a document with parentheses comes to an end. -/
theorem scans_terminate_parens :
    ∃ n, ∀ fuel, n ≤ fuel →
      ((parens .literal).tokenizeLine (Registry.parens.withPatterns {}) "a(" fuel).result ≠
        .error .unfinished :=
  (scans_terminate Engine.literal_staysInRange (parens_reachable .literal) {} "a(").2
    Registry.hasNoCapturePatterns_parens

end Session

end ScopeGrammar
