import ScopeGrammar.Proofs.Tokenizer.Transition

/-!
# Invariants of a line

`LineInvariant` lists what a property of line states has to keep through: forgetting frames and
passed captures, the transitions of a scan, and the captures of a region that goes on. From that
alone it holds at every place that tokenizing a line comes to (`runScan_state`, `continueRegions`,
`scanLine_state`). The two inductions, over the steps of a scan and over the open regions, are done
here and nowhere else.
-/

namespace ScopeGrammar

open Tokenizing

variable {ctx : Context} {line : LineText} {P : LineState → Prop}

/-- The stack with some of its frames. -/
def Stack.withFrames (s : Stack) (frames : List Frame) : Stack :=
  { s with frames := frames }

/-- The state with some of its frames. -/
def LineState.withFrames (s : LineState) (frames : List Frame) : LineState :=
  { s with stack := s.stack.withFrames frames }

/-- A match with which the innermost region of a state goes on in the line. -/
structure GoesOn (ctx : Context) (line : LineText) (s : LineState) (r : Region) (m : Match) :
    Prop where
  innermost : ∃ below, s.stack.frames = .region r :: below
  reported : ctx.engine.ReportsIn line.chars ⟨s.position, line.stop⟩ m
  start_eq : m.start = s.position

/-- The property is kept by all that tokenizing a line does. -/
structure LineInvariant (ctx : Context) (line : LineText) (P : LineState → Prop) : Prop where
  /-- The outer frames are looked at alone. -/
  withFrames : ∀ {s : LineState} {frames : List Frame}, P s → frames <:+ s.stack.frames →
    P (s.withFrames frames)
  /-- Passed captures are forgotten. -/
  dropPassed : ∀ {s : LineState}, P s → P s.dropPassed
  /-- A scan makes a step. -/
  transition : ∀ {stopDepth : Option Nat} {s : LineState} {next : Step}, P s →
    Transition ctx line stopDepth s next → P next.state
  /-- The captures of a region that goes on are entered. -/
  entered : ∀ {s : LineState} {r : Region} {m : Match} {rule : Rule} {e : LineState × Bool}, P s →
    GoesOn ctx line s r m → ctx.registry.rule r.rule = .ok rule →
    CapturesEntered line s m r.contentScopes r.rule.grammar (rule.exitCaptures?.getD {}) e → P e.1
  /-- The captures of a region that goes on are done. -/
  continued : ∀ {s scanned : LineState} {m : Match}, P s → P scanned →
    ctx.engine.ReportsIn line.chars ⟨s.position, line.stop⟩ m → P (afterContinuation m s scanned)

/-- The frames of a stack are gone through from the outside: the first of those inside of the ones
that were passed is passed next, and it is then the innermost of some outer frames. -/
theorem next_of_reverse_append_eq {f : Frame} {passed inside frames : List Frame}
    (hframes : (f :: inside).reverse ++ passed = frames) :
    inside.reverse ++ f :: passed = frames ∧ (f :: passed) <:+ frames := by
  have hmove : inside.reverse ++ f :: passed = frames := by
    rw [← hframes]
    simp
  exact ⟨hmove, inside.reverse, hmove⟩

namespace LineInvariant

variable {stopDepth : Option Nat} {fuel : Nat}

theorem step (hP : LineInvariant ctx line P) {s : LineState} {next : Step} (hs : P s)
    (h : Returns (Tokenizing.step ctx line stopDepth s) next) : P next.state :=
  hP.transition (hP.dropPassed hs) (transition_of_step h)

/-! ### Scans -/

/-- **A scan keeps the property**, however it ends. -/
theorem runScan_state (hP : LineInvariant ctx line P) {s : LineState} (hs : P s)
    (memory : Memory) : P (runScan ctx line stopDepth fuel s memory).state := by
  induction fuel generalizing s memory with
  | zero => exact hs
  | succ fuel ih =>
    rw [runScan]
    split
    · rename_i s' memory' heq
      exact ih (hP.step hs (returns_of_eq heq)) memory'
    · rename_i s' memory' heq
      exact hP.step hs (returns_of_eq heq)
    · exact hs

/-- A scan that comes to its end does so by a last step, from a state with the property. -/
theorem exists_last_step (hP : LineInvariant ctx line P) {s : LineState} (hs : P s)
    {memory : Memory} (h : (runScan ctx line stopDepth fuel s memory).failure = none) :
    ∃ s', P s' ∧ Transition ctx line stopDepth s'
      (.done (runScan ctx line stopDepth fuel s memory).state) := by
  induction fuel generalizing s memory with
  | zero => cases h
  | succ fuel ih =>
    rw [runScan] at h ⊢
    cases hstep : Tokenizing.step ctx line stopDepth s memory with
    | ok next memory' =>
      rw [hstep] at h
      cases next with
      | goOn s' => exact ih (hP.step hs (returns_of_eq hstep)) h
      | done s' =>
        exact ⟨s.dropPassed, hP.dropPassed hs, transition_of_step (returns_of_eq hstep)⟩
    | error failure memory' =>
      rw [hstep] at h
      cases h

theorem scan (hP : LineInvariant ctx line P) {s s' : LineState} (hs : P s)
    (h : Returns (Tokenizing.scan ctx line stopDepth fuel s) s') : P s' := by
  obtain ⟨memory, memory', h⟩ := h
  rw [Tokenizing.scan] at h
  split at h
  · cases h
    exact hP.runScan_state hs memory
  · cases h

/-! ### Regions that go on -/

theorem enterContinuation (hP : LineInvariant ctx line P) {s s' : LineState} {passed : List Frame}
    {r : Region} {m : Match} (hs : P s) (hframes : (.region r :: passed) <:+ s.stack.frames)
    (hreported : ctx.engine.ReportsIn line.chars ⟨s.position, line.stop⟩ m)
    (hstart : m.start = s.position)
    (h : Returns (Tokenizing.enterContinuation ctx line fuel (.region r :: passed) r m s) s') :
    P s' ∧ s'.stack = s.stack := by
  obtain ⟨_, -, h⟩ := h.exists_of_bind
  obtain ⟨rule, hrule, h⟩ := h.exists_of_bind
  obtain ⟨⟨inner, entered⟩, he, h⟩ := h.exists_of_bind
  have hinner : P inner :=
    hP.entered (hP.withFrames hs hframes) ⟨⟨passed, rfl⟩, hreported, hstart⟩
      hrule.eq_ok_of_ofFault (capturesEntered_of_enterCaptures he)
  -- captures without rules of their own take no scan
  have hscanned : ∃ scanned, P scanned ∧ s' = afterContinuation m s scanned := by
    dsimp only at h
    split at h
    · obtain ⟨scanned, hscanned, h⟩ := h.exists_of_bind
      exact ⟨scanned, hP.scan hinner hscanned, h.eq_of_pure⟩
    · obtain ⟨scanned, hscanned, h⟩ := h.exists_of_bind
      obtain rfl := hscanned.eq_of_pure
      exact ⟨scanned, hinner, h.eq_of_pure⟩
  obtain ⟨scanned, hscanned, rfl⟩ := hscanned
  exact ⟨hP.continued hs hscanned hreported, rfl⟩

/-- A region that does not go on is dropped with all frames inside of it. -/
theorem discontinue (hP : LineInvariant ctx line P) {s s' : LineState} {r : Region}
    {passed inside : List Frame} (hs : P s) (hsuffix : passed <:+ s.stack.frames)
    (h : Returns (Tokenizing.continueRegions.discontinue ctx passed r inside s) s') :
    P s' ∧ s'.stack = { s.stack with frames := s'.stack.frames } ∧
      s'.stack.frames <:+ s.stack.frames := by
  obtain ⟨_, -, h⟩ := h.exists_of_bind
  rw [h.eq_of_pure]
  exact ⟨hP.withFrames hs hsuffix, rfl, hsuffix⟩

/-- **Going through the open regions keeps the property.** The frames that are left are outer ones
of those that there were. -/
theorem continueRegions (hP : LineInvariant ctx line P) {s s' : LineState}
    {passed inside : List Frame} (hs : P s) (hframes : inside.reverse ++ passed = s.stack.frames)
    (h : Returns (Tokenizing.continueRegions ctx line fuel passed inside s) s') :
    P s' ∧ s'.stack = { s.stack with frames := s'.stack.frames } ∧
      s'.stack.frames <:+ s.stack.frames := by
  -- all along the frames that were passed and those inside of them make up the stack
  induction inside generalizing passed s with
  | nil =>
    rw [Tokenizing.continueRegions] at h
    rw [h.eq_of_pure]
    exact ⟨hs, rfl, List.suffix_rfl⟩
  | cons f inside ih =>
    obtain ⟨hmove, hsuffix⟩ := next_of_reverse_append_eq hframes
    cases f with
    | captured c =>
      rw [Tokenizing.continueRegions] at h
      exact ih hs hmove h
    | region r =>
      have hpassed : passed <:+ s.stack.frames := (List.suffix_cons _ _).trans hsuffix
      rw [Tokenizing.continueRegions] at h
      split at h
      · exact ih hs hmove h
      · obtain ⟨regex, -, h⟩ := h.exists_of_bind
        obtain ⟨found, hfound, h⟩ := h.exists_of_bind
        split at h
        · rename_i m
          split at h
          · rename_i hstart
            obtain ⟨s₁, hs₁, h⟩ := h.exists_of_bind
            obtain ⟨hs₁, hstack⟩ :=
              hP.enterContinuation hs hsuffix (reportsIn_of_search hfound) hstart hs₁
            rw [← hstack]
            exact ih hs₁ (by rw [hstack]; exact hmove) h
          · exact hP.discontinue hs hpassed h
        · exact hP.discontinue hs hpassed h

/-! ### Lines -/

/-- **Tokenizing a line keeps the property**, however it ends. -/
theorem scanLine_state (hP : LineInvariant ctx line P) {start : LineState} (hs : P start)
    (memory : Memory) : P (Session.scanLine ctx line fuel start memory).state := by
  rw [Session.scanLine]
  split
  · rename_i s memory' heq
    have hs' := (hP.continueRegions hs (by simp) (returns_of_eq heq)).1
    rw [Session.checkEnded]
    split
    · exact hP.runScan_state hs' memory'
    · exact hP.runScan_state hs' memory'
  · exact hs

/-- A line that is tokenized to its end is so by the last step of a scan. -/
theorem exists_last_step_of_scanLine (hP : LineInvariant ctx line P) {start : LineState}
    (hs : P start) {memory : Memory}
    (h : (Session.scanLine ctx line fuel start memory).failure = none) :
    ∃ s, P s ∧ Transition ctx line none s
      (.done (Session.scanLine ctx line fuel start memory).state) := by
  rw [Session.scanLine] at h ⊢
  cases hcontinue : Tokenizing.continueRegions ctx line fuel [] start.stack.frames.reverse start
      memory with
  | ok s memory' =>
    have hs' := (hP.continueRegions hs (by simp) (returns_of_eq hcontinue)).1
    simp only [hcontinue, Session.checkEnded] at h ⊢
    split at h
    · cases h
    · rename_i hended
      rw [if_neg hended]
      exact hP.exists_last_step hs' h
  | error failure memory' =>
    rw [hcontinue] at h
    cases h

end LineInvariant

end ScopeGrammar
