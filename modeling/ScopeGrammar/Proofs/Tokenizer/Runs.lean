import Mathlib.Logic.Relation
import ScopeGrammar.Proofs.Tokenizer.Invariant

/-!
# Runs of a line

A line is gone through in stages: first the regions that are open at its start, from the outermost
one on, where the captures of a while pattern can take a scan of their own, and then the rest of it,
in one scan. `Advances` is one move of that, with what happens in it, and `Visits` are the stages
and states that the moves lead to, with all that happened on the way.

The moves are those of the program: a step of a scan that goes on is a move (`StepsTo.of_step`),
moves lead through a scan (`MovesTo.exists_of_scan`) and through the open regions
(`MovesTo.of_continueRegions`), and so the states of a line are visited. What is remembered is left
out, as in `Returns`.
-/

namespace ScopeGrammar

open Tokenizing

/-! ### Moves -/

/-- What is being done in a line. -/
inductive Stage where
  /-- The regions that were open at its start are gone through. Those passed are listed innermost
  first, those inside of them outermost first. -/
  | regions (passed inside : List Frame)
  /-- The captures of the match with which a region goes on are scanned. The state is the one that
  the match was found in. -/
  | captures (passed : List Frame) (r : Region) (inside : List Frame) (m : Match)
      (before : LineState)
  /-- The rest of the line is scanned. -/
  | rest

/-- The stage is a scan that stops at a depth, or at none. -/
inductive Stage.Scans : Stage → Option Nat → Prop
  | captures (passed : List Frame) (r : Region) (inside : List Frame) (m : Match)
      (before : LineState) : Scans (.captures passed r inside m before) (some (passed.length + 2))
  | rest : Scans .rest none

/-- What happens in a move. -/
inductive Happening where
  /-- A region is passed that does not have to match in the line, or all regions are. -/
  | passed
  /-- A region does not go on, and is closed with all that it holds. -/
  | discontinued
  /-- A region goes on, and a frame is opened for the captures of the match. -/
  | entered
  /-- A region goes on with a match, of which the captures are done. -/
  | continued (m : Match)
  /-- A match is applied. -/
  | applied (m : Match) (c : Candidate)
  /-- The next capture is opened. -/
  | opened
  /-- A frame is closed at its bound. -/
  | closed (f : Frame)

/-- A step of a scan that goes on, with what happens in it. -/
inductive StepsTo (ctx : Context) (line : LineText) (stopDepth : Option Nat) (s : LineState) :
    Happening → LineState → Prop
  /-- A match is found and applied. -/
  | applied (s' : LineState) (m : Match) (c : Candidate)
      (hfound : Returns (nextMatch ctx line s.dropPassed (s.dropPassed.limit line)) (some (m, c)))
      (happlied :
        Returns (applyMatch ctx line (s.dropPassed.extendContent m.start) m c) (some s')) :
      StepsTo ctx line stopDepth s (.applied m c) s'
  /-- There is no match, and the next capture is opened. -/
  | opened (t : CaptureTree CapturedScopes)
      (hfound : Returns (nextMatch ctx line s.dropPassed (s.dropPassed.limit line)) none)
      (ht : s.dropPassed.nextCapture? = some t) :
      StepsTo ctx line stopDepth s .opened (s.dropPassed.openCapture t)
  /-- There is neither a match nor a capture, and the innermost frame is closed at its bound. -/
  | closed (s' : LineState) (f : Frame) (below : List Frame)
      (hfound : Returns (nextMatch ctx line s.dropPassed (s.dropPassed.limit line)) none)
      (hnext : s.dropPassed.nextCapture? = none) (hf : s.dropPassed.stack.frames = f :: below)
      (hclosed : Returns (closeAtBound ctx stopDepth (s.dropPassed.limit line) s.dropPassed)
        (.goOn s')) :
      StepsTo ctx line stopDepth s (.closed f) s'

/-- The while pattern of a region is searched at the position of a state. -/
def Searches (ctx : Context) (line : LineText) (s : LineState) (r : Region)
    (found : Option Match) : Prop :=
  ∃ regex, r.exit.regex ctx.registry = .ok regex ∧
    Returns (search ctx line regex ⟨s.position, line.stop⟩ s.liveAnchors) found

theorem position_afterContinuation (m : Match) (before scanned : LineState) :
    (afterContinuation m before scanned).position =
      if before.position < m.stop then max scanned.position m.stop else scanned.position := by
  simp [afterContinuation]

/-- The captures of a match with which a region goes on are entered. -/
def EntersContinuation (ctx : Context) (line : LineText) (s : LineState) (passed : List Frame)
    (r : Region) (m : Match) (e : LineState × Bool) : Prop :=
  ∃ rule, ctx.registry.rule r.rule = .ok rule ∧
    Returns (enterCaptures line (s.withFrames (.region r :: passed)) m r.contentScopes
      r.rule.grammar (rule.exitCaptures?.getD {})) e

/-- A move of a line. -/
inductive Advances (ctx : Context) (line : LineText) :
    Stage → LineState → Happening → Stage → LineState → Prop
  /-- A region without a while pattern is passed. -/
  | passed (passed : List Frame) (f : Frame) (inside : List Frame) (s : LineState)
      (hf : f.isBeginWhile = false) :
      Advances ctx line (.regions passed (f :: inside)) s .passed (.regions (f :: passed) inside) s
  /-- All regions are passed. -/
  | passedAll (passed : List Frame) (s : LineState) :
      Advances ctx line (.regions passed []) s .passed .rest s
  /-- A region does not go on. -/
  | discontinued (passed : List Frame) (r : Region) (inside : List Frame) (s : LineState)
      (found : Option Match) (hr : r.kind = .beginWhile) (hsearch : Searches ctx line s r found)
      (hm : ∀ m, found = some m → m.start ≠ s.position) :
      Advances ctx line (.regions passed (.region r :: inside)) s .discontinued .rest
        (s.withFrames passed)
  /-- A region goes on, and its captures need no frame. -/
  | continued (passed : List Frame) (r : Region) (inside : List Frame) (s inner : LineState)
      (m : Match) (hr : r.kind = .beginWhile) (hsearch : Searches ctx line s r (some m))
      (hm : m.start = s.position) (he : EntersContinuation ctx line s passed r m (inner, false)) :
      Advances ctx line (.regions passed (.region r :: inside)) s (.continued m)
        (.regions (.region r :: passed) inside) (afterContinuation m s inner)
  /-- A region goes on, and a frame is opened for its captures. -/
  | entered (passed : List Frame) (r : Region) (inside : List Frame) (s inner : LineState)
      (m : Match) (hr : r.kind = .beginWhile) (hsearch : Searches ctx line s r (some m))
      (hm : m.start = s.position) (he : EntersContinuation ctx line s passed r m (inner, true)) :
      Advances ctx line (.regions passed (.region r :: inside)) s .entered
        (.captures passed r inside m s) inner
  /-- The scan of its captures comes to its end. -/
  | left (passed : List Frame) (r : Region) (inside : List Frame) (s before scanned : LineState)
      (m : Match) (hstep : Returns (step ctx line (some (passed.length + 2)) s) (.done scanned)) :
      Advances ctx line (.captures passed r inside m before) s (.continued m)
        (.regions (.region r :: passed) inside) (afterContinuation m before scanned)
  /-- A scan makes a step. -/
  | scanned (stage : Stage) (stopDepth : Option Nat) (s s' : LineState) (h : Happening)
      (hstage : stage.Scans stopDepth) (hstep : StepsTo ctx line stopDepth s h s') :
      Advances ctx line stage s h stage s'

/-- A move, whatever happens in it. -/
def Moves (ctx : Context) (line : LineText) (a b : Stage × LineState) : Prop :=
  ∃ h, Advances ctx line a.1 a.2 h b.1 b.2

/-- Moves lead from one stage and state to another. -/
abbrev MovesTo (ctx : Context) (line : LineText) :
    Stage × LineState → Stage × LineState → Prop :=
  Relation.ReflTransGen (Moves ctx line)

/-- The stages and states that a line comes to, with all that happened on the way, the last thing
first. -/
inductive Visits (ctx : Context) (line : LineText) (start : LineState) :
    List Happening → Stage → LineState → Prop
  | start : Visits ctx line start [] (.regions [] start.stack.frames.reverse) start
  | move {happened : List Happening} {stage stage' : Stage} {s s' : LineState} {h : Happening}
      (hs : Visits ctx line start happened stage s)
      (hmove : Advances ctx line stage s h stage' s') :
      Visits ctx line start (h :: happened) stage' s'

variable {ctx : Context} {line : LineText} {start s s' : LineState} {stage stage' : Stage}
  {happened : List Happening} {h hap : Happening} {stopDepth : Option Nat}

/-! ### The program makes these moves -/

/-- **A step of a scan that goes on is one of these.** -/
theorem StepsTo.of_step (h : Returns (step ctx line stopDepth s) (.goOn s')) :
    ∃ h, StepsTo ctx line stopDepth s h s' := by
  rw [step] at h
  obtain ⟨found, hfound, h⟩ := h.exists_of_bind
  split at h
  · rename_i m c
    obtain ⟨next, happlied, h⟩ := h.exists_of_bind
    split at h
    · obtain rfl := Step.goOn.inj h.eq_of_pure
      exact ⟨_, .applied _ m c hfound happlied⟩
    · cases h.eq_of_pure
  · split at h
    · rename_i t ht
      obtain rfl := Step.goOn.inj h.eq_of_pure
      exact ⟨_, .opened t hfound ht⟩
    · rename_i hnext
      cases hf : s.dropPassed.stack.frames with
      | nil =>
        rw [closeAtBound] at h
        simp only [LineState.extendContent, LineState.extend, hf] at h
        cases h.eq_of_pure
      | cons f below => exact ⟨_, .closed s' f below hfound hnext hf h⟩

theorem StepsTo.transition (hstep : StepsTo ctx line stopDepth s h s') :
    Transition ctx line stopDepth s.dropPassed (.goOn s') := by
  cases hstep with
  | applied _ m c hfound happlied =>
    exact .applied m c _ (selected_of_nextMatch hfound) (applied_of_applyMatch happlied)
  | opened t _ ht => exact .openedCapture t ht
  | closed _ f below _ hnext _ hclosed => exact transition_of_closeAtBound hnext hclosed

theorem Advances.moves (h : Advances ctx line stage s hap stage' s') :
    MovesTo ctx line (stage, s) (stage', s') :=
  .single ⟨hap, h⟩

namespace MovesTo

/-- A scan that goes on moves from state to state. -/
theorem of_step (hstage : stage.Scans stopDepth)
    (hstep : Returns (step ctx line stopDepth s) (.goOn s')) :
    MovesTo ctx line (stage, s) (stage, s') := by
  obtain ⟨h, hstep⟩ := StepsTo.of_step hstep
  exact (Advances.scanned stage stopDepth s s' h hstage hstep).moves

/-- **A scan moves from state to state**, up to the step that ends it. -/
theorem exists_of_runScan (hstage : stage.Scans stopDepth) (fuel : Nat) (s : LineState)
    (memory : Memory) :
    ∃ last, MovesTo ctx line (stage, s) (stage, last) ∧
      ((runScan ctx line stopDepth fuel s memory).failure = none →
        Returns (step ctx line stopDepth last)
          (.done (runScan ctx line stopDepth fuel s memory).state)) ∧
      ((runScan ctx line stopDepth fuel s memory).failure ≠ none →
        (runScan ctx line stopDepth fuel s memory).state = last) := by
  induction fuel generalizing s memory with
  | zero => exact ⟨s, .refl, by simp [runScan], fun _ ↦ rfl⟩
  | succ fuel ih =>
    rw [runScan]
    split
    · rename_i s' memory' heq
      obtain ⟨last, hlast, hend⟩ := ih s' memory'
      exact ⟨last, (of_step hstage (returns_of_eq heq)).trans hlast, hend⟩
    · rename_i s' memory' heq
      exact ⟨s, .refl, fun _ ↦ returns_of_eq heq, by simp⟩
    · exact ⟨s, .refl, by simp, fun _ ↦ rfl⟩

theorem exists_of_scan {fuel : Nat} (hstage : stage.Scans stopDepth)
    (h : Returns (scan ctx line stopDepth fuel s) s') :
    ∃ last, MovesTo ctx line (stage, s) (stage, last) ∧
      Returns (step ctx line stopDepth last) (.done s') := by
  obtain ⟨memory, memory', h⟩ := h
  obtain ⟨last, hlast, hdone, -⟩ : ∃ last, MovesTo ctx line (stage, s) (stage, last) ∧ _ ∧ _ :=
    exists_of_runScan hstage fuel s memory
  rw [scan] at h
  split at h
  · rename_i hnone
    obtain ⟨rfl, -⟩ := EStateM.Result.ok.inj h
    exact ⟨last, hlast, hdone hnone⟩
  · cases h

variable {fuel : Nat} {passed inside : List Frame} {r : Region} {m : Match}

/-- The captures of a region that goes on lead to what is inside of the region. -/
theorem of_enterContinuation (hr : r.kind = .beginWhile) (hsearch : Searches ctx line s r (some m))
    (hm : m.start = s.position)
    (h : Returns (enterContinuation ctx line fuel (.region r :: passed) r m s) s') :
    MovesTo ctx line (.regions passed (.region r :: inside), s)
      (.regions (.region r :: passed) inside, s') := by
  obtain ⟨_, -, h⟩ := h.exists_of_bind
  obtain ⟨rule, hrule, h⟩ := h.exists_of_bind
  obtain ⟨⟨inner, entered⟩, he, h⟩ := h.exists_of_bind
  have he : EntersContinuation ctx line s passed r m (inner, entered) :=
    ⟨rule, hrule.eq_ok_of_ofFault, he⟩
  dsimp only at h
  split at h
  · rename_i hentered
    obtain rfl : entered = true := hentered
    obtain ⟨scanned, hscanned, h⟩ := h.exists_of_bind
    rw [h.eq_of_pure]
    obtain ⟨last, hlast, hdone⟩ := exists_of_scan (.captures passed r inside m s) hscanned
    exact ((Advances.entered passed r inside s inner m hr hsearch hm he).moves.trans hlast).trans
      (Advances.left passed r inside last s _ m hdone).moves
  · rename_i hentered
    obtain rfl : entered = false := Bool.eq_false_iff.2 hentered
    obtain ⟨scanned, hscanned, h⟩ := h.exists_of_bind
    rw [h.eq_of_pure, hscanned.eq_of_pure]
    exact (Advances.continued passed r inside s inner m hr hsearch hm he).moves

/-- **Going through the open regions leads to the rest of the line.** -/
theorem of_continueRegions (h : Returns (continueRegions ctx line fuel passed inside s) s') :
    MovesTo ctx line (.regions passed inside, s) (.rest, s') := by
  induction inside generalizing passed s with
  | nil =>
    rw [continueRegions] at h
    rw [h.eq_of_pure]
    exact (Advances.passedAll passed s).moves
  | cons f inside ih =>
    cases f with
    | captured c =>
      rw [continueRegions] at h
      exact (Advances.passed passed _ inside s rfl).moves.trans (ih h)
    | region r =>
      rw [continueRegions] at h
      split at h
      · rename_i hr
        exact (Advances.passed passed _ inside s (by simp [Frame.isBeginWhile, hr])).moves.trans
          (ih h)
      · rename_i hr
        obtain ⟨regex, hregex, h⟩ := h.exists_of_bind
        obtain ⟨found, hfound, h⟩ := h.exists_of_bind
        have hsearch : Searches ctx line s r found := ⟨regex, hregex.eq_ok_of_ofFault, hfound⟩
        -- without a match at the position the region is closed
        have hclose : (∀ m, found = some m → m.start ≠ s.position) →
            Returns (continueRegions.discontinue ctx passed r inside s) s' →
              MovesTo ctx line (.regions passed (.region r :: inside), s) (.rest, s') := by
          intro hm h
          obtain ⟨_, -, h⟩ := h.exists_of_bind
          rw [h.eq_of_pure]
          exact (Advances.discontinued passed r inside s found hr hsearch hm).moves
        split at h
        · rename_i m
          split at h
          · rename_i hm
            obtain ⟨s₁, hs₁, h⟩ := h.exists_of_bind
            exact (of_enterContinuation hr hsearch hm hs₁).trans (ih h)
          · rename_i hm
            refine hclose (fun m' hm' ↦ ?_) h
            rwa [← Option.some.inj hm']
        · exact hclose (by simp) h

end MovesTo

namespace Visits

/-- What moves lead to is visited. -/
theorem exists_of_movesTo (hs : Visits ctx line start happened stage s)
    (h : MovesTo ctx line (stage, s) (stage', s')) :
    ∃ happened', Visits ctx line start happened' stage' s' := by
  have hvisits : ∀ b, MovesTo ctx line (stage, s) b →
      ∃ happened', Visits ctx line start happened' b.1 b.2 := by
    intro b h
    induction h with
    | refl => exact ⟨happened, hs⟩
    | tail _ hmove ih =>
      obtain ⟨happened', hs'⟩ := ih
      obtain ⟨hap, hmove⟩ := hmove
      exact ⟨_, hs'.move hmove⟩
  exact hvisits _ h

/-- A scan that goes on visits its states. -/
theorem exists_of_step (hs : Visits ctx line start happened stage s)
    (hstage : stage.Scans stopDepth) (hstep : Returns (step ctx line stopDepth s) (.goOn s')) :
    ∃ happened', Visits ctx line start happened' stage s' :=
  hs.exists_of_movesTo (.of_step hstage hstep)

variable {fuel : Nat} {passed inside : List Frame} {r : Region} {m : Match}

theorem exists_of_enterContinuation
    (hs : Visits ctx line start happened (.regions passed (.region r :: inside)) s)
    (hr : r.kind = .beginWhile) (hsearch : Searches ctx line s r (some m))
    (hm : m.start = s.position)
    (h : Returns (enterContinuation ctx line fuel (.region r :: passed) r m s) s') :
    ∃ happened', Visits ctx line start happened' (.regions (.region r :: passed) inside) s' :=
  hs.exists_of_movesTo (.of_enterContinuation hr hsearch hm h)

theorem exists_of_continueRegions (hs : Visits ctx line start happened (.regions passed inside) s)
    (h : Returns (continueRegions ctx line fuel passed inside s) s') :
    ∃ happened', Visits ctx line start happened' .rest s' :=
  hs.exists_of_movesTo (.of_continueRegions h)

/-- **What is left of a line when it ends is a state that it came to**, or what the step made of it
that ended the line. -/
theorem exists_of_scanLine (fuel : Nat) (memory : Memory)
    (h : (Session.scanLine ctx line fuel start memory).failure = none) :
    ∃ happened last, Visits ctx line start happened .rest last ∧
      Returns (step ctx line none last)
        (.done (Session.scanLine ctx line fuel start memory).state) := by
  rw [Session.scanLine] at h ⊢
  cases hcontinue : continueRegions ctx line fuel [] start.stack.frames.reverse start memory with
  | ok s memory' =>
    obtain ⟨happened, hs⟩ := Visits.start.exists_of_continueRegions (returns_of_eq hcontinue)
    obtain ⟨last, hmoves, hdone, -⟩ : ∃ last, MovesTo ctx line (.rest, s) (.rest, last) ∧ _ ∧ _ :=
      MovesTo.exists_of_runScan .rest fuel s memory'
    obtain ⟨happened', hlast⟩ := hs.exists_of_movesTo hmoves
    simp only [hcontinue, Session.checkEnded] at h ⊢
    split at h
    · cases h
    · rename_i hended
      rw [if_neg hended]
      exact ⟨happened', last, hlast, hdone h⟩
  | error failure memory' =>
    rw [hcontinue] at h
    cases h

end Visits

/-! ### Invariants of runs -/

/-- What holds of the frames in a stage: going through the regions leaves the stack as it was at the
start of the line, and so does the scan of captures in the end. -/
inductive Stage.Fits (ctx : Context) (line : LineText) (start : LineState) :
    Stage → LineState → Prop
  | regions (passed inside : List Frame) (s : LineState) (hstack : s.stack = start.stack)
      (hframes : inside.reverse ++ passed = start.stack.frames) :
      Fits ctx line start (.regions passed inside) s
  | captures (passed : List Frame) (r : Region) (inside : List Frame) (m : Match)
      (before s : LineState) (hstack : before.stack = start.stack)
      (hframes : inside.reverse ++ .region r :: passed = start.stack.frames)
      (hm : ctx.engine.ReportsIn line.chars ⟨before.position, line.stop⟩ m)
      (hstart : m.start = before.position) :
      Fits ctx line start (.captures passed r inside m before) s
  | rest (s : LineState) : Fits ctx line start .rest s

/-- A property of the state, and of the one that a scan of captures goes back to. -/
def Stage.Both (P : LineState → Prop) : Stage → LineState → Prop
  | .captures _ _ _ _ before, s => P before ∧ P s
  | _, s => P s

theorem Searches.reportsIn {r : Region} {m : Match} (h : Searches ctx line s r (some m)) :
    ctx.engine.ReportsIn line.chars ⟨s.position, line.stop⟩ m := by
  obtain ⟨regex, -, hsearch⟩ := h
  exact reportsIn_of_search hsearch

theorem EntersContinuation.capturesEntered {passed : List Frame} {r : Region} {m : Match}
    {e : LineState × Bool} (h : EntersContinuation ctx line s passed r m e) :
    ∃ rule, ctx.registry.rule r.rule = .ok rule ∧
      CapturesEntered line (s.withFrames (.region r :: passed)) m r.contentScopes r.rule.grammar
        (rule.exitCaptures?.getD {}) e := by
  obtain ⟨rule, hrule, he⟩ := h
  exact ⟨rule, hrule, capturesEntered_of_enterCaptures he⟩

/-- Going through the regions leaves the stack as it is. -/
theorem Stage.Fits.stack_eq {passed inside : List Frame}
    (h : (Stage.regions passed inside).Fits ctx line start s) : s.stack = start.stack := by
  cases h with
  | regions _ _ _ hstack => exact hstack

/-- So does the scan of captures, once it is over. -/
theorem Stage.Fits.before_eq {passed inside : List Frame} {r : Region} {m : Match}
    {before : LineState} (h : (Stage.captures passed r inside m before).Fits ctx line start s) :
    before.stack = start.stack := by
  cases h with
  | captures _ _ _ _ _ _ hstack => exact hstack

/-- Where a region can go on, something was open at the start of the line. -/
theorem Stage.Fits.ne_nil_of_regions {passed inside : List Frame} {f : Frame}
    (h : (Stage.regions passed (f :: inside)).Fits ctx line start s) : start.stack.frames ≠ [] := by
  cases h with
  | regions _ _ _ _ hframes =>
    rw [← hframes]
    simp

theorem Stage.Fits.ne_nil_of_captures {passed inside : List Frame} {r : Region} {m : Match}
    {before : LineState} (h : (Stage.captures passed r inside m before).Fits ctx line start s) :
    start.stack.frames ≠ [] := by
  cases h with
  | captures _ _ _ _ _ _ _ hframes =>
    rw [← hframes]
    simp

/-- A region that goes on and those that hold it are the outer frames. -/
theorem Stage.Fits.suffix {passed inside : List Frame} {f : Frame}
    (h : (Stage.regions passed (f :: inside)).Fits ctx line start s) :
    f :: passed <:+ s.stack.frames := by
  cases h with
  | regions _ _ _ hstack hframes =>
    rw [hstack, ← hframes]
    exact ⟨inside.reverse, by simp⟩

/-- Entering the captures of a region that goes on keeps what tokenizing a line keeps. -/
theorem EntersContinuation.of_invariant {P : LineState → Prop} (hP : LineInvariant ctx line P)
    (hs : P s) {passed : List Frame} {r : Region} {m : Match} {e : LineState × Bool}
    (hsuffix : .region r :: passed <:+ s.stack.frames) (hsearch : Searches ctx line s r (some m))
    (hm : m.start = s.position) (h : EntersContinuation ctx line s passed r m e) : P e.1 := by
  obtain ⟨rule, hrule, he⟩ := h.capturesEntered
  exact hP.entered (hP.withFrames hs hsuffix) ⟨⟨passed, rfl⟩, hsearch.reportsIn, hm⟩ hrule he

/-- A step of a scan changes nothing that matters here. -/
theorem Stage.Fits.of_scans (h : stage.Fits ctx line start s) (hstage : stage.Scans stopDepth) :
    stage.Fits ctx line start s' := by
  cases hstage with
  | captures passed r inside m before =>
    cases h with
    | captures _ _ _ _ _ _ hstack hframes hm hstart =>
      exact .captures passed r inside m before s' hstack hframes hm hstart
  | rest => exact .rest s'

namespace Visits

/-- The frames fit to the stage. -/
theorem fits (hs : Visits ctx line start happened stage s) : stage.Fits ctx line start s := by
  induction hs with
  | start => exact .regions _ _ _ rfl (by simp)
  | move _ hmove ih =>
    cases hmove with
    | passed =>
      cases ih with
      | regions _ _ _ hstack hframes => exact .regions _ _ _ hstack (by simpa using hframes)
    | passedAll => exact .rest _
    | discontinued => exact .rest _
    | continued =>
      cases ih with
      | regions _ _ _ hstack hframes => exact .regions _ _ _ hstack (by simpa using hframes)
    | entered _ _ _ _ _ _ _ hsearch hm =>
      cases ih with
      | regions _ _ _ hstack hframes =>
        exact .captures _ _ _ _ _ _ hstack (by simpa using hframes) hsearch.reportsIn hm
    | left =>
      cases ih with
      | captures _ _ _ _ _ _ hstack hframes => exact .regions _ _ _ hstack (by simpa using hframes)
    | scanned _ _ _ _ _ hstage => exact ih.of_scans hstage

/-- **A property that tokenizing a line keeps holds of all states that the line comes to.** -/
theorem both {P : LineState → Prop} (hP : LineInvariant ctx line P) (hstart : P start)
    (hs : Visits ctx line start happened stage s) : stage.Both P s := by
  induction hs with
  | start => exact hstart
  | move hs hmove ih =>
    have hfits := hs.fits
    cases hmove with
    | passed => exact ih
    | passedAll => exact ih
    | discontinued => exact hP.withFrames ih ((List.suffix_cons _ _).trans hfits.suffix)
    | continued _ _ _ _ _ _ _ hsearch hm he =>
      exact hP.continued ih (he.of_invariant hP ih hfits.suffix hsearch hm) hsearch.reportsIn
    | entered _ _ _ _ _ _ _ hsearch hm he =>
      exact ⟨ih, he.of_invariant hP ih hfits.suffix hsearch hm⟩
    | left passed r inside s before scanned m hstep =>
      cases hfits with
      | captures _ _ _ _ _ _ _ _ hm _ => exact hP.continued ih.1 (hP.step ih.2 hstep) hm
    | scanned _ _ _ _ _ hstage hstep =>
      cases hstage with
      | captures => exact ⟨ih.1, hP.transition (hP.dropPassed ih.2) hstep.transition⟩
      | rest => exact hP.transition (hP.dropPassed ih) hstep.transition

theorem of_invariant {P : LineState → Prop} (hP : LineInvariant ctx line P) (hstart : P start)
    (hs : Visits ctx line start happened stage s) : P s := by
  have hboth := hs.both hP hstart
  cases stage with
  | captures => exact hboth.2
  | regions => exact hboth
  | rest => exact hboth

end Visits

end ScopeGrammar
