import Mathlib.Logic.Relation
import ScopeGrammar.Proofs.Tokenizer.Asked
import ScopeGrammar.Proofs.Tokenizer.Isolation

/-!
# Going through the open frames

At the start of a line the open regions with a while pattern are tried from the outermost one on.
`GoesThrough` says which frames are passed that way and what the line has come to with them, without
fuel: a region is passed if the leftmost match of its while pattern starts at the position, and the
position moves on to the end of that match. `Leaves` adds where this ends: with all frames, or with
those below the first region that does not go on.

The captures of such a match can take a scan of their own, which works on a copy of the stack. It
hands the copy back with the frames that the captures were entered on and the position at the end of
the match, unless a loop guard stopped it: then the position is at the end of the line
(`CapturesDone.frames_and_position`).
-/

namespace ScopeGrammar

open Tokenizing

variable {ctx : Context} {line : LineText} {stopDepth : Option Nat}

/-! ### Scans without fuel -/

/-- A step of a scan leads from one state to another, with what is remembered in them. -/
def GoesTo (ctx : Context) (line : LineText) (stopDepth : Option Nat)
    (a b : LineState × Memory) : Prop :=
  step ctx line stopDepth a.1 a.2 = .ok (.goOn b.1) b.2

/-- The match that is found in a state is one that a loop guard refuses. -/
def Refuses (ctx : Context) (line : LineText) (s : LineState) (memory : Memory) : Prop :=
  ∃ m c between memory',
    nextMatch ctx line s.dropPassed (s.dropPassed.limit line) memory = .ok (some (m, c)) between ∧
    applyMatch ctx line (s.dropPassed.extendContent m.start) m c between = .ok none memory'

/-- A scan takes the steps that lead from one state to another. -/
theorem exists_steps_of_goesTo {a b : LineState × Memory}
    (h : Relation.ReflTransGen (GoesTo ctx line stopDepth) a b) :
    ∃ n, ∀ fuel, runScan ctx line stopDepth (n + fuel) a.1 a.2 =
      runScan ctx line stopDepth fuel b.1 b.2 := by
  induction h using Relation.ReflTransGen.head_induction_on with
  | refl => exact ⟨0, fun fuel ↦ by rw [Nat.zero_add]⟩
  | head hstep _ ih =>
    obtain ⟨n, hn⟩ := ih
    refine ⟨n + 1, fun fuel ↦ ?_⟩
    rw [Nat.add_right_comm, runScan, show step ctx line stopDepth _ _ = _ from hstep]
    exact hn fuel

/-- With enough fuel a scan comes to its end, if steps lead there. -/
theorem exists_fuel_of_goesTo {a : LineState × Memory} {last s' : LineState}
    {between memory' : Memory}
    (h : Relation.ReflTransGen (GoesTo ctx line stopDepth) a (last, between))
    (hlast : step ctx line stopDepth last between = .ok (.done s') memory') :
    ∃ n, ∀ fuel, n ≤ fuel → runScan ctx line stopDepth fuel a.1 a.2 = ⟨s', memory', none⟩ := by
  obtain ⟨n, hn⟩ := exists_steps_of_goesTo h
  refine ⟨n + 1, fun fuel hfuel ↦ ?_⟩
  obtain ⟨k, rfl⟩ := Nat.exists_eq_add_of_le hfuel
  rw [Nat.add_assoc, hn, Nat.add_comm, runScan, hlast]

/-- Steps lead to the end of a scan that comes to its end. -/
theorem exists_last_of_runScan {fuel : Nat} {s : LineState} {memory : Memory}
    (h : (runScan ctx line stopDepth fuel s memory).failure = none) :
    ∃ last between,
      Relation.ReflTransGen (GoesTo ctx line stopDepth) (s, memory) (last, between) ∧
      step ctx line stopDepth last between =
        .ok (.done (runScan ctx line stopDepth fuel s memory).state)
          (runScan ctx line stopDepth fuel s memory).memory := by
  induction fuel generalizing s memory with
  | zero => cases h
  | succ fuel ih =>
    rw [runScan] at h ⊢
    cases hstep : step ctx line stopDepth s memory with
    | ok next memory' =>
      rw [hstep] at h
      cases next with
      | goOn s' =>
        obtain ⟨last, between, hsteps, hlast⟩ := ih h
        have hgoes : GoesTo ctx line stopDepth (s, memory) (s', memory') := hstep
        exact ⟨last, between, hsteps.head hgoes, hlast⟩
      | done s' => exact ⟨s, memory, .refl, hstep⟩
    | error e memory' =>
      rw [hstep] at h
      cases h

/-- A scan that did not run out of fuel comes to the same with more of it. -/
theorem runScan_of_le {n fuel : Nat} (hle : n ≤ fuel) {s : LineState} {memory : Memory}
    (h : (runScan ctx line stopDepth n s memory).failure ≠ some .unfinished) :
    runScan ctx line stopDepth fuel s memory = runScan ctx line stopDepth n s memory := by
  induction n generalizing fuel s memory with
  | zero => exact (h rfl).elim
  | succ n ih =>
    obtain ⟨fuel, rfl⟩ := Nat.exists_eq_add_of_le' (Nat.le_trans (Nat.le_add_left 1 n) hle)
    rw [runScan] at h ⊢
    rw [runScan]
    cases hstep : step ctx line stopDepth s memory with
    | ok next memory' =>
      rw [hstep] at h
      cases next with
      | goOn s' => exact ih (Nat.le_of_succ_le_succ hle) h
      | done s' => rfl
    | error e memory' => rfl

theorem scan_eq_error {depth fuel : Nat} {s : LineState} {memory : Memory} {e : Failure}
    (h : (runScan ctx line (some depth) fuel s memory).failure = some e) :
    scan ctx line (some depth) fuel s memory =
      .error e (runScan ctx line (some depth) fuel s memory).memory := by
  rw [scan, h]

/-- **The last step of a scan closes a frame at its bound, or a loop guard has refused a match**,
and then the rest of the line is given up. -/
theorem refuses_or_position_eq {s s' : LineState} {memory memory' : Memory}
    (h : step ctx line stopDepth s memory = .ok (.done s') memory') :
    Refuses ctx line s memory ∧ s'.position = line.stop ∨
      ¬ Refuses ctx line s memory ∧ s'.position = max s.position (s.dropPassed.limit line) := by
  rw [step] at h
  obtain ⟨found, between, hfound, h⟩ := exists_of_bind_eq h
  cases found with
  | some found =>
    obtain ⟨m, c⟩ := found
    obtain ⟨next, between', happlied, h⟩ := exists_of_bind_eq h
    cases next with
    | some s'' => cases h
    | none =>
      cases h
      exact .inl ⟨⟨m, c, between, _, hfound, happlied⟩, LineState.LiesIn.position_stopLine _ _ _⟩
  | none =>
    refine .inr ⟨?_, ?_⟩
    · rintro ⟨m, c, between', memory'', hfound', -⟩
      cases hfound.symm.trans hfound'
    · rw [← s.position_dropPassed]
      dsimp only at h
      cases hnext : s.dropPassed.nextCapture? with
      | some t =>
        rw [hnext] at h
        cases h
      | none =>
        rw [hnext] at h
        rcases closeAtBound_cases (returns_of_eq h) with ⟨-, hdone⟩ | ⟨f, below, b, -, -, hdone⟩
        · obtain rfl := Step.done.inj hdone
          rfl
        · split at hdone
          · obtain rfl := Step.done.inj hdone
            cases f <;> rfl
          · cases hdone

/-! ### Regions that go on -/

/-- Enters the captures of a match with which a region goes on, on the region and the frames below
it. -/
def openContinuation (ctx : Context) (line : LineText) (below : List Frame) (r : Region) (m : Match)
    (s : LineState) : Tokenizing (LineState × Bool) := do
  trace ctx r.rule (.continued · m.whole)
  let rule ← ofFault (ctx.registry.rule r.rule)
  enterCaptures line (s.withFrames (.region r :: below)) m r.contentScopes r.rule.grammar
    (rule.exitCaptures?.getD {})

/-- A region goes on in the line: the leftmost match of its while pattern starts at the position.
Then the captures of that match are entered. -/
structure GoesOnWith (ctx : Context) (line : LineText) (below : List Frame) (r : Region) (m : Match)
    (s : LineState) (memory : Memory) (e : LineState × Bool) (memory' : Memory) : Prop where
  kind_eq : r.kind = .beginWhile
  searched : Searches ctx line s r (some m)
  start_eq : m.start = s.position
  opened : openContinuation ctx line below r m s memory = .ok e memory'

/-- What the captures that were entered come to, if need be by a scan of their own, and whether a
loop guard stopped that scan. -/
inductive CapturesDone (ctx : Context) (line : LineText) (depth : Nat) :
    LineState × Bool → Memory → LineState → Bool → Memory → Prop
  | flat (inner : LineState) (memory : Memory) :
      CapturesDone ctx line depth (inner, false) memory inner false memory
  | scanned {inner last scanned : LineState} {memory between memory' : Memory} {stopped : Bool}
      (hsteps :
        Relation.ReflTransGen (GoesTo ctx line (some depth)) (inner, memory) (last, between))
      (hlast : step ctx line (some depth) last between = .ok (.done scanned) memory')
      (hstopped : stopped = true ↔ Refuses ctx line last between) :
      CapturesDone ctx line depth (inner, true) memory scanned stopped memory'

/-- **Frames are gone through**, from the outermost one on: those that are passed (listed innermost
first), the state that the line has come to with them, and what is remembered. -/
inductive GoesThrough (ctx : Context) (line : LineText) (start : LineState) (memory : Memory) :
    List Frame → LineState → Memory → Prop
  | start : GoesThrough ctx line start memory [] start memory
  /-- A frame without a while pattern is passed. -/
  | other {below : List Frame} {s : LineState} {between : Memory} {f : Frame}
      (h : GoesThrough ctx line start memory below s between) (hf : f.isBeginWhile = false) :
      GoesThrough ctx line start memory (f :: below) s between
  /-- A region goes on. Its captures are done on a copy of the stack, and end with the frames that
  they were entered on. The position moves on to the end of the match, or to that of the line if a
  loop guard stopped the scan of the captures. -/
  | goesOn {below : List Frame} {r : Region} {m : Match} {s scanned : LineState}
      {e : LineState × Bool} {memory₁ memory₂ memory₃ : Memory} {stopped : Bool}
      (h : GoesThrough ctx line start memory below s memory₁)
      (hgoes : GoesOnWith ctx line below r m s memory₁ e memory₂)
      (hdone : CapturesDone ctx line (below.length + 2) e memory₂ scanned stopped memory₃)
      (hframes : scanned.stack.frames = .region r :: below)
      (hposition : (afterContinuation m s scanned).position =
        if stopped then line.stop else max s.position m.stop) :
      GoesThrough ctx line start memory (.region r :: below) (afterContinuation m s scanned) memory₃

/-- **What going through the frames of a line leaves.** -/
inductive Leaves (ctx : Context) (line : LineText) (start : LineState) (memory : Memory) :
    List Frame → LineState → Prop
  /-- All regions with a while pattern go on. -/
  | all {s : LineState} {memory' : Memory}
      (h : GoesThrough ctx line start memory start.stack.frames s memory') :
      Leaves ctx line start memory start.stack.frames s
  /-- The leftmost match of a while pattern does not start at the position, or there is none. -/
  | below {kept inside : List Frame} {r : Region} {s : LineState} {memory' : Memory}
      {found : Option Match} (h : GoesThrough ctx line start memory kept s memory')
      (hframes : inside ++ .region r :: kept = start.stack.frames) (hr : r.kind = .beginWhile)
      (hsearch : Searches ctx line s r found) (hm : ∀ m, found = some m → m.start ≠ s.position) :
      Leaves ctx line start memory kept (s.withFrames kept)

/-- A region goes on with captures whose scan never comes to its end. -/
def HasEndlessCaptures (ctx : Context) (line : LineText) (start : LineState) (memory : Memory) :
    Prop :=
  ∃ below inside r m s inner memory₁ memory₂,
    GoesThrough ctx line start memory below s memory₁ ∧
    inside ++ .region r :: below = start.stack.frames ∧
    GoesOnWith ctx line below r m s memory₁ (inner, true) memory₂ ∧
    ∀ fuel, (runScan ctx line (some (below.length + 2)) fuel inner memory₂).failure =
      some .unfinished

variable {start s : LineState} {memory memory' : Memory} {below inside : List Frame} {r : Region}
  {m : Match}

theorem enterContinuation_eq (fuel : Nat) :
    enterContinuation ctx line fuel (.region r :: below) r m s =
      openContinuation ctx line below r m s >>= fun e ↦
        (if e.2 then scan ctx line (some (below.length + 2)) fuel e.1 else pure e.1) >>=
          fun scanned ↦ pure (afterContinuation m s scanned) := by
  rw [enterContinuation, openContinuation]
  simp only [bind_assoc]
  refine bind_congr_of_returns fun _ _ ↦ bind_congr_of_returns fun _ _ ↦
    bind_congr_of_returns fun e _ ↦ ?_
  obtain ⟨inner, entered⟩ := e
  cases entered <;> rfl

theorem entersContinuation_of_openContinuation {e : LineState × Bool}
    (h : openContinuation ctx line below r m s memory = .ok e memory') :
    EntersContinuation ctx line s below r m e := by
  obtain ⟨_, -, h⟩ := (returns_of_eq h).exists_of_bind
  obtain ⟨rule, hrule, h⟩ := h.exists_of_bind
  exact ⟨rule, hrule.eq_ok_of_ofFault, h⟩

/-- A scan that comes to its end has done the captures. -/
theorem exists_capturesDone_of_runScan {depth fuel : Nat} {inner : LineState}
    (h : (runScan ctx line (some depth) fuel inner memory).failure = none) :
    ∃ stopped, CapturesDone ctx line depth (inner, true) memory
      (runScan ctx line (some depth) fuel inner memory).state stopped
      (runScan ctx line (some depth) fuel inner memory).memory := by
  obtain ⟨last, between, hsteps, hlast⟩ := exists_last_of_runScan h
  by_cases hrefuses : Refuses ctx line last between
  · exact ⟨true, .scanned hsteps hlast (by simpa using hrefuses)⟩
  · exact ⟨false, .scanned hsteps hlast (by simpa using hrefuses)⟩

/-- **A region that goes on comes to what its captures are done with.** -/
theorem exists_of_enterContinuation {fuel : Nat} {s' : LineState}
    (h : enterContinuation ctx line fuel (.region r :: below) r m s memory = .ok s' memory') :
    ∃ e between scanned stopped,
      openContinuation ctx line below r m s memory = .ok e between ∧
      CapturesDone ctx line (below.length + 2) e between scanned stopped memory' ∧
      s' = afterContinuation m s scanned := by
  rw [enterContinuation_eq] at h
  obtain ⟨⟨inner, entered⟩, between, hopened, h⟩ := exists_of_bind_eq h
  obtain ⟨scanned, between', hscanned, h⟩ := exists_of_bind_eq h
  cases h
  refine ⟨(inner, entered), between, scanned, ?_⟩
  cases entered with
  | false =>
    cases hscanned
    exact ⟨false, hopened, .flat inner _, rfl⟩
  | true =>
    have hscanned : scan ctx line (some (below.length + 2)) fuel inner between =
        .ok scanned memory' := hscanned
    rw [scan] at hscanned
    split at hscanned
    · rename_i hnone
      cases hscanned
      obtain ⟨stopped, hdone⟩ := exists_capturesDone_of_runScan hnone
      exact ⟨stopped, hopened, hdone, rfl⟩
    · cases hscanned

theorem finishes_openContinuation :
    Finishes (fun _ ↦ True) (openContinuation ctx line below r m s) := by
  have hA := (memoryInvariant_true ctx).finishes
  exact (hA.confined_trace _ _).bind fun _ _ ↦ (hA.confined_fault _).bind fun _ _ ↦
    hA.confined_enterCaptures _ _ _ _ _

/-- **A region whose while pattern matches at the position goes on and has its captures done**, or
their scan never ends, or something fails. -/
theorem done_or_endless_or_error (hr : r.kind = .beginWhile)
    (hsearch : Searches ctx line s r (some m)) (hm : m.start = s.position) (memory : Memory) :
    (∃ e between scanned stopped memory', GoesOnWith ctx line below r m s memory e between ∧
      CapturesDone ctx line (below.length + 2) e between scanned stopped memory') ∨
    (∃ inner between, GoesOnWith ctx line below r m s memory (inner, true) between ∧ ∀ fuel,
      (runScan ctx line (some (below.length + 2)) fuel inner between).failure =
        some .unfinished) ∨
    ∃ failure n, failure ≠ .unfinished ∧ ∀ fuel, n ≤ fuel → ∃ memory',
      enterContinuation ctx line fuel (.region r :: below) r m s memory =
        .error failure memory' := by
  have hfinishes : Finishes (fun _ ↦ True) (openContinuation ctx line below r m s) :=
    finishes_openContinuation
  have hresult := hfinishes memory True.intro
  cases hopened : openContinuation ctx line below r m s memory with
  | error failure memory' =>
    rw [hopened] at hresult
    refine .inr (.inr ⟨failure, 0, hresult.1, fun fuel _ ↦ ⟨memory', ?_⟩⟩)
    rw [enterContinuation_eq, bind_eq_of_eq_error hopened]
  | ok e between =>
    have hgoes : GoesOnWith ctx line below r m s memory e between := ⟨hr, hsearch, hm, hopened⟩
    obtain ⟨inner, entered⟩ := e
    cases entered with
    | false => exact .inl ⟨_, between, inner, false, between, hgoes, .flat inner between⟩
    | true =>
      by_cases hendless : ∀ fuel,
          (runScan ctx line (some (below.length + 2)) fuel inner between).failure =
            some .unfinished
      · exact .inr (.inl ⟨inner, between, hgoes, hendless⟩)
      · obtain ⟨n, hn⟩ := not_forall.1 hendless
        cases hfailure : (runScan ctx line (some (below.length + 2)) n inner between).failure with
        | none =>
          obtain ⟨stopped, hdone⟩ := exists_capturesDone_of_runScan hfailure
          exact .inl ⟨_, between, _, stopped, _, hgoes, hdone⟩
        | some failure =>
          have hne : failure ≠ .unfinished := fun heq ↦ hn (hfailure.trans (congrArg some heq))
          refine .inr (.inr ⟨failure, n, hne, fun fuel hfuel ↦ ?_⟩)
          have hscan := scan_eq_error (runScan_of_le hfuel hn ▸ hfailure)
          exact ⟨_, (enterContinuation_eq fuel).symm ▸
            (bind_eq_of_eq_ok hopened).trans (bind_eq_of_eq_error hscan)⟩

/-- With enough fuel a region goes on. -/
theorem GoesOnWith.exists_fuel {e : LineState × Bool} {between : Memory} {scanned : LineState}
    {stopped : Bool} (hgoes : GoesOnWith ctx line below r m s memory e between)
    (hdone : CapturesDone ctx line (below.length + 2) e between scanned stopped memory') :
    ∃ n, ∀ fuel, n ≤ fuel →
      enterContinuation ctx line fuel (.region r :: below) r m s memory =
        .ok (afterContinuation m s scanned) memory' := by
  cases hdone with
  | flat inner memory =>
    refine ⟨0, fun fuel _ ↦ ?_⟩
    rw [enterContinuation_eq, bind_eq_of_eq_ok hgoes.opened]
    rfl
  | @scanned inner _ _ _ _ _ _ hsteps hlast hstopped =>
    obtain ⟨n, hn⟩ := exists_fuel_of_goesTo hsteps hlast
    refine ⟨n, fun fuel hfuel ↦ ?_⟩
    rw [enterContinuation_eq, bind_eq_of_eq_ok hgoes.opened]
    have hscan :
        scan ctx line (some (below.length + 2)) fuel inner between = .ok scanned memory' := by
      rw [scan, hn fuel hfuel]
    exact bind_eq_of_eq_ok hscan

/-! ### Where a region that goes on leads -/

variable {happened : List Happening} {stage : Stage}

theorem Visits.exists_of_goesTo {a b : LineState × Memory}
    (hs : Visits ctx line start happened stage a.1) (hstage : stage.Scans stopDepth)
    (h : Relation.ReflTransGen (GoesTo ctx line stopDepth) a b) :
    ∃ happened', Visits ctx line start happened' stage b.1 := by
  induction h with
  | refl => exact ⟨happened, hs⟩
  | tail _ hstep ih =>
    obtain ⟨happened', hs'⟩ := ih
    exact hs'.exists_of_step hstage (returns_of_eq hstep)

/-- Closing the frames of a line stops at a frame without a bound. -/
theorem frames_stopLine_of_unbounded (line : LineText) (s : LineState) {f : Frame}
    (hf : f.bound? = none) (below : List Frame) :
    (stopLine line s (f :: below)).stack.frames = f :: below := by
  rw [stopLine.eq_def]
  simp only [hf]
  rfl

/-- The scan of the captures of a region ends with the frames below the capture of the match. -/
theorem IsolatedStep.frames_of_done {opened s s' : LineState} {c : CapturedText} {f : Frame}
    {below : List Frame} (hf : f.bound? = none)
    (h : IsolatedStep ctx line (some ((f :: below).length + 1)) opened c (f :: below) s
      (.done s')) :
    s'.stack.frames = f :: below := by
  generalize hnext : Step.done s' = next at h
  cases h with
  | inside => cases hnext
  | closed s'' _ hreleased =>
    rw [if_pos rfl] at hnext
    obtain rfl := Step.done.inj hnext
    rw [hreleased.stack_eq]
    rfl
  | stuck m c s'' =>
    obtain rfl := Step.done.inj hnext
    exact frames_stopLine_of_unbounded line s'' hf below

/-- **What is done with the captures of a region that goes on leaves the frames that they were
entered on, and moves the position on to the end of the match**, unless a loop guard has given up
the line. -/
theorem CapturesDone.frames_and_position (hE : ctx.engine.StaysInRange)
    (hnested : start.stack.Layered fun _ f ↦ f.IsNested) (hreaches : start.Reaches)
    (hs : Visits ctx line start happened (.regions below (.region r :: inside)) s)
    (hr : (Frame.region r).bound? = none) {e : LineState × Bool} {between : Memory}
    (hgoes : GoesOnWith ctx line below r m s memory e between) {scanned : LineState}
    {stopped : Bool}
    (hdone : CapturesDone ctx line (below.length + 2) e between scanned stopped memory') :
    scanned.stack.frames = .region r :: below ∧
      (afterContinuation m s scanned).position =
        if stopped then line.stop else max s.position m.stop := by
  have hentered := entersContinuation_of_openContinuation hgoes.opened
  obtain ⟨rule, -, he⟩ := hentered.capturesEntered
  have hm : m.stop ≤ line.stop := (hE.of_reportsIn hgoes.searched.reportsIn).2.2
  rw [position_afterContinuation]
  cases hdone with
  | flat =>
    have hposition : scanned.position = s.position := he.position_eq
    refine ⟨?_, ?_⟩
    · rcases he.stack_cases with ⟨hstack, -⟩ | ⟨c, -, -, h⟩
      · exact congrArg Stack.frames hstack
      · cases h
    · rw [hposition]
      simp only [Bool.false_eq_true, if_false]
      split <;> omega
  | @scanned inner last _ _ between' _ _ hsteps hlast hstopped =>
    have hlt : s.position < m.stop := by
      rw [← hgoes.start_eq]
      cases he with
      | opened labels hlt => exact hlt
    -- the last step is one from inside of the capture of the match
    have hinner := hs.move (.entered below r inside s inner m hgoes.kind_eq hgoes.searched
      hgoes.start_eq hentered)
    obtain ⟨happened', hvisits⟩ := hinner.exists_of_goesTo (.captures below r inside m s) hsteps
    obtain ⟨-, opened, c, above, hstop, hisolated⟩ := hvisits.reaches hE hnested hreaches
    have hend : IsolatedStep ctx line (some ((Frame.region r :: below).length + 1)) opened c
        (.region r :: below) last.dropPassed (.done scanned) :=
      hisolated.step hE (hvisits.nested hE hnested) (by simp)
        (transition_of_step (returns_of_eq hlast))
    refine ⟨hend.frames_of_done hr, ?_⟩
    rw [if_pos hlt]
    have hle := hend.stop_le_of_done (hstop ▸ hm)
    rcases refuses_or_position_eq hlast with ⟨hrefuses, hposition⟩ | ⟨hrefuses, hposition⟩
    · rw [hstopped.2 hrefuses, hposition]
      exact Nat.max_eq_left hm
    · obtain rfl : stopped = false := Bool.eq_false_iff.2 fun h ↦ hrefuses (hstopped.1 h)
      obtain ⟨above', hdropped⟩ := hisolated.dropPassed
      have hlimit : last.dropPassed.limit line ≤ c.stop := hdropped.limit_le
      have hlastPosition : last.position ≤ c.stop := hisolated.le_stop
      simp only [Bool.false_eq_true, if_false]
      omega

/-- The frames are gone through as the line does. -/
theorem GoesThrough.exists_visits (h : GoesThrough ctx line start memory below s memory')
    (inside : List Frame) (hframes : inside.reverse ++ below = start.stack.frames) :
    ∃ happened, Visits ctx line start happened (.regions below inside) s := by
  induction h generalizing inside with
  | start =>
    obtain rfl : inside = start.stack.frames.reverse := by
      rw [← hframes]
      simp
    exact ⟨[], .start⟩
  | @other below s between f _ hf ih =>
    obtain ⟨happened, hs⟩ := ih (f :: inside) (by simpa using hframes)
    exact ⟨_, hs.move (.passed below f inside s hf)⟩
  | @goesOn below r m s scanned e _ _ _ _ _ hgoes hdone _ _ ih =>
    obtain ⟨happened, hs⟩ := ih (.region r :: inside) (by simpa using hframes)
    have hentered := entersContinuation_of_openContinuation hgoes.opened
    cases hdone with
    | flat =>
      exact ⟨_, hs.move (.continued below r inside s scanned m hgoes.kind_eq hgoes.searched
        hgoes.start_eq hentered)⟩
    | @scanned inner last _ _ _ _ _ hsteps hlast _ =>
      have hinner := hs.move (.entered below r inside s inner m hgoes.kind_eq hgoes.searched
        hgoes.start_eq hentered)
      obtain ⟨happened', hvisits⟩ := hinner.exists_of_goesTo (.captures below r inside m s) hsteps
      exact ⟨_, hvisits.move (.left below r inside last s scanned m (returns_of_eq hlast))⟩

/-- Going through the frames leaves the stack as it is. -/
theorem GoesThrough.stack_eq (h : GoesThrough ctx line start memory below s memory') :
    s.stack = start.stack := by
  induction h with
  | start => rfl
  | other _ _ ih => exact ih
  | goesOn _ _ _ _ _ ih => exact ih

theorem Leaves.stack_eq {kept : List Frame} {s' : LineState}
    (h : Leaves ctx line start memory kept s') :
    s'.stack = start.stack.withFrames kept ∧ kept <:+ start.stack.frames := by
  cases h with
  | all h => exact ⟨h.stack_eq, List.suffix_rfl⟩
  | below h hframes =>
    refine ⟨?_, ?_⟩
    · rw [← h.stack_eq]
      rfl
    · rw [← hframes]
      exact (List.suffix_cons _ _).trans (List.suffix_append _ _)

end ScopeGrammar
