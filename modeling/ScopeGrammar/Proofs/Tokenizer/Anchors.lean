import ScopeGrammar.Proofs.Tokenizer.Asked
import ScopeGrammar.Proofs.Tokenizer.Carried

/-!
# The anchors of searches

The anchor for the start of a search is a single value that is set when a region begins, put back
when it is closed, and set again by every region that goes on. All that comes to is that it follows
the stack: it lies where the begin match of the innermost region stopped that began in the line, and
without such a region it is decided by what became of the regions that were open at the start of the
line. `LineHistory` is what has to be known for that, and `Anchored` is what carries it along the
frames: each region that began in the line holds the anchor of what is below it.

The anchor for the start of the document holds on the first line, before anything was matched.

What is searched in a line is what `Stage.Asks` lists.
-/

namespace ScopeGrammar

open Tokenizing

variable {ctx : Context} {line : LineText}

/-! ### What has happened in a line -/

/-- Whether a rule is one of regions. -/
def Registry.isRegion (r : Registry) (ref : RuleRef) : Bool :=
  match r.rule ref with
  | .ok rule =>
    match rule.body with
    | .region _ => true
    | _ => false
  | .error _ => false

/-- What has happened in a line, as far as it decides about the anchor. -/
structure LineHistory where
  /-- Where the begin matches of the open regions stopped that began in the line, innermost
  first. -/
  begins : List Nat := []
  /-- Whether an end pattern closed a region that was open at the start of the line. -/
  endedCarried : Bool := false
  /-- Where the last match stopped with which a region goes on and whose captures are done. -/
  continued : Option Nat := none

namespace LineHistory

/-- What has happened once one more thing has. -/
def note (r : Registry) (η : LineHistory) : Happening → LineHistory
  | .applied m (.rule ref) =>
    if r.isRegion ref then { η with begins := m.stop :: η.begins } else η
  | .applied _ .exit =>
    match η.begins with
    | _ :: begins => { η with begins := begins }
    | [] => { η with endedCarried := true }
  | .closed (.region _) => { η with begins := η.begins.tail }
  -- what was opened for the captures of the match is gone when they are done
  | .continued m => { η with begins := [], continued := some m.stop }
  | .passed | .discontinued | .entered | .opened | .closed (.captured _) => η

/-- What has happened, of which the last thing comes first. -/
def ofHappened (r : Registry) (happened : List Happening) : LineHistory :=
  happened.foldr (fun h η ↦ η.note r h) {}

/-- Where the anchor is without regions that began in the line. -/
def base (tookLineEnd : Bool) (η : LineHistory) : Option Nat :=
  if η.endedCarried then none
  else
    match η.continued with
    | some p => some p
    | none => if tookLineEnd then some 0 else none

/-- Where the anchor is. -/
def anchor (tookLineEnd : Bool) (η : LineHistory) : Option Nat :=
  η.begins.head?.or (η.base tookLineEnd)

end LineHistory

/-! ### Frames and the anchor -/

namespace Frame

/-- Whether the frame is a region that began in the line. -/
def beganHere : Frame → Bool
  | region r => r.enteredAt.isSome
  | captured _ => false

/-- The frame is a region that was open at the start of the line. -/
def IsFromBefore : Frame → Prop
  | region r => r.bound = none ∧ r.anchorBefore = none ∧ r.enteredAt = none
  | captured _ => False

end Frame

/-- The anchor of some frames, and where the regions of them began that began in the line. -/
inductive Anchored (base : Option Nat) : List Frame → List Nat → Option Nat → Prop
  /-- Nothing began in the line. -/
  | before {frames : List Frame} (h : ∀ f ∈ frames, f.IsFromBefore) : Anchored base frames [] base
  /-- A capture leaves the anchor where it is. -/
  | captured {c : CapturedText} {below : List Frame} {begins : List Nat} {anchor : Option Nat}
      (h : Anchored base below begins anchor) :
      Anchored base (.captured c :: below) begins anchor
  /-- A region takes the anchor to where its begin match stopped. -/
  | began {r : Region} {below : List Frame} {b : Nat} {begins : List Nat}
      (hr : r.enteredAt.isSome = true) (h : Anchored base below begins r.anchorBefore) :
      Anchored base (.region r :: below) (b :: begins) (some b)

namespace Anchored

variable {base : Option Nat} {frames below : List Frame} {begins : List Nat} {anchor : Option Nat}

/-- **The anchor is where the innermost region began**, of those that began in the line. -/
theorem anchor_eq (h : Anchored base frames begins anchor) :
    anchor = begins.head?.or base := by
  induction h with
  | before => rfl
  | captured _ ih => exact ih
  | began => rfl

/-- There is one beginning for every region that began in the line. -/
theorem length_begins (h : Anchored base frames begins anchor) :
    begins.length = frames.countP Frame.beganHere := by
  induction h with
  | @before frames h =>
    refine (List.countP_eq_zero.2 fun f hf ↦ ?_).symm
    cases f with
    | region r => simp [Frame.beganHere, (h _ hf).2.2]
    | captured c => exact (h _ hf).elim
  | captured _ ih => exact ih.trans (List.countP_cons_of_neg (by simp [Frame.beganHere])).symm
  | @began r below b begins hr _ ih =>
    have hhere : (Frame.region r).beganHere = true := hr
    rw [List.length_cons, ih, List.countP_cons_of_pos hhere]

/-- Where nothing began in the line, a region at the top means that all is from before. -/
theorem of_region {r : Region} (h : Anchored base (.region r :: below) [] anchor) :
    ∀ f ∈ Frame.region r :: below, f.IsFromBefore := by
  cases h with
  | before h => exact h

theorem of_began {r : Region} {b : Nat}
    (h : Anchored base (.region r :: below) (b :: begins) anchor) :
    Anchored base below begins r.anchorBefore := by
  cases h with
  | began _ h => exact h

theorem of_captured {c : CapturedText} (h : Anchored base (.captured c :: below) begins anchor) :
    Anchored base below begins anchor := by
  cases h with
  | before h => exact (h _ List.mem_cons_self).elim
  | captured h => exact h

/-- Entering captures opens a frame of captured text at most. -/
theorem advance {s : LineState} {m : Match} {path : ScopePath} {grammar : GrammarId}
    {captures : Captures} {e : LineState × Bool} (h : Anchored base s.stack.frames begins s.anchor)
    (he : CapturesEntered line s m path grammar captures e) (p : Nat) :
    Anchored base (advance m p e).stack.frames begins (advance m p e).anchor := by
  cases he with
  | empty => exact h
  | plain => exact h
  | opened => exact .captured h
  | flattened => exact h

theorem dropPassed {s : LineState} (h : Anchored base s.stack.frames begins s.anchor) :
    Anchored base s.dropPassed.stack.frames begins s.dropPassed.anchor := by
  rcases s.dropPassed_eq with heq | ⟨c, below, hf, heq⟩
  · rw [heq]
    exact h
  · rw [heq]
    rw [hf] at h
    exact .captured h.of_captured

end Anchored

theorem Registry.isRegion_eq {r : Registry} {ref : RuleRef} {rule : Rule}
    (h : r.rule ref = .ok rule) : r.isRegion ref = match rule.body with
      | .region _ => true
      | _ => false := by
  rw [isRegion, h]

/-! ### Steps -/

/-- The frames and the anchor fit to what has happened in the line. -/
def LineState.AnchoredBy (s : LineState) (tookLineEnd : Bool) (η : LineHistory) : Prop :=
  Anchored (η.base tookLineEnd) s.stack.frames η.begins s.anchor

namespace LineState.AnchoredBy

variable {s s' : LineState} {tookLineEnd : Bool} {η : LineHistory}

/-- A match that is applied begins a region, ends one, or does neither. -/
theorem applied {m : Match} {c : Candidate} (h : s.AnchoredBy tookLineEnd η)
    (happlied : Applied ctx line s m c (some s')) :
    s'.AnchoredBy tookLineEnd (η.note ctx.registry (.applied m c)) := by
  cases happlied with
  | ended r below rule e hf _ _ he =>
    rw [AnchoredBy, hf] at h
    -- it is the region that began last in the line, or one from before
    obtain ⟨begins, endedCarried, continued⟩ := η
    cases begins with
    | nil =>
      have hbefore := h.of_region
      have hclosed : Anchored none below [] r.anchorBefore := by
        rw [(hbefore _ List.mem_cons_self).2.1]
        exact .before fun f hf ↦ hbefore f (List.mem_cons_of_mem _ hf)
      exact Anchored.advance hclosed he s.position
    | cons b begins => exact Anchored.advance h.of_began he s.position
  | matched ref rule r names e hrule hbody _ _ he =>
    have hregion : ctx.registry.isRegion ref = false := by
      rw [Registry.isRegion_eq hrule, hbody]
    simp only [LineHistory.note, hregion, Bool.false_eq_true, if_false]
    exact Anchored.advance h he s.position
  | began ref rule r region e hrule hbody _ hopened he =>
    have hregion : ctx.registry.isRegion ref = true := by
      rw [Registry.isRegion_eq hrule, hbody]
    simp only [LineHistory.note, hregion, if_true]
    have hbegan : Anchored (η.base tookLineEnd) (.region region :: s.stack.frames)
        (m.stop :: η.begins) (some m.stop) := by
      refine .began (by rw [hopened.enteredAt_eq]; rfl) ?_
      rw [hopened.anchorBefore_eq]
      exact h
    exact Anchored.advance hbegan he s.position

/-- **A step of a scan keeps the anchor with the stack.** -/
theorem stepsTo {stopDepth : Option Nat} {hap : Happening} (h : s.AnchoredBy tookLineEnd η)
    (hstep : StepsTo ctx line stopDepth s hap s') :
    s'.AnchoredBy tookLineEnd (η.note ctx.registry hap) := by
  have h : s.dropPassed.AnchoredBy tookLineEnd η := Anchored.dropPassed h
  cases hstep with
  | applied _ m c hfound happlied =>
    have hextend : (s.dropPassed.extendContent m.start).AnchoredBy tookLineEnd η := h
    exact hextend.applied (applied_of_applyMatch happlied)
  | opened t hfound ht =>
    obtain ⟨c, below, rest, hf, -⟩ := exists_captured_of_nextCapture? ht
    rw [AnchoredBy, hf] at h
    rw [AnchoredBy, openCapture_stack hf]
    exact .captured (.captured h.of_captured)
  | closed _ f below hfound hnext hf hclosed =>
    obtain ⟨⟨b, hb⟩, -, rfl⟩ := closed_of_closeAtBound hf hclosed
    rw [AnchoredBy, hf] at h
    cases f with
    | captured c => exact h.of_captured
    | region r =>
      obtain ⟨begins, endedCarried, continued⟩ := η
      cases begins with
      | nil =>
        -- what is from before has no bound
        have hbound : r.bound = none := (h.of_region _ List.mem_cons_self).1
        cases hbound.symm.trans hb
      | cons b begins => exact h.of_began

end LineState.AnchoredBy

/-! ### Runs -/

/-- What was opened on some frames when captures were entered is a capture at most. -/
theorem CapturesEntered.exists_above {s : LineState} {m : Match} {path : ScopePath}
    {grammar : GrammarId} {captures : Captures} {e : LineState × Bool}
    (he : CapturesEntered line s m path grammar captures e) {below : List Frame}
    (h : ∃ above, s.stack.frames = above ++ below) (p : Nat) :
    ∃ above, (advance m p e).stack.frames = above ++ below := by
  obtain ⟨above, habove⟩ := h
  rcases he.stack_cases with ⟨hstack, -⟩ | ⟨c, hstack, -⟩
  · exact ⟨above, by rw [← habove, ← hstack]; rfl⟩
  · refine ⟨.captured c :: above, ?_⟩
    rw [List.cons_append, ← habove]
    show e.1.stack.frames = _
    rw [hstack]
    rfl

/-- A capture is open on the frames, and maybe others in it. -/
def LineState.HoldsOn (s : LineState) (below : List Frame) : Prop :=
  ∃ above c, s.stack.frames = above ++ .captured c :: below

theorem LineState.HoldsOn.dropPassed {s : LineState} {below : List Frame} (h : s.HoldsOn below) :
    s.dropPassed.HoldsOn below := by
  obtain ⟨above, c, habove⟩ := h
  rcases s.dropPassed_eq with heq | ⟨c', below', hf, heq⟩
  · rw [heq]
    exact ⟨above, c, habove⟩
  · rw [heq]
    rw [habove] at hf
    cases above with
    | nil =>
      obtain ⟨-, rfl⟩ := List.cons.inj hf
      exact ⟨[], _, rfl⟩
    | cons f above =>
      obtain ⟨-, rfl⟩ := List.cons.inj hf
      exact ⟨_ :: above, c, rfl⟩

/-- **A scan that is to stop when a capture is closed leaves it open as long as it goes on.** -/
theorem StepsTo.holdsOn {s s' : LineState} {hap : Happening} {below : List Frame}
    (hstep : StepsTo ctx line (some (below.length + 1)) s hap s') (h : s.HoldsOn below) :
    s'.HoldsOn below := by
  obtain ⟨above, c, habove⟩ := h.dropPassed
  cases hstep with
  | applied _ m candidate hfound happlied =>
    have hentered : ∀ {s' : LineState} {path grammar captures e},
        CapturesEntered line s' m path grammar captures e →
        (∃ above, s'.stack.frames = above ++ .captured c :: below) → ∀ p,
          (advance m p e).HoldsOn below := by
      intro s' path grammar captures e he hs' p
      obtain ⟨above, h⟩ := he.exists_above hs' p
      exact ⟨above, c, h⟩
    cases applied_of_applyMatch happlied with
    | ended r below' rule e hf _ _ he =>
      -- a region that ends lies above the capture
      refine hentered he ?_ _
      have hf : s.dropPassed.stack.frames = .region r :: below' := hf
      rw [habove] at hf
      cases above with
      | nil => cases hf
      | cons f above => exact ⟨above, (List.cons.inj hf).2.symm⟩
    | matched ref rule r names e _ _ _ _ he => exact hentered he ⟨above, habove⟩ _
    | began ref rule r region e _ _ _ _ he =>
      exact hentered he ⟨.region region :: above, congrArg _ habove⟩ _
  | opened t hfound ht =>
    obtain ⟨c', below', rest, hf, -⟩ := LineState.exists_captured_of_nextCapture? ht
    rw [LineState.HoldsOn, LineState.openCapture_stack hf]
    rw [habove] at hf
    cases above with
    | nil =>
      obtain ⟨-, rfl⟩ := List.cons.inj hf
      exact ⟨[.captured (c'.child t)], _, rfl⟩
    | cons f above =>
      obtain ⟨-, rfl⟩ := List.cons.inj hf
      exact ⟨.captured (c'.child t) :: _ :: above, c, rfl⟩
  | closed _ f below' hfound hnext hf hclosed =>
    obtain ⟨-, hdepth, rfl⟩ := closed_of_closeAtBound hf hclosed
    rw [habove] at hf
    cases above with
    | nil =>
      obtain ⟨-, rfl⟩ := List.cons.inj hf
      exact absurd rfl hdepth
    | cons f above =>
      obtain ⟨-, rfl⟩ := List.cons.inj hf
      exact ⟨above, c, rfl⟩

/-- In the scan of the captures of a region that goes on, the frame of the match is open. -/
def Stage.HoldsMatch : Stage → LineState → Prop
  | .captures passed r _ _ _, s => s.HoldsOn (.region r :: passed)
  | _, _ => True

/-- The frames and the anchor fit to what has happened in the line, in each stage of it. -/
structure Stage.AnchoredBy (stage : Stage) (tookLineEnd : Bool) (s : LineState) (η : LineHistory) :
    Prop where
  anchored : s.AnchoredBy tookLineEnd η
  /-- No end pattern is searched in a region from before but in the rest of the line. -/
  endedCarried_eq : stage ≠ .rest → η.endedCarried = false
  holds : stage.HoldsMatch s

namespace Stage.AnchoredBy

variable {start s s' : LineState} {stage stage' : Stage} {hap : Happening} {tookLineEnd : Bool}
  {η : LineHistory}

/-- Where all frames are from before, nothing began in the line. -/
theorem begins_eq_nil {s : LineState} (h : s.AnchoredBy tookLineEnd η)
    (hs : ∀ f ∈ s.stack.frames, f.IsFromBefore) : η.begins = [] := by
  have hcount : s.stack.frames.countP Frame.beganHere = 0 := by
    refine List.countP_eq_zero.2 fun f hf ↦ ?_
    cases f with
    | region r => simp [Frame.beganHere, (hs _ hf).2.2]
    | captured c => exact (hs _ hf).elim
  exact List.eq_nil_of_length_eq_zero (Anchored.length_begins h |>.trans hcount)

/-- So the frames that hold some of them are still fit to it. -/
theorem withFrames {s : LineState} {frames : List Frame} (h : s.AnchoredBy tookLineEnd η)
    (hs : ∀ f ∈ s.stack.frames, f.IsFromBefore) (hframes : frames <:+ s.stack.frames) :
    (s.withFrames frames).AnchoredBy tookLineEnd η := by
  have hbegins := begins_eq_nil h hs
  have hanchor := Anchored.anchor_eq h
  rw [hbegins] at hanchor
  show Anchored (η.base tookLineEnd) frames η.begins s.anchor
  rw [hbegins, hanchor]
  exact .before fun f hf ↦ hs f (hframes.mem hf)

/-- No region from before can end while a capture is open. -/
theorem endedCarried_note {s : LineState} {stopDepth : Option Nat} {below : List Frame}
    (h : s.AnchoredBy tookLineEnd η) (hη : η.endedCarried = false) (hholds : s.HoldsOn below)
    (hstep : StepsTo ctx line stopDepth s hap s') :
    (η.note ctx.registry hap).endedCarried = false := by
  cases hstep with
  | applied _ m c hfound happlied =>
    cases applied_of_applyMatch happlied with
    | ended r below' rule e hf =>
      obtain ⟨begins, endedCarried, continued⟩ := η
      cases begins with
      | nil =>
        have hf : s.dropPassed.stack.frames = .region r :: below' := hf
        have h := Anchored.dropPassed h
        rw [hf] at h
        obtain ⟨above, c, habove⟩ := hholds.dropPassed
        refine (h.of_region (.captured c) ?_).elim
        rw [← hf, habove]
        simp
      | cons => exact hη
    | matched =>
      rw [LineHistory.note]
      split <;> exact hη
    | began =>
      rw [LineHistory.note]
      split <;> exact hη
  | opened => exact hη
  | closed _ f => cases f <;> exact hη

/-- A region goes on: what is open is what was open at the start of the line. -/
theorem of_continued {m : Match} {before scanned : LineState} {passed inside : List Frame}
    (hη : η.endedCarried = false) (hbefore : ∀ f ∈ before.stack.frames, f.IsFromBefore) :
    (Stage.regions passed inside).AnchoredBy tookLineEnd (afterContinuation m before scanned)
      (η.note ctx.registry (.continued m)) := by
  refine ⟨?_, fun _ ↦ hη, True.intro⟩
  have hbase : (η.note ctx.registry (.continued m)).base tookLineEnd = some m.stop := by
    simp [LineHistory.note, LineHistory.base, hη]
  rw [LineState.AnchoredBy, hbase]
  exact .before hbefore

/-- **Every move keeps the anchor with the stack.** -/
theorem advances (hstart : ∀ f ∈ start.stack.frames, f.IsFromBefore)
    (hfits : stage.Fits ctx line start s) (h : stage.AnchoredBy tookLineEnd s η)
    (hmove : Advances ctx line stage s hap stage' s') :
    stage'.AnchoredBy tookLineEnd s' (η.note ctx.registry hap) := by
  have hanchored := h.anchored
  cases hmove with
  | passed => exact ⟨hanchored, fun _ ↦ h.endedCarried_eq (by simp), True.intro⟩
  | passedAll => exact ⟨hanchored, fun hne ↦ absurd rfl hne, True.intro⟩
  | discontinued passed r inside =>
    have hsuffix := (List.suffix_cons _ _).trans hfits.suffix
    exact ⟨withFrames hanchored (hfits.stack_eq ▸ hstart) hsuffix, fun hne ↦ absurd rfl hne,
      True.intro⟩
  | continued passed r inside _ inner m =>
    exact of_continued (h.endedCarried_eq (by simp)) (hfits.stack_eq ▸ hstart)
  | entered passed r inside _ inner m _ _ _ he =>
    obtain ⟨rule, -, he⟩ := he.capturesEntered
    have hregion := withFrames hanchored (hfits.stack_eq ▸ hstart) hfits.suffix
    refine ⟨Anchored.advance hregion he 0, fun _ ↦ h.endedCarried_eq (by simp), ?_⟩
    cases he with
    | opened labels => exact ⟨[], _, rfl⟩
  | left passed r inside _ before scanned m =>
    exact of_continued (h.endedCarried_eq (by simp)) (hfits.before_eq ▸ hstart)
  | scanned _ stopDepth _ _ _ hstage hstep =>
    refine ⟨hanchored.stepsTo hstep, ?_, ?_⟩
    · cases hstage with
      | captures =>
        exact fun _ ↦ endedCarried_note hanchored (h.endedCarried_eq (by simp)) h.holds hstep
      | rest => exact fun hne ↦ absurd rfl hne
    · cases hstage with
      | captures => exact StepsTo.holdsOn hstep h.holds
      | rest => exact True.intro

end Stage.AnchoredBy

/-- **The anchor follows the stack** in all states that a line comes to. -/
theorem Visits.anchoredBy {start s : LineState} {stage : Stage} {happened : List Happening}
    (hstart : ∀ f ∈ start.stack.frames, f.IsFromBefore)
    (hanchor : start.anchor = if start.stack.tookLineEnd then some 0 else none)
    (hs : Visits ctx line start happened stage s) :
    stage.AnchoredBy start.stack.tookLineEnd s (.ofHappened ctx.registry happened) := by
  induction hs with
  | start =>
    refine ⟨?_, fun _ ↦ rfl, True.intro⟩
    rw [LineState.AnchoredBy, hanchor]
    exact .before hstart
  | move hs hmove ih => exact ih.advances hstart hs.fits hmove

/-! ### The start of the document -/

/-- Nothing was matched yet, and no frame ends in the line. -/
def LineState.IsUntouched (s : LineState) : Prop :=
  s.position = 0 ∧ ∀ f ∈ s.stack.frames, f.bound? = none

/-- The innermost frame has no bound then. -/
theorem LineState.IsUntouched.bound?_eq {s : LineState} (h : s.IsUntouched) :
    s.stack.bound? = none := by
  cases hf : s.stack.frames with
  | nil => simp [Stack.bound?, hf]
  | cons f below =>
    have hbound := h.2 f (by rw [hf]; exact List.mem_cons_self)
    simpa [Stack.bound?, hf] using hbound

theorem atTextStart_stopLine (line : LineText) (s : LineState) (frames : List Frame) :
    (stopLine line s frames).atTextStart = s.atTextStart := by
  fun_induction stopLine line s frames with
  | case1 s f below b hb anchor ih => exact ih
  | case2 => rfl
  | case3 => rfl

theorem LineState.atTextStart_dropPassed (s : LineState) :
    s.dropPassed.atTextStart = s.atTextStart := by
  rw [dropPassed]
  split <;> rfl

/-- There are no captures to pass then either. -/
theorem LineState.IsUntouched.dropPassed_eq {s : LineState} (h : s.IsUntouched) :
    s.dropPassed = s := by
  rcases s.dropPassed_eq with heq | ⟨c, below, hf, -⟩
  · exact heq
  · have hbound := h.2 (.captured c) (by rw [hf]; exact List.mem_cons_self)
    cases hbound

/-- A match that leaves the anchor for the start of the document as it is takes no text. -/
theorem CapturesEntered.untouched {s : LineState} {m : Match} {path : ScopePath}
    {grammar : GrammarId} {captures : Captures} {e : LineState × Bool}
    (he : CapturesEntered line s m path grammar captures e) (hs : s.IsUntouched)
    (h : (advance m s.position e).atTextStart = true) :
    (advance m s.position e).IsUntouched := by
  have hm := (he.atTextStart_of_advance h).2
  have hposition : (advance m s.position (e.1, false)).position = 0 := by
    simp only [advance, Bool.false_eq_true, if_false, decide_eq_true_eq]
    rw [if_neg (Nat.not_lt_of_le hm), he.position_eq, hs.1]
  cases he with
  | empty => exact ⟨hposition, hs.2⟩
  | plain => exact ⟨hposition, hs.2⟩
  | opened labels hlt =>
    rw [hs.1] at hm
    exact absurd (Nat.lt_of_lt_of_le hlt hm) (Nat.not_lt_zero _)
  | flattened => exact ⟨hposition, hs.2⟩

/-- A step never brings the anchor for the start of the document back. -/
theorem TransitionOf.atTextStart_of_state {s : LineState} {stopDepth : Option Nat} {next : Step}
    (h : Transition ctx line stopDepth s next) (hnext : next.state.atTextStart = true) :
    s.atTextStart = true := by
  cases h with
  | applied m c s' _ happlied =>
    cases happlied with
    | ended _ _ _ _ _ _ _ he =>
      have hstart := (he.atTextStart_of_advance hnext).1
      exact hstart
    | matched _ _ _ _ _ _ _ _ _ he =>
      have hstart := (he.atTextStart_of_advance hnext).1
      exact hstart
    | began _ _ _ _ _ _ _ _ _ he =>
      have hstart := (he.atTextStart_of_advance hnext).1
      exact hstart
  | stuck m c =>
    rw [Step.state, atTextStart_stopLine] at hnext
    exact hnext
  | openedCapture => exact hnext
  | ended => exact hnext
  | closed => split at hnext <;> exact hnext

/-- While the anchor for the start of the document can hold, nothing was matched. -/
theorem TransitionOf.untouched {s s' : LineState} {stopDepth : Option Nat}
    (h : Transition ctx line stopDepth s (.goOn s')) (hs : s.IsUntouched)
    (hs' : s'.atTextStart = true) : s'.IsUntouched := by
  generalize hnext : Step.goOn s' = next at h
  cases h with
  | applied m c s'' _ happlied =>
    obtain rfl := Step.goOn.inj hnext
    cases happlied with
    | ended r below rule e hf _ _ he =>
      have hclosed : ∀ f ∈ below, f.bound? = none := fun f hf' ↦ hs.2 f (by
        rw [show s.stack.frames = .region r :: below from hf]
        exact List.mem_cons_of_mem _ hf')
      exact he.untouched ⟨hs.1, hclosed⟩ hs'
    | matched ref rule r names e _ _ _ _ he => exact he.untouched hs hs'
    | began ref rule r region e _ _ _ hregion he =>
      refine he.untouched ⟨hs.1, fun f hf ↦ ?_⟩ hs'
      rcases List.mem_cons.1 hf with rfl | hf
      · exact hregion.bound_eq.trans hs.bound?_eq
      · exact hs.2 f hf
  | stuck => cases hnext
  | openedCapture t ht =>
    obtain ⟨c, below, rest, hf, -⟩ := LineState.exists_captured_of_nextCapture? ht
    have hbound := hs.2 (.captured c) (by rw [hf]; exact List.mem_cons_self)
    cases hbound
  | ended => cases hnext
  | closed f below b _ hf hb =>
    have hbound := hs.2 f (by rw [hf]; exact List.mem_cons_self)
    cases hbound.symm.trans hb

/-- **The anchor for the start of the document can hold on the first line only**, and there until
something is matched. -/
theorem Visits.untouched {start s : LineState} {stage : Stage} {happened : List Happening}
    (hposition : start.position = 0) (hfirst : start.atTextStart = true → start.stack.frames = [])
    (hs : Visits ctx line start happened stage s) (h : s.atTextStart = true) :
    start.atTextStart = true ∧ s.IsUntouched := by
  induction hs with
  | start =>
    refine ⟨h, hposition, ?_⟩
    rw [hfirst h]
    simp
  | @move happened stage stage' s s' hap hs hmove ih =>
    have hfits := hs.fits
    cases hmove with
    | passed => exact ih h
    | passedAll => exact ih h
    | discontinued passed r inside =>
      obtain ⟨hstart, huntouched⟩ := ih h
      have hsuffix := (List.suffix_cons _ _).trans hfits.suffix
      exact ⟨hstart, huntouched.1, fun f hf ↦ huntouched.2 f (hsuffix.mem hf)⟩
    -- on the first line nothing is open that could go on
    | continued passed r inside _ inner m _ _ _ he =>
      obtain ⟨rule, -, he⟩ := he.capturesEntered
      have hinner : inner.atTextStart = true := (Bool.and_eq_true_iff.1 h).1
      exact absurd (hfirst (ih (he.atTextStart_eq ▸ hinner)).1) hfits.ne_nil_of_regions
    | entered passed r inside _ inner m _ _ _ he =>
      obtain ⟨rule, -, he⟩ := he.capturesEntered
      exact absurd (hfirst (ih (he.atTextStart_eq ▸ h)).1) hfits.ne_nil_of_regions
    | left passed r inside _ before scanned m hstep =>
      have hscanned : scanned.atTextStart = true := (Bool.and_eq_true_iff.1 h).1
      have hdrop := (transition_of_step hstep).atTextStart_of_state hscanned
      rw [s.atTextStart_dropPassed] at hdrop
      exact absurd (hfirst (ih hdrop).1) hfits.ne_nil_of_captures
    | scanned _ stopDepth _ _ _ hstage hstep =>
      have htransition := hstep.transition
      have hdrop := htransition.atTextStart_of_state h
      rw [s.atTextStart_dropPassed] at hdrop
      obtain ⟨hstart, huntouched⟩ := ih hdrop
      rw [huntouched.dropPassed_eq] at htransition
      exact ⟨hstart, htransition.untouched huntouched h⟩

/-! ### Searches of a document -/

namespace Session

variable {E : Engine} {r : Registry} {base : GrammarId} {s : Session}

/-- Before the first line nothing is open. -/
theorem Reachable.frames_eq_nil (hs : Reachable E r base s) (h : s.firstLine = true) :
    s.stack.frames = [] := by
  induction hs with
  | start lines hstart =>
    obtain ⟨g, injections, -, -, rfl⟩ := exists_of_ofLines hstart
    rfl
  | traced _ _ ih => exact ih h
  | taken _ ih => exact ih h
  | line hs patterns line fuel _ _ =>
    rw [tokenizeLine_session hs.lost_eq] at h
    cases h

/-- **The anchors follow the stack.** Whatever is searched in a line, the anchor for the start of a
search is live exactly if the range starts where the begin match of the innermost region stopped
that began in the line. If there is none, it depends on the regions that were open at the start of
the line: once an end pattern has closed one, the anchor is nowhere, and before that it is where the
last match stopped with which one goes on, or at the start of the line if there is none and the
begin match of the innermost one took in the end of its line. The anchor for the start of the
document is live at the start of the first line only. -/
theorem anchors_follow_stack (hs : Reachable E r base s) (patterns : PatternCache) (line : String)
    {happened : List Happening} {stage : Stage} {u : LineState}
    (hvisits : Visits (s.context (r.withPatterns patterns)) (.ofLine line)
      (.start s.stack s.firstLine (.ofLine line)) happened stage u) :
    (LineHistory.ofHappened (r.withPatterns patterns) happened).begins.length =
      u.stack.frames.countP Frame.beganHere ∧
    ∀ range live, stage.Asks (.ofLine line) u range live →
      (live.searchStart = true ↔
        (LineHistory.ofHappened (r.withPatterns patterns) happened).anchor s.stack.tookLineEnd =
          some range.start) ∧
      (live.textStart = true → s.firstLine = true ∧ range.start = 0) := by
  have hbefore : ∀ f ∈ s.stack.frames, f.IsFromBefore := by
    intro f hf
    obtain ⟨inside, below, hframes⟩ := List.append_of_mem hf
    have hcarried := hs.isCarried.frames f below ⟨inside, hframes.symm⟩
    cases f with
    | region region => exact ⟨hcarried.2.1, hcarried.2.2.1, hcarried.2.2.2⟩
    | captured c => exact hcarried
  have hanchored := (hvisits.anchoredBy hbefore rfl).anchored
  have hanchor : u.anchor =
      (LineHistory.ofHappened (r.withPatterns patterns) happened).anchor s.stack.tookLineEnd :=
    Anchored.anchor_eq hanchored
  have huntouched : u.atTextStart = true → s.firstLine = true ∧ u.IsUntouched :=
    hvisits.untouched rfl hs.frames_eq_nil
  refine ⟨Anchored.length_begins hanchored, fun range live hasks ↦ ?_⟩
  -- all searches are made at the position
  obtain ⟨hstart, rfl⟩ : range.start = u.position ∧ live = u.liveAnchors := by
    cases hasks <;> exact ⟨rfl, rfl⟩
  rw [hstart, ← hanchor]
  refine ⟨beq_iff_eq, fun htext ↦ ?_⟩
  obtain ⟨hfirst, hposition, -⟩ := huntouched htext
  exact ⟨hfirst, hposition⟩

/-- After a parenthesis the anchor is where the region began that it opened. -/
theorem anchors_follow_stack_parens :
    Visits (parensContext .literal) (.ofLine "a(") parensStart
        [.applied ⟨⟨1, 2⟩, []⟩ (.rule ⟨0, 1⟩), .passed] .rest parensState ∧
      ∀ range live, Stage.Asks (.ofLine "a(") .rest parensState range live →
        (live.searchStart = true ↔ range.start = 2) := by
  have hvisits : Visits (parensContext .literal) (.ofLine "a(") parensStart [.passed] .rest
      parensStart := Visits.start.move (.passedAll [] _)
  have hstep : StepsTo (parensContext .literal) (.ofLine "a(") none parensStart
      (.applied ⟨⟨1, 2⟩, []⟩ (.rule ⟨0, 1⟩)) parensState :=
    .applied _ _ _ (returns_of_eq nextMatch_parensStart) ⟨{}, {}, rfl⟩
  have hvisits := hvisits.move (.scanned .rest none _ _ _ .rest hstep)
  obtain ⟨-, hanchor⟩ := anchors_follow_stack (parens_reachable .literal) {} "a(" hvisits
  refine ⟨hvisits, fun range live hasks ↦ ?_⟩
  have hhistory : LineHistory.ofHappened (Registry.parens.withPatterns {})
      [.applied ⟨⟨1, 2⟩, []⟩ (.rule ⟨0, 1⟩), .passed] = { begins := [2] } := rfl
  have hlive := (hanchor range live hasks).1
  rw [hhistory] at hlive
  refine hlive.trans ⟨fun h ↦ (Option.some.inj h).symm, fun h ↦ ?_⟩
  rw [h]
  rfl

end Session

end ScopeGrammar
