import ScopeGrammar.Proofs.Capture.Preorder
import ScopeGrammar.Proofs.Tokenizer.Begun
import ScopeGrammar.Proofs.Tokenizer.Isolation

/-!
# A line in order

At every place of a line three things are in order, on which all that is said of tokens, bounds and
captures rests (`LineState.InOrder`):

* the row of tokens has reached the position, no less and no more (`TokenRow.IsAt`),
* frames that have to stop in the line lie on those that do not, and stop no later than what they
  lie on (`Stack.Tapers`),
* the captures that are still to come are sorted, and lie in their frame (`CapturedText.IsInOrder`).

Besides, no move of the line takes the position back (`Advances.position_le`). A frame that is
opened for the captures of a match takes it to the start of the match, which is not behind where the
match was searched, and the row has been extended up to there only. Captures that a match ran over
are forgotten before the next one is opened.

Frames are in the order in which they were entered, too (`LineState.EnteredInOrder`): those entered
in the line lie on all others, and none was entered past the position. That is why a look at the
innermost frames tells whether a rule was entered at the position.

Of the engine it is assumed that matches lie in the range that was searched.
-/

namespace ScopeGrammar

open Tokenizing

variable {ctx : Context} {line : LineText}

/-! ### Rows at a position -/

/-- The row is one of the line and has reached a position, as far as the content of the line
goes. -/
structure TokenRow.IsAt (line : LineText) (position : Nat) (row : TokenRow) : Prop where
  stop_eq : row.stop = line.contentStop
  reached_eq : row.reached = min position line.contentStop

namespace TokenRow.IsAt

variable {p q : Nat} {row : TokenRow} {path : ScopePath}

/-- A row that is extended is at the later of the two positions. -/
theorem extend (h : row.IsAt line p) (q : Nat) : (row.extend q path).IsAt line (max p q) := by
  refine ⟨stop_extend.trans h.stop_eq, ?_⟩
  rw [reached_extend, h.stop_eq, h.reached_eq]
  omega

/-- A row that is extended further is at the new position. -/
theorem extend_of_le (h : row.IsAt line p) (hle : p ≤ q) : (row.extend q path).IsAt line q := by
  have hextend : (row.extend q path).IsAt line (max p q) := h.extend q
  rwa [Nat.max_eq_right hle] at hextend

/-- Spans that end at a position or before it take the row no further. -/
theorem extendSpans {spans : List (Span × List ScopeName)} (h : row.IsAt line p) (hle : p ≤ q)
    (hspans : ∀ s ∈ spans, s.1.start ≤ q ∧ s.1.stop ≤ q) :
    ∃ p' ≤ q, (row.extendSpans path spans).IsAt line p' := by
  induction spans generalizing row p with
  | nil => exact ⟨p, hle, h⟩
  | cons s spans ih =>
    obtain ⟨hstart, hstop⟩ := hspans s List.mem_cons_self
    exact ih ((h.extend s.1.start).extend s.1.stop)
      (Nat.max_le.2 ⟨Nat.max_le.2 ⟨hle, hstart⟩, hstop⟩)
      fun s' hs' ↦ hspans s' (List.mem_cons_of_mem _ hs')

/-- Unless a frame is opened for a match, entering its captures takes the row to its end. -/
theorem capturesEntered {s : LineState} {m : Match} {grammar : GrammarId} {captures : Captures}
    {e : LineState × Bool} (h : s.row.IsAt line m.start) (hm : m.start ≤ m.stop)
    (he : CapturesEntered line s m path grammar captures e) :
    e.1.row.IsAt line (if e.2 then m.start else m.stop) := by
  cases he with
  | empty hempty =>
    obtain heq : m.start = m.stop := Nat.le_antisymm hm hempty
    exact heq ▸ h
  | plain => exact h.extend_of_le hm
  | opened => exact h
  | flattened labels spans _ _ _ hspans =>
    obtain ⟨p, hp, hrow⟩ := h.extendSpans hm (spans_le_of_flatten hm hspans)
    exact hrow.extend_of_le hp

end TokenRow.IsAt

/-! ### Positions -/

/-- What a match leads to that is applied where it was found: the row is at the position, and the
position is not behind the match. -/
theorem Applied.isAt {s s' : LineState} {m : Match} {c : Candidate} (hstart : s.position ≤ m.start)
    (hm : m.start ≤ m.stop) (hrow : s.row.IsAt line m.start)
    (h : Applied ctx line s m c (some s')) :
    s'.row.IsAt line s'.position ∧ m.start ≤ s'.position := by
  have hentered : ∀ stack anchor {path grammar captures e},
      CapturesEntered line { s with stack := stack, anchor := anchor } m path grammar captures e →
      (advance m s.position e).row.IsAt line (advance m s.position e).position ∧
        m.start ≤ (advance m s.position e).position := by
    intro stack anchor path grammar captures e he
    have hposition := he.position_advance hstart hm
    have hrow' : e.1.row.IsAt line (if e.2 then m.start else m.stop) :=
      TokenRow.IsAt.capturesEntered (s := { s with stack := stack, anchor := anchor }) hrow hm he
    rw [hposition]
    refine ⟨hrow', ?_⟩
    split
    · exact Nat.le_refl _
    · exact hm
  cases h with
  | ended _ _ _ _ _ _ _ he => exact hentered _ _ he
  | matched _ _ _ _ _ _ _ _ _ he => exact hentered s.stack s.anchor he
  | began _ _ _ _ _ _ _ _ _ he => exact hentered _ _ he

/-- A line that is stopped is at its end, and so is its row. -/
theorem LineState.isAt_stopLine {s : LineState} (h : ∃ p, s.row.IsAt line p) (frames : List Frame) :
    (stopLine line s frames).row.IsAt line (stopLine line s frames).position := by
  have hend : ∀ {row : TokenRow} {path p}, row.IsAt line p →
      (row.extend line.stop path).IsAt line line.stop := by
    intro row path p h
    have hextend : (row.extend line.stop path).IsAt line (max p line.stop) := h.extend line.stop
    refine ⟨hextend.stop_eq, hextend.reached_eq.trans ?_⟩
    rw [line.stop_eq]
    omega
  rw [LiesIn.position_stopLine]
  fun_induction stopLine line s frames with
  | case1 s f below b hb anchor ih =>
    obtain ⟨p, h⟩ := h
    exact ih ⟨_, h.extend b⟩
  | case2 s f below hb =>
    obtain ⟨p, h⟩ := h
    exact hend h
  | case3 s =>
    obtain ⟨p, h⟩ := h
    exact hend h

/-- **A step of a scan never goes back, and takes the row to where it goes.** The captures that lie
behind the position are forgotten. -/
theorem TransitionOf.isAt {stopDepth : Option Nat} {s : LineState} {next : Step}
    (hE : ctx.engine.StaysInRange) (hrow : s.row.IsAt line s.position)
    (hpassed : ∀ t, s.nextCapture? = some t → s.position ≤ t.span.start)
    (h : Transition ctx line stopDepth s next) :
    next.state.row.IsAt line next.state.position ∧ s.position ≤ next.state.position := by
  have hlimit : (s.atLimit line).row.IsAt line (s.atLimit line).position ∧
      s.position ≤ (s.atLimit line).position := ⟨hrow.extend (s.limit line), Nat.le_max_left _ _⟩
  cases h with
  | applied m c s' hfound happlied =>
    obtain ⟨hstart, hm, -⟩ := hE.of_reportsIn hfound.reported
    have hextend : (s.extendContent m.start).row.IsAt line m.start := hrow.extend_of_le hstart
    obtain ⟨hrow', hle⟩ := Applied.isAt (s := s.extendContent m.start) hstart hm hextend happlied
    exact ⟨hrow', Nat.le_trans hstart hle⟩
  | stuck m c hfound =>
    obtain ⟨hstart, hm, hstop⟩ := hE.of_reportsIn hfound.reported
    have hextend : (s.extendContent m.start).row.IsAt line m.start := hrow.extend_of_le hstart
    refine ⟨LineState.isAt_stopLine ⟨_, hextend⟩ _, ?_⟩
    rw [Step.state, LineState.LiesIn.position_stopLine]
    -- the match was searched in the line
    exact Nat.le_trans (Nat.le_trans (Nat.le_trans hstart hm) hstop) (range_stop_le hfound.reported)
  | openedCapture t ht =>
    have hle := hpassed t ht
    exact ⟨hrow.extend_of_le hle, hle⟩
  | ended => exact hlimit
  | closed => split <;> exact hlimit

/-! ### Bounds -/

/-- If a frame has to stop in the line, so has one that lies on it, and no later. -/
def Frame.StopsWithin (inner outer : Frame) : Prop :=
  ∀ b, outer.bound? = some b → ∃ b' ≤ b, inner.bound? = some b'

/-- The frames that have to stop in the line lie on all others, and stop no later than what they lie
on. -/
def Stack.Tapers (s : Stack) : Prop :=
  s.frames.Pairwise Frame.StopsWithin

namespace Stack

variable {s : Stack} {f : Frame} {below : List Frame}

/-- Frames without bounds taper. -/
theorem tapers_of_bound?_eq_none (h : ∀ f ∈ s.frames, f.bound? = none) : s.Tapers := by
  refine List.pairwise_of_forall_mem_list fun inner _ outer houter b hb ↦ ?_
  cases (h outer houter).symm.trans hb

/-- The outer frames of a stack that tapers do so too. -/
theorem Tapers.withFrames {frames : List Frame} (h : s.Tapers) (hsuffix : frames <:+ s.frames) :
    (s.withFrames frames).Tapers :=
  h.sublist hsuffix.sublist

/-- The innermost frame stops first. -/
theorem Tapers.exists_bound?_le (h : s.Tapers) (hf : f ∈ s.frames) {b : Nat}
    (hb : f.bound? = some b) : ∃ b' ≤ b, s.bound? = some b' := by
  rw [bound?]
  cases hframes : s.frames with
  | nil =>
    rw [hframes] at hf
    cases hf
  | cons innermost below =>
    rw [Tapers, hframes] at h
    rw [hframes] at hf
    rcases List.mem_cons.1 hf with rfl | hf
    · exact ⟨b, Nat.le_refl b, hb⟩
    · exact (List.pairwise_cons.1 h).1 f hf b hb

/-- A frame that stops no later than the innermost one can be opened on it. -/
theorem Tapers.push (h : s.Tapers) (hf : ∀ b, s.bound? = some b → ∃ b' ≤ b, f.bound? = some b') :
    (s.push f).Tapers := by
  refine List.pairwise_cons.2 ⟨fun outer houter b hb ↦ ?_, h⟩
  obtain ⟨b', hle', hb'⟩ := h.exists_bound?_le houter hb
  obtain ⟨b'', hle'', hb''⟩ := hf b' hb'
  exact ⟨b'', Nat.le_trans hle'' hle', hb''⟩

/-- A frame ends no later than the one that it lies on. -/
theorem Tapers.of_cons (h : s.Tapers) (hf : s.frames = f :: below) :
    (s.withFrames below).Tapers ∧
      ∀ b, (s.withFrames below).bound? = some b → ∃ b' ≤ b, f.bound? = some b' := by
  refine ⟨h.withFrames (hf ▸ List.suffix_cons f below), fun b hb ↦ ?_⟩
  rw [Tapers, hf] at h
  cases below with
  | nil => cases hb
  | cons outer below => exact (List.pairwise_cons.1 h).1 outer List.mem_cons_self b hb

end Stack

namespace Stack.Tapers

variable {s : LineState} {t : CaptureTree CapturedScopes}

/-- The frame that is opened for a match that was found before the innermost frame stops. -/
theorem capturesEntered {m : Match} {path : ScopePath} {grammar : GrammarId} {captures : Captures}
    {e : LineState × Bool} (h : s.stack.Tapers) (hm : ∀ b, s.stack.bound? = some b → m.stop ≤ b)
    (he : CapturesEntered line s m path grammar captures e) : e.1.stack.Tapers := by
  cases he with
  | empty => exact h
  | plain => exact h
  | opened => exact h.push fun b hb ↦ ⟨m.stop, hm b hb, rfl⟩
  | flattened => exact h

/-- A match that does not reach past the bound keeps the bounds in order. -/
theorem applied {s' : LineState} {m : Match} {c : Candidate} (h : s.stack.Tapers)
    (hm : ∀ b, s.stack.bound? = some b → m.stop ≤ b)
    (happlied : Applied ctx line s m c (some s')) : s'.stack.Tapers := by
  cases happlied with
  | ended r below rule e hf _ _ he =>
    obtain ⟨hbelow, hbound⟩ := h.of_cons hf
    refine hbelow.capturesEntered (s := { s with stack := s.stack.withFrames below, anchor := _ })
      (fun b hb ↦ ?_) he
    -- the match was found in the region, which stops no later than what it lies on
    obtain ⟨b', hle, hb'⟩ := hbound b hb
    refine Nat.le_trans (hm b' ?_) hle
    rw [Stack.bound?, hf]
    exact hb'
  | matched ref rule r names e _ _ _ _ he => exact h.capturesEntered hm he
  | began ref rule r region e _ _ _ hregion he =>
    have hopened : (s.stack.push (.region region)).Tapers :=
      h.push fun b hb ↦ ⟨b, Nat.le_refl b, hregion.bound_eq.trans hb⟩
    refine hopened.capturesEntered (s := { s with stack := _, anchor := _ }) (fun b hb ↦ ?_) he
    exact hm b (hregion.bound_eq.symm.trans hb)

/-- Passing over captures changes no bound. -/
theorem dropPassed (h : s.stack.Tapers) : s.dropPassed.stack.Tapers := by
  rcases s.dropPassed_eq with heq | ⟨c, below, hf, heq⟩
  · rwa [heq]
  · rw [heq]
    exact (h.of_cons hf).1.push (h.of_cons hf).2

/-- A capture that is entered ends no later than the one that it lies in. -/
theorem openCapture (h : s.stack.Tapers) (hnested : s.stack.Layered fun _ f ↦ f.IsNested)
    (ht : s.nextCapture? = some t) : (s.openCapture t).stack.Tapers := by
  obtain ⟨c, below, rest, hf, hpending⟩ := LineState.exists_captured_of_nextCapture? ht
  obtain ⟨hbelow, hbound⟩ := h.of_cons hf
  have hc := ((Stack.layered_iff_of_cons hf).1 hnested).1
  have hinside := (hc.2 t (by rw [hpending]; exact List.mem_cons_self)).inside
  have hparent : ((s.stack.withFrames below).push
      (.captured { c with pending := c.pending.tail })).Tapers := hbelow.push hbound
  rw [LineState.openCapture_stack hf]
  refine hparent.push fun b hb ↦ ⟨t.span.stop, ?_, rfl⟩
  obtain rfl : c.stop = b := Option.some.inj hb
  exact hinside.2

/-- Every step keeps the bounds in order. -/
theorem transition (hE : ctx.engine.StaysInRange) {stopDepth : Option Nat} {next : Step}
    (h : s.stack.Tapers) (hnested : s.stack.Layered fun _ f ↦ f.IsNested)
    (ht : Transition ctx line stopDepth s next) : next.state.stack.Tapers := by
  cases ht with
  | applied m c s' hfound happlied =>
    refine h.applied (s := s.extendContent m.start) (fun b hb ↦ ?_) happlied
    have hlimit : s.limit line = b := by
      rw [LineState.limit, show s.stack.bound? = some b from hb]
      rfl
    exact hlimit ▸ (hE.of_reportsIn hfound.reported).2.2
  | stuck m c =>
    obtain ⟨left, hleft, hstack⟩ := exists_stack_of_stopLine line (s.extendContent m.start)
      s.stack.frames
    rw [Step.state, hstack]
    exact h.withFrames hleft
  | openedCapture t ht => exact h.openCapture hnested ht
  | ended => exact h
  | closed f below b _ hf => split <;> exact (h.of_cons hf).1

end Stack.Tapers

/-! ### Captures that are still to come -/

/-- The captures that are still to come are sorted by where they start, and lie in the frame. -/
structure CapturedText.IsInOrder (c : CapturedText) : Prop where
  sorted : c.pending.Pairwise fun a b ↦ a.span.start ≤ b.span.start
  inside : ∀ t ∈ c.pending, c.start ≤ t.span.start ∧ t.span.stop ≤ c.stop

/-- The captures that are still to come in the frame, with those in them, are sorted by where they
start. -/
def Frame.IsSorted : Frame → Prop
  | .region _ => True
  | .captured c => (CaptureTree.preorder c.pending).Pairwise fun a b ↦ a.2.1.start ≤ b.2.1.start

/-- Captures stay sorted all through a line. -/
theorem sorted_invariant (ctx : Context) (line : LineText) :
    FrameInvariant ctx line (fun _ _ ↦ True) fun _ f ↦ f.IsSorted where
  pending h hsuffix := h.sublist (CaptureTree.preorder_sublist_of_suffix hsuffix)
  child := by
    intro s c t h ht
    obtain ⟨rest, hpending⟩ := List.head?_eq_some_iff.1 ht
    rw [Frame.IsSorted, hpending, CaptureTree.preorder_cons] at h
    exact h.sublist ((List.sublist_append_left _ _).cons _)
  began _ _ _ _ _ _ := True.intro
  entered := by
    intro s range m path grammar captures labels _ _ _ _ _ _
    show (CaptureTree.preorder (CaptureTree.forest m.clipped labels)).Pairwise _
    rw [CaptureTree.preorder_forest]
    refine (CaptureTree.pairwise_itemLE _).imp fun {a b} hle ↦ ?_
    rw [CaptureTree.itemLE_iff] at hle
    omega

/-- Captures that are sorted with all that lies in them are sorted by themselves. -/
theorem CapturedText.isInOrder_of_isSorted {c : CapturedText}
    (hsorted : (Frame.captured c).IsSorted)
    (hnested : (Frame.captured c).IsNested) : c.IsInOrder where
  sorted := by
    have hroots : (c.pending.map CaptureTree.item).Pairwise fun a b ↦ a.2.1.start ≤ b.2.1.start :=
      hsorted.sublist (CaptureTree.map_item_sublist_preorder c.pending)
    exact (List.pairwise_map (f := CaptureTree.item)).1 hroots
  inside t ht := (hnested.2 t ht).inside

/-! ### Lines -/

/-- A step of a scan, with the passed captures forgotten first. -/
theorem isAt_of_step {stopDepth : Option Nat} {s : LineState} {next : Step}
    (hE : ctx.engine.StaysInRange) (hrow : s.row.IsAt line s.position)
    (h : Transition ctx line stopDepth s.dropPassed next) :
    next.state.row.IsAt line next.state.position ∧ s.position ≤ next.state.position := by
  rw [← s.position_dropPassed, ← s.row_dropPassed] at hrow
  rw [← s.position_dropPassed]
  exact h.isAt hE hrow fun _ ↦ LineState.position_le_of_dropPassed

/-- Where a region goes on that was scanned up to a position. -/
theorem position_afterContinuation_of_le {m : Match} {before scanned : LineState}
    (hle : before.position ≤ scanned.position) :
    (afterContinuation m before scanned).position = max scanned.position m.stop := by
  rw [position_afterContinuation]
  split
  · rfl
  · omega

/-- Where no frame stops in the line, all are regions. -/
theorem Stack.layered_of_bound?_eq_none {s : Stack} {G : Stack → Frame → Prop}
    (h : ∀ f ∈ s.frames, f.bound? = none) (hG : ∀ below r, G below (.region r)) : s.Layered G := by
  intro f below hsuffix
  cases f with
  | region r => exact hG _ r
  | captured c => cases h _ (hsuffix.mem List.mem_cons_self)

/-- What a line is started with: nothing of it is done, and nothing is open that ends in a line. -/
structure LineState.IsStart (line : LineText) (s : LineState) : Prop where
  row : s.row.IsAt line s.position
  unbounded : ∀ f ∈ s.stack.frames, f.bound? = none

namespace LineState.IsStart

variable {s : LineState}

/-- The regions of earlier lines hold no captures that could stick out. -/
theorem nested (h : s.IsStart line) : s.stack.Layered fun _ f ↦ f.IsNested :=
  Stack.layered_of_bound?_eq_none h.unbounded fun _ _ ↦ True.intro

/-- The regions of earlier lines hold no captures that could be out of order. -/
theorem sorted (h : s.IsStart line) : s.stack.Layered fun _ f ↦ f.IsSorted :=
  Stack.layered_of_bound?_eq_none h.unbounded fun _ _ ↦ True.intro

/-- At the start of a line the row has reached the position. -/
theorem reaches (h : s.IsStart line) : s.Reaches := by
  rw [Reaches, h.row.stop_eq, h.row.reached_eq]

end LineState.IsStart

/-- The state is in order. -/
structure LineState.InOrder (line : LineText) (s : LineState) : Prop where
  row : s.row.IsAt line s.position
  tapers : s.stack.Tapers
  pending : ∀ c, .captured c ∈ s.stack.frames → c.IsInOrder

/-- A state is in order if its row is at its position, its bounds taper, and its captures are sorted
and nested. -/
theorem LineState.inOrder_of_layered {s : LineState} (hrow : s.row.IsAt line s.position)
    (htapers : s.stack.Tapers) (hsorted : s.stack.Layered fun _ f ↦ f.IsSorted)
    (hnested : s.stack.Layered fun _ f ↦ f.IsNested) : s.InOrder line where
  row := hrow
  tapers := htapers
  pending c hc := by
    obtain ⟨inside, below, hframes⟩ := List.append_of_mem hc
    have hsuffix : .captured c :: below <:+ s.stack.frames := ⟨inside, hframes.symm⟩
    exact CapturedText.isInOrder_of_isSorted (hsorted _ _ hsuffix) (hnested _ _ hsuffix)

namespace Visits

variable {start s s' : LineState} {stage stage' : Stage} {happened : List Happening} {h : Happening}

/-- **No move takes the position back, and the row is taken to where it goes.** -/
theorem isAt_of_advances (hE : ctx.engine.StaysInRange) (hstart : start.IsStart line)
    (hs : Visits ctx line start happened stage s) (hrow : s.row.IsAt line s.position)
    (hmove : Advances ctx line stage s h stage' s') :
    s'.row.IsAt line s'.position ∧ s.position ≤ s'.position := by
  cases hmove with
  | passed => exact ⟨hrow, Nat.le_refl _⟩
  | passedAll => exact ⟨hrow, Nat.le_refl _⟩
  | discontinued => exact ⟨hrow, Nat.le_refl _⟩
  | continued passed r inside _ inner m _ hsearch hm he =>
    obtain ⟨rule, -, he⟩ := he.capturesEntered
    obtain ⟨-, hle, -⟩ := hE.of_reportsIn hsearch.reportsIn
    have hinner : inner.row.IsAt line m.stop :=
      TokenRow.IsAt.capturesEntered (s := s.withFrames (.region r :: passed)) (hm ▸ hrow) hle he
    have hposition : inner.position = s.position := he.position_eq
    rw [position_afterContinuation_of_le (Nat.le_of_eq hposition.symm), hposition, ← hm,
      Nat.max_eq_right hle]
    exact ⟨hinner, hle⟩
  | entered passed r inside _ inner m _ _ _ he =>
    obtain ⟨rule, -, he⟩ := he.capturesEntered
    cases he with
    | opened => exact ⟨hrow, Nat.le_refl _⟩
  | left passed r inside _ before scanned m hstep =>
    have hstep := transition_of_step hstep
    obtain ⟨hscanned, hle⟩ := isAt_of_step hE hrow hstep
    obtain ⟨opened, c, above, hstop, hisolated⟩ := (hs.reaches hE hstart.nested hstart.reaches).2
    cases hs.fits with
    | captures _ _ _ _ _ _ _ _ hreported hm =>
      obtain ⟨-, hmatch, hline⟩ := hE.of_reportsIn hreported
      -- the captures were scanned to the end of the match, or to that of the line
      have hdone : IsolatedStep ctx line (some ((Frame.region r :: passed).length + 1)) opened c
          (.region r :: passed) s.dropPassed (.done scanned) :=
        hisolated.step hE (hs.nested hE hstart.nested) (by simp) hstep
      have hend : m.stop ≤ scanned.position := hstop ▸ hdone.stop_le_of_done (hstop ▸ hline)
      rw [position_afterContinuation_of_le (hm ▸ Nat.le_trans hmatch hend), Nat.max_eq_left hend]
      exact ⟨hscanned, hle⟩
  | scanned _ stopDepth _ _ _ hstage hstep => exact isAt_of_step hE hrow hstep.transition

/-- The rows of a line are always at the position. -/
theorem isAt (hE : ctx.engine.StaysInRange) (hstart : start.IsStart line)
    (hs : Visits ctx line start happened stage s) : s.row.IsAt line s.position := by
  induction hs with
  | start => exact hstart.row
  | move hs hmove ih => exact (hs.isAt_of_advances hE hstart ih hmove).1

/-- The stacks of a line always taper. -/
theorem tapers (hE : ctx.engine.StaysInRange) (hstart : start.IsStart line)
    (hs : Visits ctx line start happened stage s) : s.stack.Tapers := by
  have htapers := Stack.tapers_of_bound?_eq_none hstart.unbounded
  induction hs with
  | start => exact htapers
  | @move happened stage stage' s s' h hs hmove ih =>
    have hfits := hs.fits
    cases hmove with
    | passed => exact ih
    | passedAll => exact ih
    | discontinued => exact ih.withFrames ((List.suffix_cons _ _).trans hfits.suffix)
    | continued => exact ih
    | entered passed r inside _ inner m _ _ _ he =>
      obtain ⟨rule, -, he⟩ := he.capturesEntered
      have hframes : (s.stack.withFrames (.region r :: passed)).Tapers := ih.withFrames hfits.suffix
      refine hframes.capturesEntered (s := s.withFrames (.region r :: passed)) (fun b hb ↦ ?_) he
      -- none of the frames below that of the match stops in the line
      have hr : .region r ∈ start.stack.frames :=
        hfits.stack_eq ▸ hfits.suffix.mem List.mem_cons_self
      cases (hstart.unbounded _ hr).symm.trans hb
    | left => exact hfits.before_eq ▸ htapers
    | scanned _ stopDepth _ _ _ hstage hstep =>
      have hinvariant : FrameInvariant ctx line (fun _ _ ↦ True) fun _ f ↦ f.IsNested :=
        nested_invariant hE
      exact ih.dropPassed.transition hE (hinvariant.dropPassed (hs.nested hE hstart.nested))
        hstep.transition

/-- **All states of a line are in order.** -/
theorem inOrder (hE : ctx.engine.StaysInRange) (hstart : start.IsStart line)
    (hs : Visits ctx line start happened stage s) : s.InOrder line :=
  LineState.inOrder_of_layered (hs.isAt hE hstart) (hs.tapers hE hstart)
    (hs.of_invariant (sorted_invariant ctx line).lineInvariant hstart.sorted)
    (hs.nested hE hstart.nested)

/-- So is what the last step of a scan leads to. -/
theorem inOrder_of_done (hE : ctx.engine.StaysInRange) (hstart : start.IsStart line)
    (hs : Visits ctx line start happened stage s) {stopDepth : Option Nat}
    (hstep : Returns (step ctx line stopDepth s) (.done s')) :
    s'.InOrder line ∧ s.position ≤ s'.position := by
  have hnested : FrameInvariant ctx line (fun _ _ ↦ True) fun _ f ↦ f.IsNested :=
    nested_invariant hE
  have hlayered := hs.nested hE hstart.nested
  have hsorted := hs.of_invariant (sorted_invariant ctx line).lineInvariant hstart.sorted
  have ht := transition_of_step hstep
  obtain ⟨hrow, hle⟩ := isAt_of_step hE (hs.isAt hE hstart) ht
  have htapers : s'.stack.Tapers :=
    (hs.tapers hE hstart).dropPassed.transition hE (hnested.dropPassed hlayered) ht
  exact ⟨LineState.inOrder_of_layered hrow htapers
    ((sorted_invariant ctx line).lineInvariant.step hsorted hstep)
    (hnested.lineInvariant.step hlayered hstep), hle⟩

/-- **The position of a line never goes back.** -/
theorem position_le (hE : ctx.engine.StaysInRange) (hstart : start.IsStart line)
    (hs : Visits ctx line start happened stage s) {b : Stage × LineState}
    (h : MovesTo ctx line (stage, s) b) : s.position ≤ b.2.position := by
  induction h with
  | refl => exact Nat.le_refl _
  | tail hmoves hmove ih =>
    obtain ⟨hap, hmove⟩ := hmove
    obtain ⟨happened', hs'⟩ := hs.exists_of_movesTo hmoves
    exact Nat.le_trans ih (hs'.isAt_of_advances hE hstart (hs'.isAt hE hstart) hmove).2

end Visits

namespace Session

variable {E : Engine} {r : Registry} {base : GrammarId} {s : Session}

/-- The state that a line of a document is started with. -/
theorem Reachable.isStart (hs : Reachable E r base s) (line : LineText) :
    (LineState.start s.stack s.firstLine line).IsStart line where
  row := ⟨rfl, (Nat.zero_min _).symm⟩
  unbounded := hs.isCarried.bound?_eq_none

/-- **Lines stay in order.** At every place of a line the row of tokens has reached the position and
no more, the frames that stop in the line lie on all others and stop within each other, and the
captures that are still to come are sorted and lie in their frames. No move takes the position back.
The same holds of what a scan from there returns, and going through the regions that were open. -/
theorem lines_in_order (hE : E.StaysInRange) (hs : Reachable E r base s) (patterns : PatternCache)
    (line : String) {happened : List Happening} {stage : Stage} {u : LineState}
    (hvisits : Visits (s.context (r.withPatterns patterns)) (.ofLine line)
      (.start s.stack s.firstLine (.ofLine line)) happened stage u) :
    u.InOrder (.ofLine line) ∧
      (∀ b, MovesTo (s.context (r.withPatterns patterns)) (.ofLine line) (stage, u) b →
        u.position ≤ b.2.position) ∧
      (∀ stopDepth fuel v, stage.Scans stopDepth →
        Returns (scan (s.context (r.withPatterns patterns)) (.ofLine line) stopDepth fuel u) v →
          v.InOrder (.ofLine line) ∧ u.position ≤ v.position) ∧
      (∀ passed inside fuel v, stage = .regions passed inside →
        Returns (continueRegions (s.context (r.withPatterns patterns)) (.ofLine line) fuel passed
          inside u) v → v.InOrder (.ofLine line) ∧ u.position ≤ v.position) := by
  have hE' : (s.context (r.withPatterns patterns)).engine.StaysInRange :=
    hs.engine_context _ ▸ hE
  have hstart := hs.isStart (.ofLine line)
  refine ⟨hvisits.inOrder hE' hstart, fun b ↦ hvisits.position_le hE' hstart, ?_, ?_⟩
  · intro stopDepth fuel v hstage hscan
    obtain ⟨last, hmoves, hdone⟩ := MovesTo.exists_of_scan hstage hscan
    obtain ⟨happened', hlast⟩ := hvisits.exists_of_movesTo hmoves
    obtain ⟨hv, hle⟩ := hlast.inOrder_of_done hE' hstart hdone
    exact ⟨hv, Nat.le_trans (hvisits.position_le hE' hstart hmoves) hle⟩
  · rintro passed inside fuel v rfl hcontinue
    have hmoves := MovesTo.of_continueRegions hcontinue
    obtain ⟨happened', hv⟩ := hvisits.exists_of_movesTo hmoves
    exact ⟨hv.inOrder hE' hstart, hvisits.position_le hE' hstart hmoves⟩

/-- On the line `a` the rule that matches its own capture has its match as a capture still to come,
in the frame that was opened for the match. -/
theorem lines_in_order_recapture :
    Engine.literal.StaysInRange ∧ Reachable .literal .recapture 0 recapture ∧
      (∃ happened, Visits recaptureContext (.ofLine "a") (recaptureState [] true) happened .rest
        (recaptureState [.captured (recaptureText none [recaptureTree])] false)) ∧
      (recaptureState [.captured (recaptureText none [recaptureTree])] false).InOrder
        (.ofLine "a") := by
  have hmemory : Memory.Agrees recaptureContext {} := by
    intro ref kind refs hrefs
    simp at hrefs
  obtain ⟨memory, -, hstep⟩ := exists_step_recapture hmemory true (.inl rfl)
  have hstart : Visits recaptureContext (.ofLine "a") (recaptureState [] true) [.passed] .rest
      (recaptureState [] true) := Visits.start.move (.passedAll [] _)
  obtain ⟨happened, hvisits⟩ := hstart.exists_of_step .rest (returns_of_eq hstep)
  exact ⟨Engine.literal_staysInRange, recapture_reachable, ⟨happened, hvisits⟩,
    (lines_in_order Engine.literal_staysInRange recapture_reachable {} "a" hvisits).1⟩

end Session

/-! ### Where frames were entered -/

/-- The frames that were entered in the line lie on all others, one after the other, and none was
entered past the position. So a rule was entered at the position if any frame of the rule was. -/
structure LineState.EnteredInOrder (s : LineState) : Prop where
  since : s.stack.frames.Pairwise Frame.EnteredSince
  le_position : ∀ f ∈ s.stack.frames, ∀ p, f.enteredAt? = some p → p ≤ s.position
  hasEnteredAt_iff : ∀ ref, s.stack.hasEnteredAt ref s.position = true ↔
    ∃ f ∈ s.stack.frames, f.owner? = some ref ∧ f.enteredAt? = some s.position

/-- Frames that were begun by matches one after the other were entered in that order. -/
theorem LineState.BegunBy.enteredInOrder {s : LineState} {ms : List Match} (h : s.BegunBy ms) :
    s.EnteredInOrder where
  since := h.pairwise_enteredSince
  le_position _ hf _ hp := h.enteredAt_le hf hp
  hasEnteredAt_iff _ := h.hasEnteredAt_iff

/-- A scan ends with outer frames of those that were open. -/
theorem TransitionOf.frames_suffix_of_done {stopDepth : Option Nat} {s s' : LineState}
    (h : Transition ctx line stopDepth s (.done s')) : s'.stack.frames <:+ s.stack.frames := by
  generalize hnext : Step.done s' = next at h
  cases h with
  | applied => cases hnext
  | stuck m c =>
    obtain ⟨left, hleft, hstack⟩ := exists_stack_of_stopLine line (s.extendContent m.start)
      s.stack.frames
    obtain rfl := Step.done.inj hnext
    rw [hstack]
    exact hleft
  | openedCapture => cases hnext
  | ended =>
    obtain rfl := Step.done.inj hnext
    exact List.suffix_rfl
  | closed f below b _ hf =>
    split at hnext
    · obtain rfl := Step.done.inj hnext
      exact hf ▸ List.suffix_cons f below
    · cases hnext

/-- The frames that a line leaves were begun by matches as well. -/
theorem Visits.exists_begunBy_of_done (hE : ctx.engine.StaysInRange) {start s s' : LineState}
    (hstart : start.IsStart line) (hbefore : ∀ f ∈ start.stack.frames, f.IsFromBefore)
    {happened : List Happening} {stage : Stage} (hs : Visits ctx line start happened stage s)
    {stopDepth : Option Nat} (hstep : Returns (step ctx line stopDepth s) (.done s')) :
    ∃ ms, s'.BegunBy ms := by
  have hbegun : Begun s.dropPassed.position s.dropPassed.stack.frames _ :=
    (hs.begunBy hE hbefore).dropPassed
  rw [s.position_dropPassed] at hbegun
  obtain ⟨ms, h⟩ := hbegun.exists_of_suffix (transition_of_step hstep).frames_suffix_of_done
  exact ⟨ms, h.mono (hs.inOrder_of_done hE hstart hstep).2⟩

namespace Session

variable {E : Engine} {r : Registry} {base : GrammarId} {s : Session}

/-- **Frames are entered in order.** At every place of a line, and in what a scan from there
returns, the frames that were entered in the line lie on all others, in the order in which they were
entered, and so it suffices to look at the innermost ones to tell whether a rule was entered at the
position. -/
theorem frames_entered_in_order (hE : E.StaysInRange) (hs : Reachable E r base s)
    (patterns : PatternCache) (line : String) {happened : List Happening} {stage : Stage}
    {u : LineState}
    (hvisits : Visits (s.context (r.withPatterns patterns)) (.ofLine line)
      (.start s.stack s.firstLine (.ofLine line)) happened stage u) :
    u.EnteredInOrder ∧
      ∀ stopDepth fuel v, stage.Scans stopDepth →
        Returns (scan (s.context (r.withPatterns patterns)) (.ofLine line) stopDepth fuel u) v →
          v.EnteredInOrder := by
  have hE' : (s.context (r.withPatterns patterns)).engine.StaysInRange :=
    hs.engine_context _ ▸ hE
  have hbefore := hs.isFromBefore
  have hbegun := hvisits.begunBy hE' hbefore
  refine ⟨hbegun.enteredInOrder, fun stopDepth fuel v hstage hscan ↦ ?_⟩
  obtain ⟨last, hmoves, hdone⟩ := MovesTo.exists_of_scan hstage hscan
  obtain ⟨happened', hlast⟩ := hvisits.exists_of_movesTo hmoves
  obtain ⟨ms, hv⟩ := hlast.exists_begunBy_of_done hE' (hs.isStart _) hbefore hdone
  exact hv.enteredInOrder

/-- On the line `ax` a region that begins before an `x` is entered from the start of the line, and
again from before the `x`. The rule of both was entered there, as the inner one tells. -/
theorem frames_entered_in_order_lookahead :
    Engine.lookahead.StaysInRange ∧ Reachable .lookahead .lookahead 0 (lookahead .lookahead) ∧
      (∃ happened, Visits (lookaheadContext .lookahead) (.ofLine "ax") lookaheadStart happened .rest
        (lookaheadState [lookaheadRegion (some 1) 1, lookaheadRegion none 0])) ∧
      (lookaheadState [lookaheadRegion (some 1) 1, lookaheadRegion none 0]).EnteredInOrder := by
  have hreachable := lookahead_reachable .lookahead
  have hvisits := visits_lookahead findsAhead_lookahead
  exact ⟨Engine.lookahead_staysInRange, hreachable, ⟨_, hvisits⟩,
    (frames_entered_in_order Engine.lookahead_staysInRange hreachable {} "ax" hvisits).1⟩

end Session

end ScopeGrammar
