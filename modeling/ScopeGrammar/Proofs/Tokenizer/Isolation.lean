import ScopeGrammar.Proofs.Tokenizer.Remembered
import ScopeGrammar.Proofs.Tokenizer.Rows

/-!
# What is inside a capture stays inside

From when a frame is opened for a capture until it is closed, nothing below it changes, nothing
above it outlasts it, and the scan neither leaves its text nor gives tokens to any other
(`Isolated`). The frame is closed at its end, where the search anchor is back at where it was
(`anchorUnder`), or with the whole line because the rules are stuck: these are all the ways in which
a step can lead out of it (`Isolated.step`).

Regions that begin inside the capture take its bound, and matches are searched up to that bound
only, which is why of the engine it is assumed that matches lie in the range that was searched. That
captures inside of it lie in its text is how captures nest.
-/

namespace ScopeGrammar

open Tokenizing

variable {ctx : Context} {line : LineText}

/-! ### Captures that nest -/

/-- The captures that are still to come in the frame lie in it, one in the other. -/
def Frame.IsNested : Frame → Prop
  | .region _ => True
  | .captured c => c.start ≤ c.stop ∧ ∀ t ∈ c.pending, t.NestedIn ⟨c.start, c.stop⟩

/-- Captures nest all through a line. -/
theorem nested_invariant (hE : ctx.engine.StaysInRange) :
    FrameInvariant ctx line (fun _ _ ↦ True) fun _ f ↦ f.IsNested where
  pending h hsuffix := ⟨h.1, fun t ht ↦ h.2 t (hsuffix.mem ht)⟩
  child := by
    intro s c t h ht
    have hnested := h.2 t (List.mem_of_mem_head? ht)
    exact ⟨Nat.le_of_lt hnested.nonempty, hnested.children⟩
  began _ _ _ _ _ _ := True.intro
  entered := by
    intro s range m path grammar captures labels _ _ hm _ _ _
    obtain ⟨-, hle, -⟩ := hE.of_reportsIn hm
    exact ⟨hle, CaptureTree.nestedIn_of_mem_clipped hle⟩

/-! ### Frames above a capture -/

/-- The anchor that is left when some frames are closed at their bounds, innermost first: every
region takes it back to where it was before the region began. -/
def anchorUnder (above : List Frame) (anchor : Option Nat) : Option Nat :=
  above.foldl
    (fun anchor f ↦ match f with
      | .region r => r.anchorBefore
      | .captured _ => anchor)
    anchor

/-- The state is one inside a capture `c`, which was opened in the state `opened` on the frames
`below`; `above` are the frames that were opened in it since. -/
structure Isolated (opened : LineState) (c : CapturedText) (below above : List Frame)
    (s : LineState) : Prop where
  /-- What was open when the capture was opened is still open. -/
  stack_eq : ∃ pending, pending <:+ c.pending ∧
    s.stack = opened.stack.withFrames (above ++ .captured { c with pending := pending } :: below)
  /-- All that was opened since ends with the capture. -/
  bounded : ∀ f ∈ above, ∃ b, f.bound? = some b ∧ b ≤ c.stop
  start_le : c.start ≤ s.position
  le_stop : s.position ≤ c.stop
  /-- What was opened since takes the anchor back to where it was. -/
  anchor_eq : anchorUnder above s.anchor = opened.anchor
  /-- Tokens were given to the text of the capture only. -/
  grows : opened.row.GrowsIn ⟨c.start, c.stop⟩ s.row
  reached : min c.start s.row.stop ≤ s.row.reached

/-- The state is one in which a capture is no longer open, and the stack and the anchor are as they
were when it was opened. -/
structure Released (opened : LineState) (c : CapturedText) (below : List Frame) (s : LineState) :
    Prop where
  stack_eq : s.stack = opened.stack.withFrames below
  anchor_eq : s.anchor = opened.anchor
  grows : opened.row.GrowsIn ⟨c.start, c.stop⟩ s.row

/-- What a step leads to from inside a capture. -/
inductive IsolatedStep (ctx : Context) (line : LineText) (stopDepth : Option Nat)
    (opened : LineState) (c : CapturedText) (below : List Frame) (s : LineState) : Step → Prop
  /-- The scan goes on inside the capture. -/
  | inside (above : List Frame) (s' : LineState) (h : Isolated opened c below above s') :
      IsolatedStep ctx line stopDepth opened c below s (.goOn s')
  /-- The capture is closed at its end, and the scan goes on unless it was to stop there. -/
  | closed (s' : LineState) (hposition : s'.position = c.stop) (h : Released opened c below s') :
      IsolatedStep ctx line stopDepth opened c below s
        (if stopDepth = some (below.length + 1) then .done s' else .goOn s')
  /-- The rules are stuck, and the line is closed with all that is open in it. -/
  | stuck (m : Match) (candidate : Candidate) (s' : LineState)
      (happlied : Applied ctx line (s.extendContent m.start) m candidate none)
      (h : Released opened c below s') :
      IsolatedStep ctx line stopDepth opened c below s (.done (stopLine line s' below))

/-- To close the frames of a line is to close those given, whatever else the stack holds. -/
theorem stopLine_withFrames (line : LineText) (s : LineState) (held frames : List Frame) :
    stopLine line (s.withFrames held) frames = stopLine line s frames := by
  fun_induction stopLine line s frames with
  | case1 s f below b hb anchor ih =>
    rw [stopLine.eq_def]
    simp only [hb]
    exact ih
  | case2 s f below hb =>
    rw [stopLine.eq_def]
    simp only [hb]
    rfl
  | case3 s => rfl

/-- Frames that end with a capture are closed, innermost first, and then the capture is. -/
theorem exists_released_of_stopLine {opened s : LineState} {c : CapturedText}
    {below above : List Frame} (line : LineText) (pending : List (CaptureTree CapturedScopes))
    (hbounded : ∀ f ∈ above, ∃ b, f.bound? = some b ∧ b ≤ c.stop)
    (hanchor : anchorUnder above s.anchor = opened.anchor)
    (hgrows : opened.row.GrowsIn ⟨c.start, c.stop⟩ s.row)
    (hreached : min c.start s.row.stop ≤ s.row.reached)
    (hstack : s.stack.withFrames below = opened.stack.withFrames below) :
    ∃ s', Released opened c below s' ∧
      stopLine line s (above ++ .captured { c with pending := pending } :: below) =
        stopLine line s' below := by
  induction above generalizing s with
  | nil =>
    have hextend : s.row.GrowsIn ⟨c.start, c.stop⟩ (s.row.extend c.stop c.scopes) :=
      TokenRow.growsIn_extend hreached (Nat.le_refl _)
    exact ⟨{ s.withFrames below with row := s.row.extend c.stop c.scopes },
      ⟨hstack, hanchor, hgrows.trans hextend⟩,
      (stopLine_withFrames line { s with row := s.row.extend c.stop c.scopes } below below).symm⟩
  | cons f above ih =>
    obtain ⟨⟨b, hb, hle⟩, hbounded⟩ := List.forall_mem_cons.1 hbounded
    have hextend : s.row.GrowsIn ⟨c.start, c.stop⟩ (s.row.extend b f.scopes) :=
      TokenRow.growsIn_extend hreached hle
    rw [List.cons_append, stopLine.eq_def]
    simp only [hb]
    refine ih hbounded ?_ (hgrows.trans hextend) (hextend.reached hreached) hstack
    cases f <;> exact hanchor

namespace Isolated

variable {opened s s' : LineState} {c : CapturedText} {below above : List Frame}

theorem of_extendContent {position : Nat} (h : Isolated opened c below above s)
    (hposition : position ≤ c.stop) :
    Isolated opened c below above (s.extendContent position) := by
  have hgrows : s.row.GrowsIn ⟨c.start, c.stop⟩ (s.extendContent position).row :=
    TokenRow.growsIn_extend h.reached hposition
  exact ⟨h.stack_eq, h.bounded, h.start_le, h.le_stop, h.anchor_eq, h.grows.trans hgrows,
    hgrows.reached h.reached⟩

/-- A frame that ends with the capture is opened on top of those that do. -/
theorem bounded_cons (h : Isolated opened c below above s) {f : Frame} {b : Nat}
    (hb : f.bound? = some b) (hle : b ≤ c.stop) :
    ∀ g ∈ f :: above, ∃ b, g.bound? = some b ∧ b ≤ c.stop := by
  rw [List.forall_mem_cons]
  exact ⟨⟨b, hb, hle⟩, h.bounded⟩

/-- Forgetting passed captures leaves the frames above as they are, as far as they matter. -/
theorem dropPassed (h : Isolated opened c below above s) :
    ∃ above', Isolated opened c below above' s.dropPassed := by
  obtain ⟨pending, hpending, hstack⟩ := h.stack_eq
  rcases s.dropPassed_eq with heq | ⟨c', below', hf, heq⟩
  · rw [heq]
    exact ⟨above, h⟩
  · rw [heq]
    rw [hstack] at hf
    cases above with
    | nil =>
      obtain ⟨hc, rfl⟩ := List.cons.inj hf
      obtain rfl := Frame.captured.inj hc
      refine ⟨[], ⟨pendingFrom s.position pending, (List.dropWhile_suffix _).trans hpending, ?_⟩,
        h.bounded, h.start_le,
        h.le_stop, h.anchor_eq, h.grows, h.reached⟩
      rw [hstack]
      rfl
    | cons f above =>
      obtain ⟨rfl, rfl⟩ := List.cons.inj hf
      -- a capture has the same bound with fewer captures to come
      have hbounded := List.forall_mem_cons.1 h.bounded
      refine ⟨.captured { c' with pending := pendingFrom s.position c'.pending } :: above,
        ⟨pending, hpending, ?_⟩, List.forall_mem_cons.2 hbounded, h.start_le, h.le_stop,
        h.anchor_eq, h.grows, h.reached⟩
      rw [hstack]
      rfl

/-- The innermost frame has to stop in the capture. -/
theorem exists_bound (h : Isolated opened c below above s) :
    ∃ b, s.stack.bound? = some b ∧ b ≤ c.stop := by
  obtain ⟨pending, -, hstack⟩ := h.stack_eq
  rw [hstack]
  cases above with
  | nil => exact ⟨c.stop, rfl, Nat.le_refl _⟩
  | cons f above => exact h.bounded f List.mem_cons_self

theorem limit_le (h : Isolated opened c below above s) : s.limit line ≤ c.stop := by
  obtain ⟨b, hb, hle⟩ := h.exists_bound
  rw [LineState.limit, hb]
  exact hle

theorem stack_push (h : Isolated opened c below above s) (f : Frame) :
    ∃ pending, pending <:+ c.pending ∧ s.stack.push f =
      opened.stack.withFrames
        ((f :: above) ++ .captured { c with pending := pending } :: below) := by
  obtain ⟨pending, hpending, hstack⟩ := h.stack_eq
  refine ⟨pending, hpending, ?_⟩
  rw [hstack]
  rfl

/-- Entering the captures of a match in the capture, on what is open there. -/
theorem advance {m : Match} {path : ScopePath} {grammar : GrammarId} {captures : Captures}
    {e : LineState × Bool} (h : Isolated opened c below above s) (hstart : s.position ≤ m.start)
    (hm : m.start ≤ m.stop) (hstop : m.stop ≤ c.stop)
    (he : CapturesEntered line s m path grammar captures e) :
    ∃ above', Isolated opened c below above' (advance m s.position e) := by
  have hgrows : s.row.GrowsIn ⟨c.start, c.stop⟩ e.1.row := he.growsIn h.reached hm hstop
  have hrow := hgrows.reached h.reached
  have hinside : c.start ≤ (Tokenizing.advance m s.position e).position ∧
      (Tokenizing.advance m s.position e).position ≤ c.stop := by
    have hle := h.start_le
    rw [he.position_advance hstart hm]
    split <;> omega
  obtain ⟨hle, hle'⟩ := hinside
  cases he with
  | opened labels hlt hp hl =>
    have hbounded := h.bounded_cons
      (f := .captured ⟨none, path, CaptureTree.forest m.clipped labels, m.start, m.stop⟩) rfl hstop
    exact ⟨_, h.stack_push _, hbounded, hle, hle', h.anchor_eq, h.grows.trans hgrows, hrow⟩
  | empty =>
    exact ⟨above, h.stack_eq, h.bounded, hle, hle', h.anchor_eq, h.grows.trans hgrows, hrow⟩
  | plain =>
    exact ⟨above, h.stack_eq, h.bounded, hle, hle', h.anchor_eq, h.grows.trans hgrows, hrow⟩
  | flattened =>
    exact ⟨above, h.stack_eq, h.bounded, hle, hle', h.anchor_eq, h.grows.trans hgrows, hrow⟩

/-- **A match that is applied inside a capture leaves the scan inside of it**: an end pattern closes
a region that began in the capture, and what is opened takes its bound. -/
theorem applied {m : Match} {candidate : Candidate} (h : Isolated opened c below above s)
    (hstart : s.position ≤ m.start) (hm : m.start ≤ m.stop) (hstop : m.stop ≤ c.stop)
    (happlied : Applied ctx line s m candidate (some s')) :
    ∃ above', Isolated opened c below above' s' := by
  obtain ⟨pending, hpending, hstack⟩ := h.stack_eq
  cases happlied with
  | ended r below' rule e hf _ _ he =>
    -- the region lies above the capture, which is no region
    cases above with
    | nil =>
      rw [hstack] at hf
      cases hf
    | cons f above =>
      have hcons : f = .region r ∧
          above ++ .captured { c with pending := pending } :: below = below' := by
        rw [hstack] at hf
        exact List.cons.inj hf
      obtain ⟨rfl, rfl⟩ := hcons
      have hclosed : Isolated opened c below above
          { s with
            stack := { s.stack with
              frames := above ++ .captured { c with pending := pending } :: below }
            anchor := r.anchorBefore } := by
        refine ⟨⟨pending, hpending, by rw [hstack]; rfl⟩,
          fun f hf ↦ h.bounded f (List.mem_cons_of_mem _ hf), h.start_le, h.le_stop, h.anchor_eq,
          h.grows, h.reached⟩
      exact hclosed.advance hstart hm hstop he
  | matched ref rule r names e _ _ _ _ he => exact h.advance hstart hm hstop he
  | began ref rule r region e _ _ _ hregion he =>
    obtain ⟨b, hb, hle⟩ := h.exists_bound
    have hopened : Isolated opened c below (.region region :: above)
        { s with stack := s.stack.push (.region region), anchor := some m.stop } := by
      refine ⟨h.stack_push _, h.bounded_cons (hregion.bound_eq.trans hb) hle, h.start_le, h.le_stop,
        ?_, h.grows, h.reached⟩
      show anchorUnder above region.anchorBefore = opened.anchor
      rw [hregion.anchorBefore_eq]
      exact h.anchor_eq
    exact hopened.advance hstart hm hstop he

/-- Opening a capture of the innermost frame. -/
theorem openCapture {t : CaptureTree CapturedScopes} (h : Isolated opened c below above s)
    (hnested : s.stack.Layered fun _ f ↦ f.IsNested) (ht : s.nextCapture? = some t)
    (hposition : s.position ≤ t.span.start) :
    ∃ above', Isolated opened c below above' (s.openCapture t) := by
  obtain ⟨pending, hpending, hstack⟩ := h.stack_eq
  obtain ⟨c', below', rest, hf, hrest⟩ := LineState.exists_captured_of_nextCapture? ht
  obtain ⟨hc', -⟩ := (Stack.layered_iff_of_cons hf).1 hnested
  have ht' : t.NestedIn ⟨c'.start, c'.stop⟩ := hc'.2 t (by rw [hrest]; exact List.mem_cons_self)
  -- the capture lies in that of the innermost frame, and so in the one that is spoken of
  have hstop : c'.stop ≤ c.stop := by
    obtain ⟨b, hb, hle⟩ := h.exists_bound
    rw [Stack.bound?, hf] at hb
    obtain rfl : c'.stop = b := Option.some.inj hb
    exact hle
  have hle : t.span.stop ≤ c.stop := Nat.le_trans ht'.inside.2 hstop
  have hle' : t.span.start ≤ c.stop := Nat.le_trans (Nat.le_of_lt ht'.nonempty) hle
  have hgrows := h.of_extendContent hle'
  have hframes := LineState.openCapture_stack (t := t) hf
  have hchild : ∃ b, (Frame.captured (c'.child t)).bound? = some b ∧ b ≤ c.stop :=
    ⟨t.span.stop, rfl, hle⟩
  rw [hstack] at hf
  cases above with
  | nil =>
    obtain ⟨hc, rfl⟩ := List.cons.inj hf
    obtain rfl := Frame.captured.inj hc
    refine ⟨[.captured (CapturedText.child { c with pending := pending } t)],
      ⟨pending.tail, (List.tail_suffix _).trans hpending, ?_⟩, List.forall_mem_singleton.2 hchild,
      Nat.le_trans h.start_le hposition, hle', h.anchor_eq, hgrows.grows, hgrows.reached⟩
    rw [hframes, hstack]
    rfl
  | cons f above =>
    obtain ⟨rfl, rfl⟩ := List.cons.inj hf
    obtain ⟨hheld, hbounded⟩ := List.forall_mem_cons.1 h.bounded
    refine ⟨.captured (c'.child t) :: .captured { c' with pending := c'.pending.tail } :: above,
      ⟨pending, hpending, ?_⟩,
      List.forall_mem_cons.2 ⟨hchild, List.forall_mem_cons.2 ⟨hheld, hbounded⟩⟩,
      Nat.le_trans h.start_le hposition, hle', h.anchor_eq, hgrows.grows, hgrows.reached⟩
    rw [hframes, hstack]
    rfl

/-- Closing all frames of the capture closes the capture. -/
theorem stopLine_eq (h : Isolated opened c below above s) (line : LineText)
    (pending : List (CaptureTree CapturedScopes)) :
    ∃ s', Released opened c below s' ∧
      stopLine line s (above ++ .captured { c with pending := pending } :: below) =
        stopLine line s' below := by
  refine exists_released_of_stopLine line pending h.bounded h.anchor_eq h.grows h.reached ?_
  obtain ⟨_, -, hstack⟩ := h.stack_eq
  rw [hstack]
  rfl

/-- The innermost frame is closed at its bound: one that was opened in the capture, or the
capture. -/
theorem leave {stopDepth : Option Nat} {f : Frame} {rest : List Frame}
    (h : Isolated opened c below above s) (hdepth : ∀ d, stopDepth = some d → d ≤ below.length + 1)
    (hf : s.stack.frames = f :: rest) :
    IsolatedStep ctx line stopDepth opened c below s
      (if stopDepth = some (rest.length + 1) then .done ((s.atLimit line).leave f rest)
        else .goOn ((s.atLimit line).leave f rest)) := by
  have hlimit : s.limit line ≤ c.stop := h.limit_le
  have hextend := h.of_extendContent hlimit
  obtain ⟨pending, hpending, hstack⟩ := h.stack_eq
  rw [hstack] at hf
  cases above with
  | nil =>
    obtain ⟨rfl, rfl⟩ := List.cons.inj hf
    have hbound : s.limit line = c.stop := by
      rw [LineState.limit, hstack]
      rfl
    refine .closed ((s.atLimit line).leave (.captured { c with pending := pending }) below) ?_
      ⟨?_, h.anchor_eq, hextend.grows⟩
    · show max s.position (s.limit line) = c.stop
      rw [hbound]
      exact Nat.max_eq_right h.le_stop
    · show s.stack.withFrames below = _
      rw [hstack]
      rfl
  | cons f' above =>
    have hcons : f' = f ∧ above ++ .captured { c with pending := pending } :: below = rest :=
      List.cons.inj hf
    obtain ⟨rfl, rfl⟩ := hcons
    -- the scan does not stop here, since its depth lies below the capture
    have hgo : stopDepth ≠ some
        ((above ++ .captured { c with pending := pending } :: below).length + 1) := by
      intro heq
      have hle := hdepth _ heq
      rw [List.length_append, List.length_cons] at hle
      omega
    rw [if_neg hgo]
    refine .inside above _ ⟨⟨pending, hpending, ?_⟩,
      fun f hf ↦ h.bounded f (List.mem_cons_of_mem _ hf), ?_, ?_, ?_, hextend.grows,
      hextend.reached⟩
    · show s.stack.withFrames _ = _
      rw [hstack]
      rfl
    · exact Nat.le_trans h.start_le (Nat.le_max_left _ _)
    · exact Nat.max_le.2 ⟨h.le_stop, hlimit⟩
    · have hanchor := h.anchor_eq
      cases f' <;> exact hanchor

theorem transition {stopDepth : Option Nat} {next : Step} (hE : ctx.engine.StaysInRange)
    (h : Isolated opened c below above s) (hnested : s.stack.Layered fun _ f ↦ f.IsNested)
    (hposition : ∀ t, s.nextCapture? = some t → s.position ≤ t.span.start)
    (hdepth : ∀ d, stopDepth = some d → d ≤ below.length + 1)
    (ht : Transition ctx line stopDepth s next) :
    IsolatedStep ctx line stopDepth opened c below s next := by
  cases ht with
  | applied m candidate s' hfound happlied =>
    obtain ⟨hstart, hm, hstop⟩ := hE.of_reportsIn hfound.reported
    have hstop : m.stop ≤ c.stop := Nat.le_trans hstop h.limit_le
    obtain ⟨above', h'⟩ := (h.of_extendContent (Nat.le_trans hm hstop)).applied hstart hm hstop
      happlied
    exact .inside above' s' h'
  | stuck m candidate hfound happlied =>
    obtain ⟨-, hm, hstop⟩ := hE.of_reportsIn hfound.reported
    have hstop : m.stop ≤ c.stop := Nat.le_trans hstop h.limit_le
    obtain ⟨pending, -, hstack⟩ := h.stack_eq
    obtain ⟨s', hs', heq⟩ :=
      (h.of_extendContent (Nat.le_trans hm hstop)).stopLine_eq line pending
    have hframes : s.stack.frames = above ++ .captured { c with pending := pending } :: below := by
      rw [hstack]
      rfl
    rw [hframes, heq]
    exact .stuck m candidate s' happlied hs'
  | openedCapture t ht =>
    obtain ⟨above', h'⟩ := h.openCapture hnested ht (hposition t ht)
    exact .inside above' _ h'
  | ended _ hbound =>
    obtain ⟨b, hb, -⟩ := h.exists_bound
    rw [hbound] at hb
    cases hb
  | closed f rest b hnext hf hb => exact h.leave hdepth hf

/-- **A step from inside a capture goes on inside of it, closes it at its end, or closes the whole
line because the rules are stuck.** -/
theorem step {stopDepth : Option Nat} {next : Step} (hE : ctx.engine.StaysInRange)
    (h : Isolated opened c below above s) (hnested : s.stack.Layered fun _ f ↦ f.IsNested)
    (hdepth : ∀ d, stopDepth = some d → d ≤ below.length + 1)
    (ht : Transition ctx line stopDepth s.dropPassed next) :
    IsolatedStep ctx line stopDepth opened c below s.dropPassed next := by
  obtain ⟨above', h'⟩ := h.dropPassed
  have hinvariant : FrameInvariant ctx line (fun _ _ ↦ True) fun _ f ↦ f.IsNested :=
    nested_invariant hE
  exact h'.transition hE (hinvariant.dropPassed hnested)
    (fun _ ↦ LineState.position_le_of_dropPassed) hdepth ht

/-- A capture that was just opened. -/
theorem of_opened (hframes : opened.stack.frames = .captured c :: below)
    (hposition : opened.position = c.start) (hreaches : opened.Reaches)
    (hnested : opened.stack.Layered fun _ f ↦ f.IsNested) : Isolated opened c below [] opened where
  stack_eq := by
    refine ⟨c.pending, List.suffix_rfl, ?_⟩
    rw [Stack.withFrames, List.nil_append, ← hframes]
  bounded := by simp
  start_le := Nat.le_of_eq hposition.symm
  le_stop := by
    rw [hposition]
    exact ((Stack.layered_iff_of_cons hframes).1 hnested).1.1
  anchor_eq := rfl
  grows := .refl _ _
  reached := by
    rw [← hposition]
    exact hreaches

end Isolated

namespace IsolatedStep

variable {opened s s' : LineState} {c : CapturedText} {below : List Frame}

/-- A scan that is to stop when the capture is closed goes on inside of it only. -/
theorem exists_isolated_of_goOn
    (h : IsolatedStep ctx line (some (below.length + 1)) opened c below s (.goOn s')) :
    ∃ above, Isolated opened c below above s' := by
  generalize hnext : Step.goOn s' = next at h
  cases h with
  | inside above s'' h' =>
    obtain rfl := Step.goOn.inj hnext
    exact ⟨above, h'⟩
  | closed =>
    rw [if_pos rfl] at hnext
    cases hnext
  | stuck => cases hnext

/-- It does not stop before the end of the capture. -/
theorem stop_le_of_done
    (h : IsolatedStep ctx line (some (below.length + 1)) opened c below s (.done s'))
    (hstop : c.stop ≤ line.stop) : c.stop ≤ s'.position := by
  generalize hnext : Step.done s' = next at h
  cases h with
  | inside => cases hnext
  | closed s'' hposition =>
    rw [if_pos rfl] at hnext
    obtain rfl := Step.done.inj hnext
    exact Nat.le_of_eq hposition.symm
  | stuck m candidate s'' =>
    obtain rfl := Step.done.inj hnext
    rw [LineState.LiesIn.position_stopLine]
    exact hstop

end IsolatedStep

/-! ### Opening captures -/

/-- The innermost frame is a capture, and the position is its start. -/
def LineState.OpenedCapture (s : LineState) (c : CapturedText) (below : List Frame) : Prop :=
  s.stack.frames = .captured c :: below ∧ s.position = c.start

theorem LineState.capturedCount_dropPassed (s : LineState) :
    s.dropPassed.stack.capturedCount = s.stack.capturedCount := by
  rcases s.dropPassed_eq with heq | ⟨c, below, hf, heq⟩
  · rw [heq]
  · have hcount : s.stack.capturedCount = ((s.stack.withFrames below).push
        (.captured c)).capturedCount := by
      rw [Stack.capturedCount, hf]
      rfl
    rw [heq, hcount]
    exact (Stack.capturedCount_push_captured _).trans (Stack.capturedCount_push_captured c).symm

/-- A match that is applied opens a frame for the match, if it opens a capture at all. -/
theorem Applied.exists_openedCapture {s s' : LineState} {m : Match} {candidate : Candidate}
    (h : Applied ctx line s m candidate (some s'))
    (hcount : s.stack.capturedCount < s'.stack.capturedCount) :
    ∃ c below, s'.OpenedCapture c below := by
  -- all but the entering of the captures leaves the number of captures as it is
  have hentered : ∀ {stack anchor path grammar captures e},
      CapturesEntered line { s with stack := stack, anchor := anchor } m path grammar captures e →
      stack.capturedCount = s.stack.capturedCount → s' = advance m s.position e →
      ∃ c below, s'.OpenedCapture c below := by
    rintro stack anchor path grammar captures ⟨entered, opened⟩ he hsame rfl
    rcases he.stack_cases with ⟨hstack, -⟩ | ⟨c, hstack, hstart, hopened⟩
    · have hcount' : s.stack.capturedCount < entered.stack.capturedCount := hcount
      rw [show entered.stack = stack from hstack, hsame] at hcount'
      exact absurd hcount' (Nat.lt_irrefl _)
    · obtain rfl : opened = true := hopened
      refine ⟨c, stack.frames, ?_, hstart.symm⟩
      show entered.stack.frames = _
      rw [show entered.stack = stack.push (.captured c) from hstack]
      rfl
  cases h with
  | ended r below rule e hf _ _ he =>
    refine hentered he ?_ rfl
    have hstack : s.stack.capturedCount =
        ((s.stack.withFrames below).push (.region r)).capturedCount := by
      rw [Stack.capturedCount, hf]
      rfl
    rw [hstack, Stack.capturedCount_push_region]
    rfl
  | matched ref rule r names e _ _ _ _ he =>
    have he' : CapturesEntered line { s with stack := s.stack, anchor := s.anchor } m
        (s.stack.scopes.append names) ref.grammar r.captures e := he
    exact hentered he' rfl rfl
  | began ref rule r region e _ _ _ _ he =>
    exact hentered he (Stack.capturedCount_push_region _) rfl

/-- A step that opens a capture leaves it innermost, and the position at its start. -/
theorem TransitionOf.exists_openedCapture {s s' : LineState} {stopDepth : Option Nat}
    (h : Transition ctx line stopDepth s (.goOn s'))
    (hcount : s.stack.capturedCount < s'.stack.capturedCount) :
    ∃ c below, s'.OpenedCapture c below := by
  generalize hnext : Step.goOn s' = next at h
  cases h with
  | applied m candidate s'' _ happlied =>
    obtain rfl := Step.goOn.inj hnext
    exact happlied.exists_openedCapture hcount
  | stuck => cases hnext
  | openedCapture t ht =>
    obtain rfl := Step.goOn.inj hnext
    obtain ⟨c, below, rest, hf, -⟩ := LineState.exists_captured_of_nextCapture? ht
    refine ⟨c.child t, .captured { c with pending := c.pending.tail } :: below, ?_, rfl⟩
    rw [LineState.openCapture_stack hf]
    rfl
  | ended => cases hnext
  | closed f below b _ hf =>
    split at hnext
    · cases hnext
    · obtain rfl := Step.goOn.inj hnext
      have hsuffix : below <:+ s.stack.frames := hf ▸ List.suffix_cons f below
      exact absurd hcount (Nat.not_lt_of_le (Stack.capturedCount_withFrames_le hsuffix))

/-! ### Runs -/

/-- A scan of the captures of a region that goes on is inside of the match. -/
def Stage.IsInMatch : Stage → LineState → Prop
  | .captures passed r _ m _, s =>
    ∃ opened c above, c.stop = m.stop ∧ Isolated opened c (.region r :: passed) above s
  | _, _ => True

/-- Where no frame is opened for the captures of a region that goes on, the rows reach the end of
the match. -/
theorem CapturesEntered.reaches_afterContinuation {s inner : LineState} {frames : List Frame}
    {m : Match} {path : ScopePath} {grammar : GrammarId} {captures : Captures}
    (he : CapturesEntered line (s.withFrames frames) m path grammar captures (inner, false))
    (hs : s.Reaches) (hm : m.start = s.position) : (afterContinuation m s inner).Reaches := by
  obtain ⟨hreached, hstop, hmatch⟩ := he.reached
  have hposition : inner.position = s.position := he.position_eq
  have hrow : inner.row.stop = s.row.stop := hstop
  refine LineState.Reaches.afterContinuation ?_ fun hlt ↦ ?_
  · rw [LineState.Reaches, hposition, hrow]
    exact Nat.le_trans hs hreached
  · rw [hrow]
    exact hmatch rfl (hm ▸ hlt)

namespace Visits

variable {start s s' : LineState} {stage stage' : Stage} {happened : List Happening} {h : Happening}

theorem nested (hE : ctx.engine.StaysInRange)
    (hnested : start.stack.Layered fun _ f ↦ f.IsNested)
    (hs : Visits ctx line start happened stage s) : s.stack.Layered fun _ f ↦ f.IsNested :=
  hs.of_invariant (nested_invariant hE).lineInvariant hnested

/-- **The rows of a line always reach the position**, and the captures of a region that goes on are
scanned inside of the match. -/
theorem reaches (hE : ctx.engine.StaysInRange)
    (hnested : start.stack.Layered fun _ f ↦ f.IsNested) (hreaches : start.Reaches)
    (hs : Visits ctx line start happened stage s) : s.Reaches ∧ stage.IsInMatch s := by
  induction hs with
  | start => exact ⟨hreaches, True.intro⟩
  | @move happened stage stage' s s' h hs hmove ih =>
    obtain ⟨hs', hin⟩ := ih
    have hlayered := (hs.move hmove).nested hE hnested
    have hfits := hs.fits
    cases hmove with
    | passed => exact ⟨hs', True.intro⟩
    | passedAll => exact ⟨hs', True.intro⟩
    | discontinued => exact ⟨hs', True.intro⟩
    | continued passed r inside _ inner m _ _ hm he =>
      obtain ⟨rule, -, he⟩ := he.capturesEntered
      exact ⟨he.reaches_afterContinuation hs' hm, True.intro⟩
    | entered passed r inside _ inner m _ _ hm he =>
      obtain ⟨rule, -, he⟩ := he.capturesEntered
      cases he with
      | opened labels hlt hp hl =>
        exact ⟨hs', _, _, [], rfl, .of_opened rfl hm.symm hs' hlayered⟩
    | left passed r inside _ before scanned m hstep =>
      obtain ⟨opened, c, above, hstop, hisolated⟩ := hin
      have hstep := transition_of_step hstep
      have hscanned : scanned.Reaches := LineState.Reaches.transition hs'.dropPassed hstep
      refine ⟨LineState.Reaches.afterContinuation hscanned fun _ ↦ ?_, True.intro⟩
      have hm : m.stop ≤ line.stop := by
        cases hfits with
        | captures _ _ _ _ _ _ _ _ hm _ => exact (hE.of_reportsIn hm).2.2
      have hdone : IsolatedStep ctx line (some ((Frame.region r :: passed).length + 1)) opened c
          (.region r :: passed) s.dropPassed (.done scanned) :=
        hisolated.step hE (hs.nested hE hnested) (by simp) hstep
      have hle : c.stop ≤ scanned.position := hdone.stop_le_of_done (hstop ▸ hm)
      rw [LineState.Reaches] at hscanned
      omega
    | scanned _ stopDepth _ _ _ hstage hstep =>
      refine ⟨LineState.Reaches.transition hs'.dropPassed hstep.transition, ?_⟩
      cases hstage with
      | captures passed r inside m before =>
        obtain ⟨opened, c, above, hstop, hisolated⟩ := hin
        have hinside : IsolatedStep ctx line (some ((Frame.region r :: passed).length + 1)) opened c
            (.region r :: passed) s.dropPassed (.goOn s') :=
          hisolated.step hE (hs.nested hE hnested) (by simp) hstep.transition
        obtain ⟨above', h'⟩ := hinside.exists_isolated_of_goOn
        exact ⟨opened, c, above', hstop, h'⟩
      | rest => exact True.intro

/-- A move that opens a capture is one of a scan, and leaves the capture innermost and the position
at its start. -/
theorem exists_openedCapture (hE : ctx.engine.StaysInRange)
    (hnested : start.stack.Layered fun _ f ↦ f.IsNested) (hreaches : start.Reaches)
    (hstart : start.stack.capturedCount = 0) (hs : Visits ctx line start happened stage s)
    (hmove : Advances ctx line stage s h stage' s')
    (hcount : s.stack.capturedCount < s'.stack.capturedCount) :
    ∃ c below stopDepth, s'.OpenedCapture c below ∧ stage'.Scans stopDepth ∧
      ∀ d, stopDepth = some d → d ≤ below.length + 1 := by
  have hfits := hs.fits
  have hnext := hs.move hmove
  have hin := (hnext.reaches hE hnested hreaches).2
  cases hmove with
  | passed => exact absurd hcount (Nat.lt_irrefl _)
  | passedAll => exact absurd hcount (Nat.lt_irrefl _)
  | discontinued =>
    have hsuffix := (List.suffix_cons _ _).trans hfits.suffix
    exact absurd hcount (Nat.not_lt_of_le (Stack.capturedCount_withFrames_le hsuffix))
  | continued => exact absurd hcount (Nat.lt_irrefl _)
  | entered passed r inside _ _ m _ _ hm he =>
    obtain ⟨rule, -, he⟩ := he.capturesEntered
    cases he with
    | opened labels =>
      refine ⟨_, .region r :: passed, _, ⟨rfl, hm.symm⟩, .captures passed r inside m s, ?_⟩
      intro d hd
      exact Nat.le_of_eq (Option.some.inj hd).symm
  | left passed r inside _ before scanned m hstep =>
    -- the stack is the one that the line was started with
    cases hfits with
    | captures _ _ _ _ _ _ hstack =>
      have hcount : s.stack.capturedCount < before.stack.capturedCount := hcount
      rw [hstack, hstart] at hcount
      exact absurd hcount (Nat.not_lt_zero _)
  | scanned _ stopDepth _ _ _ hstage hstep =>
    rw [← LineState.capturedCount_dropPassed] at hcount
    obtain ⟨c, below, hopened⟩ := hstep.transition.exists_openedCapture hcount
    refine ⟨c, below, stopDepth, hopened, hstage, ?_⟩
    cases hstage with
    | captures passed r inside m before =>
      -- the frame of the match is still there, and that of the capture is none of those below it
      obtain ⟨opened, c', above, -, hisolated⟩ := hin
      obtain ⟨pending, -, hstack⟩ := hisolated.stack_eq
      have hlength : passed.length + 2 ≤ s'.stack.frames.length := by
        rw [hstack]
        simp [Stack.withFrames]
      rw [hopened.1, List.length_cons] at hlength
      intro d hd
      obtain rfl := Option.some.inj hd
      exact hlength
    | rest => simp

end Visits

/-! ### Captures are isolated -/

/-- The states that the steps of a scan lead to from one, as long as more than a number of frames
are open. -/
inductive Held (ctx : Context) (line : LineText) (stopDepth : Option Nat) (depth : Nat)
    (opened : LineState) : LineState → Prop
  | opened : Held ctx line stopDepth depth opened opened
  | goOn {s s' : LineState} (hs : Held ctx line stopDepth depth opened s)
      (hstep : Returns (step ctx line stopDepth s) (.goOn s'))
      (hdepth : depth < s'.stack.frames.length) : Held ctx line stopDepth depth opened s'

/-- As long as more frames are open than there were below a capture, the scan is inside of it. -/
theorem Held.exists_isolated {opened s : LineState} {c : CapturedText} {below : List Frame}
    {stopDepth : Option Nat} (hE : ctx.engine.StaysInRange)
    (hopened : Isolated opened c below [] opened)
    (hnested : opened.stack.Layered fun _ f ↦ f.IsNested)
    (hdepth : ∀ d, stopDepth = some d → d ≤ below.length + 1)
    (hs : Held ctx line stopDepth below.length opened s) :
    (∃ above, Isolated opened c below above s) ∧ s.stack.Layered fun _ f ↦ f.IsNested := by
  induction hs with
  | opened => exact ⟨⟨[], hopened⟩, hnested⟩
  | @goOn s s' _ hstep hlength ih =>
    obtain ⟨⟨above, h⟩, hlayered⟩ := ih
    refine ⟨?_, (nested_invariant hE).lineInvariant.step hlayered hstep⟩
    have hnext := h.step hE hlayered hdepth (transition_of_step hstep)
    generalize hgo : Step.goOn s' = next at hnext
    cases hnext with
    | inside above' s'' h' =>
      obtain rfl := Step.goOn.inj hgo
      exact ⟨above', h'⟩
    | closed s'' _ h' =>
      -- closing the capture leaves too few frames
      split at hgo
      · cases hgo
      · obtain rfl := Step.goOn.inj hgo
        rw [h'.stack_eq] at hlength
        exact absurd hlength (Nat.lt_irrefl _)
    | stuck => cases hgo

namespace Session

variable {E : Engine} {r : Registry} {base : GrammarId} {s : Session}

/-- **Captures are isolated.** Whenever a line comes to open a capture, the frame of the capture is
the innermost one, and from then on, as long as more frames are open than those below it, the scan
is inside of it (`Isolated`): what is below is unchanged, what is above ends with the capture, and
the position and all tokens lie in its text. A step from there stays inside, or closes the capture
at its end with the stack and the anchor back at what they were, or closes the whole line because
the rules are stuck. -/
theorem captures_isolated (hE : E.StaysInRange) (hs : Reachable E r base s)
    (patterns : PatternCache) (line : String) {happened : List Happening} {h : Happening}
    {stage stage' : Stage} {before opened : LineState}
    (hvisits : Visits (s.context (r.withPatterns patterns)) (.ofLine line)
      (.start s.stack s.firstLine (.ofLine line)) happened stage before)
    (hmove : Advances (s.context (r.withPatterns patterns)) (.ofLine line) stage before h stage'
      opened)
    (hpushed : before.stack.capturedCount < opened.stack.capturedCount) :
    ∃ c below stopDepth, opened.stack.frames = .captured c :: below ∧ opened.position = c.start ∧
      stage'.Scans stopDepth ∧
      ∀ u, Held (s.context (r.withPatterns patterns)) (.ofLine line) stopDepth below.length
          opened u →
        (∃ above, Isolated opened c below above u) ∧
        ∀ next,
          Returns (step (s.context (r.withPatterns patterns)) (.ofLine line) stopDepth u) next →
          IsolatedStep (s.context (r.withPatterns patterns)) (.ofLine line) stopDepth opened c below
            u.dropPassed next := by
  have hE' : (s.context (r.withPatterns patterns)).engine.StaysInRange :=
    hs.engine_context _ ▸ hE
  have hcarried := hs.isCarried
  have hnested : s.stack.Layered fun _ f ↦ f.IsNested :=
    hcarried.layered_of_region fun _ _ _ ↦ True.intro
  have hreaches : (LineState.start s.stack s.firstLine (.ofLine line)).Reaches :=
    Nat.min_le_left 0 _
  have hcount : s.stack.capturedCount = 0 :=
    Stack.capturedCount_eq_zero (hcarried.layered_of_region fun _ _ _ ↦ rfl)
  obtain ⟨c, below, stopDepth, ⟨hframes, hposition⟩, hstage, hdepth⟩ :=
    hvisits.exists_openedCapture hE' hnested hreaches hcount hmove hpushed
  have hopened := hvisits.move hmove
  have hlayered := hopened.nested hE' hnested
  have hisolated : Isolated opened c below [] opened :=
    .of_opened hframes hposition (hopened.reaches hE' hnested hreaches).1 hlayered
  refine ⟨c, below, stopDepth, hframes, hposition, hstage, fun u hu ↦ ?_⟩
  obtain ⟨⟨above, h⟩, hu⟩ := hu.exists_isolated hE' hisolated hlayered hdepth
  exact ⟨⟨above, h⟩, fun next hnext ↦ h.step hE' hu hdepth (transition_of_step hnext)⟩

/-- The rule of the grammar that matches its own capture opens a frame for its match on the line
`a`, and all that comes after it lies in that match. -/
theorem captures_isolated_recapture :
    Reachable .literal .recapture 0 recapture ∧
      ∀ u, Held recaptureContext (.ofLine "a") none 0
          (recaptureState [.captured (recaptureText none [recaptureTree])] false) u →
        ∃ above, Isolated (recaptureState [.captured (recaptureText none [recaptureTree])] false)
          (recaptureText none [recaptureTree]) [] above u := by
  have hvisits : Visits recaptureContext (.ofLine "a") (recaptureState [] true) [.passed] .rest
      (recaptureState [] true) := Visits.start.move (.passedAll [] _)
  have hmemory : Memory.Agrees recaptureContext {} := by
    intro ref kind refs hrefs
    simp at hrefs
  obtain ⟨memory, -, hstep⟩ := exists_step_recapture hmemory true (.inl rfl)
  obtain ⟨h, hstep⟩ := StepsTo.of_step (returns_of_eq hstep)
  obtain ⟨c, below, stopDepth, hframes, -, hstage, hisolated⟩ :=
    captures_isolated Engine.literal_staysInRange recapture_reachable {} "a" hvisits
      (.scanned .rest none _ _ h .rest hstep) Nat.one_pos
  obtain ⟨hc, rfl⟩ := List.cons.inj hframes
  obtain rfl := Frame.captured.inj hc
  cases hstage
  exact ⟨recapture_reachable, fun u hu ↦ (hisolated u hu).1⟩

end Session

end ScopeGrammar
