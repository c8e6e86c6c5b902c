import Mathlib.Data.Prod.Lex
import Mathlib.Order.WellFounded
import ScopeGrammar.Proofs.Registry.References
import ScopeGrammar.Proofs.Tokenizer.Layers

/-!
# What gets less with every step

A scan does not get ahead at every step: regions begin and end without text, and captures take it
back to the start of a match. What it cannot do is go on for ever without opening captures inside
captures. `LineState.potential` is what gets less with every step that leaves the number of captures
below a limit (`Transition.potential_lt`); in order of weight it counts

* the text that is left,
* how many more captures can be opened that reach past the position,
* the captures that are still to come, and the frames that have to stop at the position,
* the open frames that were not entered at the position, which alone can be left there,
* the rules that no region was begun with at the position.

The last two are where the guards against loops come in. Past the end of the text nothing matches
any more, so that only captures and frames count.

Nothing is asked of the states. Of the engine it is assumed that matches lie in the range that was
searched.
-/

namespace ScopeGrammar

open Tokenizing

/-! ### Counts -/

namespace CaptureTree

variable {α : Type}

mutual

/-- The number of captures of a tree. -/
def nodeCount : CaptureTree α → Nat
  | ⟨_, _, _, children⟩ => nodeCountOfAll children + 1

/-- The number of captures of some trees. -/
def nodeCountOfAll : List (CaptureTree α) → Nat
  | [] => 0
  | t :: ts => nodeCount t + nodeCountOfAll ts

end

/-- A capture counts for one more than those in it. -/
theorem nodeCount_eq (t : CaptureTree α) : t.nodeCount = nodeCountOfAll t.children + 1 := by
  obtain ⟨index, span, label, children⟩ := t
  rw [nodeCount]

/-- There are no more captures among the last ones than among all. -/
theorem nodeCountOfAll_le_of_suffix {ts us : List (CaptureTree α)} (h : ts <:+ us) :
    nodeCountOfAll ts ≤ nodeCountOfAll us := by
  induction us with
  | nil =>
    rw [List.suffix_nil.1 h]
  | cons u us ih =>
    rcases List.suffix_cons_iff.1 h with rfl | h
    · exact Nat.le_refl _
    · rw [nodeCountOfAll]
      exact Nat.le_trans (ih h) (Nat.le_add_left _ _)

end CaptureTree

namespace Frame

/-- Whether the frame is a capture. -/
def isCaptured : Frame → Bool
  | region _ => false
  | captured _ => true

/-- Whether the frame has to stop at a position. -/
def stopsBy (p : Nat) (f : Frame) : Bool :=
  match f.bound? with
  | some b => b ≤ p
  | none => false

/-- Whether the frame is a capture that reaches past a position. -/
def reachesPast (p : Nat) (f : Frame) : Bool :=
  f.isCaptured && !f.stopsBy p

/-- Whether the frame was entered elsewhere. -/
def isFrom (p : Nat) (f : Frame) : Bool :=
  f.enteredAt? != some p

/-- The number of captures that are still to come in the frame. -/
def pendingCount : Frame → Nat
  | region _ => 0
  | captured c => CaptureTree.nodeCountOfAll c.pending

end Frame

namespace Stack

/-- The number of open captures. -/
def capturedCount (s : Stack) : Nat :=
  s.frames.countP Frame.isCaptured

/-- A region that is opened is no capture. -/
theorem capturedCount_push_region {s : Stack} (r : Region) :
    (s.push (.region r)).capturedCount = s.capturedCount :=
  List.countP_cons_of_neg (by simp [Frame.isCaptured])

/-- A capture that is opened counts for one. -/
theorem capturedCount_push_captured {s : Stack} (c : CapturedText) :
    (s.push (.captured c)).capturedCount = s.capturedCount + 1 :=
  List.countP_cons_of_pos rfl

/-- The outer frames have no more captures among them than all frames. -/
theorem capturedCount_withFrames_le {s : Stack} {frames : List Frame} (h : frames <:+ s.frames) :
    (s.withFrames frames).capturedCount ≤ s.capturedCount :=
  h.sublist.countP_le

/-- There are no captures if every frame is a region. -/
theorem capturedCount_eq_zero {s : Stack} (hs : s.Layered fun _ f ↦ f.isCaptured = false) :
    s.capturedCount = 0 := by
  refine List.countP_eq_zero.2 fun f hf ↦ ?_
  obtain ⟨inside, below, hframes⟩ := List.append_of_mem hf
  simp [hs f below ⟨inside, hframes.symm⟩]

/-- The number of captures that are still to come. -/
def pendingCount (s : Stack) : Nat :=
  (s.frames.map Frame.pendingCount).foldr (· + ·) 0

/-- The rules that no region was begun with at a position. -/
def unentered (refs : List RuleRef) (p : Nat) (s : Stack) : List RuleRef :=
  refs.filter fun ref ↦ !s.hasEnteredAt ref p

/-- What gets less at a position. -/
def potentialAt (refs : List RuleRef) (limit p : Nat) (s : Stack) : ℕ ×ₗ ℕ ×ₗ ℕ ×ₗ ℕ :=
  toLex (limit - s.frames.countP (Frame.reachesPast p),
    toLex (2 * s.pendingCount + s.frames.countP (Frame.stopsBy p),
      toLex (s.frames.countP (Frame.isFrom p), (s.unentered refs p).length)))

/-- What gets less past the end of the text. -/
def potentialPast (s : Stack) : ℕ ×ₗ ℕ ×ₗ ℕ ×ₗ ℕ :=
  toLex (0, toLex (2 * s.pendingCount + s.frames.length, toLex (0, 0)))

end Stack

/-- What gets less with every step of a scan. -/
def LineState.potential (refs : List RuleRef) (limit : Nat) (line : LineText) (s : LineState) :
    ℕ ×ₗ ℕ ×ₗ ℕ ×ₗ ℕ ×ₗ ℕ :=
  if s.position ≤ line.stop then
    toLex (line.stop + 1 - s.position, s.stack.potentialAt refs limit s.position)
  else toLex (0, s.stack.potentialPast)

/-! ### Comparing potentials -/

namespace Stack

variable {refs : List RuleRef} {limit p : Nat} {s t : Stack}

/-- The potential gets less if one more capture reaches past the position. Their number is limited,
so that this cannot go on. -/
theorem potentialAt_lt_of_reachesPast
    (hlt : s.frames.countP (Frame.reachesPast p) < t.frames.countP (Frame.reachesPast p))
    (hlimit : t.capturedCount ≤ limit) :
    t.potentialAt refs limit p < s.potentialAt refs limit p := by
  have hle : t.frames.countP (Frame.reachesPast p) ≤ t.capturedCount :=
    List.countP_mono_left fun f _ hf ↦ (Bool.and_eq_true_iff.1 hf).1
  refine Prod.Lex.toLex_lt_toLex.2 (.inl ?_)
  show limit - _ < limit - _
  omega

/-- The potential gets less if a capture is done with, or a frame that has to stop is closed. -/
theorem potentialAt_lt_of_pendingCount
    (heq : t.frames.countP (Frame.reachesPast p) = s.frames.countP (Frame.reachesPast p))
    (hlt : 2 * t.pendingCount + t.frames.countP (Frame.stopsBy p) <
      2 * s.pendingCount + s.frames.countP (Frame.stopsBy p)) :
    t.potentialAt refs limit p < s.potentialAt refs limit p := by
  refine Prod.Lex.toLex_lt_toLex.2 (.inr ⟨?_, Prod.Lex.toLex_lt_toLex.2 (.inl hlt)⟩)
  show limit - _ = limit - _
  rw [heq]

/-- Opening a capture with text left in it makes the potential less. -/
theorem potentialAt_push_captured_lt {c : CapturedText}
    (heq : t.frames.countP (Frame.reachesPast p) = s.frames.countP (Frame.reachesPast p))
    (hc : p < c.stop) (hlimit : (t.push (.captured c)).capturedCount ≤ limit) :
    (t.push (.captured c)).potentialAt refs limit p < s.potentialAt refs limit p := by
  refine potentialAt_lt_of_reachesPast ?_ hlimit
  have hreaches : Frame.reachesPast p (.captured c) = true := by
    simp [Frame.reachesPast, Frame.isCaptured, Frame.stopsBy, Frame.bound?, hc]
  rw [push, List.countP_cons_of_pos hreaches, heq]
  exact Nat.lt_succ_self _

/-- What a step at a position compares last: the frames that can be left there, and the rules. -/
theorem potentialAt_lt_of_isFrom
    (heq : t.frames.countP (Frame.reachesPast p) = s.frames.countP (Frame.reachesPast p))
    (hpending : t.pendingCount = s.pendingCount)
    (hstops : t.frames.countP (Frame.stopsBy p) = s.frames.countP (Frame.stopsBy p))
    (hlt : t.frames.countP (Frame.isFrom p) < s.frames.countP (Frame.isFrom p) ∨
      t.frames.countP (Frame.isFrom p) = s.frames.countP (Frame.isFrom p) ∧
        (t.unentered refs p).length < (s.unentered refs p).length) :
    t.potentialAt refs limit p < s.potentialAt refs limit p := by
  refine Prod.Lex.toLex_lt_toLex.2 (.inr ⟨?_, Prod.Lex.toLex_lt_toLex.2 (.inr ⟨?_, ?_⟩)⟩)
  · show limit - _ = limit - _
    rw [heq]
  · show 2 * _ + _ = 2 * _ + _
    rw [hpending, hstops]
  · exact Prod.Lex.toLex_lt_toLex.2 hlt

end Stack

namespace LineState

variable {refs : List RuleRef} {limit : Nat} {line : LineText} {s t : LineState}

/-- The potential gets less whenever the position moves on. -/
theorem potential_lt_of_position_lt (hs : s.position ≤ line.stop) (hlt : s.position < t.position) :
    t.potential refs limit line < s.potential refs limit line := by
  rw [potential, potential, if_pos hs]
  split
  · refine Prod.Lex.toLex_lt_toLex.2 (.inl ?_)
    show line.stop + 1 - _ < line.stop + 1 - _
    omega
  · refine Prod.Lex.toLex_lt_toLex.2 (.inl ?_)
    show 0 < line.stop + 1 - _
    omega

/-- If the position stays, what counts is the potential at that position. -/
theorem potential_lt_of_position_eq (hs : s.position ≤ line.stop) (heq : t.position = s.position)
    (hlt : t.stack.potentialAt refs limit s.position < s.stack.potentialAt refs limit s.position) :
    t.potential refs limit line < s.potential refs limit line := by
  rw [potential, potential, heq, if_pos hs, if_pos hs]
  exact Prod.Lex.toLex_lt_toLex.2 (.inr ⟨rfl, hlt⟩)

/-- Past the end of the text nothing is left to do but to enter captures and to close frames. -/
theorem potential_lt_of_past (hs : line.stop < s.position) (hle : s.position ≤ t.position)
    (hlt : 2 * t.stack.pendingCount + t.stack.frames.length <
      2 * s.stack.pendingCount + s.stack.frames.length) :
    t.potential refs limit line < s.potential refs limit line := by
  rw [potential, potential, if_neg (by omega), if_neg (by omega)]
  exact Prod.Lex.toLex_lt_toLex.2 (.inr ⟨rfl, Prod.Lex.toLex_lt_toLex.2
    (.inr ⟨rfl, Prod.Lex.toLex_lt_toLex.2 (.inl hlt)⟩)⟩)

end LineState

/-! ### Steps -/

variable {ctx : Context} {line : LineText} {refs : List RuleRef} {limit : Nat}

/-- A range that is searched does not reach past the end of the line. -/
theorem range_stop_le {E : Engine} {range : Span} {m : Match}
    (hm : E.ReportsIn line.chars range m) : range.stop ≤ line.stop := by
  obtain ⟨w, hof, rfl, -⟩ := hm
  rw [Window.range, hof.text_eq, line.stop_eq_byteLength]
  exact (IndexedText.isBoundary_offset hof.stop_le).le_byteLength

/-- After a match was applied the position is a later one, or there is a new capture that reaches
past it, or the match held no text and nothing was opened for it. -/
theorem CapturesEntered.advance_cases {s : LineState} {m : Match} {path : ScopePath}
    {grammar : GrammarId} {captures : Captures} {e : LineState × Bool}
    (he : CapturesEntered line s m path grammar captures e) (hm : s.position ≤ m.start) :
    s.position < (advance m s.position e).position ∨
      (advance m s.position e).position = s.position ∧
        ((∃ c, (advance m s.position e).stack = s.stack.push (.captured c) ∧ s.position < c.stop) ∨
          m.stop ≤ s.position ∧ (advance m s.position e).stack = s.stack) := by
  -- unless a frame is opened, the scan goes on from the end of the match
  have hplain : ∀ {s' : LineState}, s'.stack = s.stack → s'.position = s.position →
      s.position < (advance m s.position (s', false)).position ∨
        (advance m s.position (s', false)).position = s.position ∧ m.stop ≤ s.position ∧
          (advance m s.position (s', false)).stack = s.stack := by
    intro s' hstack hposition
    rcases Nat.lt_or_ge s.position m.stop with hlt | hle
    · exact .inl (by simp [advance, hlt])
    · exact .inr ⟨by simp [advance, Nat.not_lt_of_ge hle, hposition], hle, hstack⟩
  cases he with
  | empty => exact (hplain rfl rfl).imp_right fun h ↦ ⟨h.1, .inr h.2⟩
  | plain => exact (hplain rfl rfl).imp_right fun h ↦ ⟨h.1, .inr h.2⟩
  | flattened => exact (hplain rfl rfl).imp_right fun h ↦ ⟨h.1, .inr h.2⟩
  | opened labels hlt =>
    rcases Nat.lt_or_eq_of_le hm with hm | hm
    · exact .inl hm
    · exact .inr ⟨hm.symm, .inl ⟨_, rfl, Nat.lt_of_le_of_lt (Nat.le_of_eq hm) hlt⟩⟩

@[simp] theorem Frame.reachesPast_region (p : Nat) (r : Region) :
    Frame.reachesPast p (.region r) = false := rfl

@[simp] theorem Frame.pendingCount_region (r : Region) : Frame.pendingCount (.region r) = 0 := rfl

/-- In a frame that has no bound, or one ahead, nothing has to stop. -/
theorem Frame.stopsBy_eq_false {s : Stack} {p : Nat} {f : Frame} {below : List Frame}
    (hf : s.frames = f :: below) (hbound : ∀ b, s.bound? = some b → p < b) :
    f.stopsBy p = false := by
  rw [Stack.bound?, hf] at hbound
  rw [Frame.stopsBy]
  cases hb : f.bound? with
  | none => rfl
  | some b => exact decide_eq_false (Nat.not_le_of_lt (hbound b hb))

/-- Leaving a region that was entered elsewhere. -/
theorem Stack.potentialAt_lt_of_left {s : Stack} {p : Nat} {r : Region} {below : List Frame}
    (hf : s.frames = .region r :: below) (hbound : ∀ b, s.bound? = some b → p < b)
    (hr : r.enteredAt ≠ some p) :
    (s.withFrames below).potentialAt refs limit p < s.potentialAt refs limit p := by
  have hstops := Frame.stopsBy_eq_false hf hbound
  have hfrom : Frame.isFrom p (.region r) = true := by
    simpa [Frame.isFrom, Frame.enteredAt?] using hr
  refine potentialAt_lt_of_isFrom ?_ ?_ ?_ (.inl ?_)
  · simp [withFrames, hf]
  · simp [withFrames, pendingCount, hf]
  · simp [withFrames, hf, hstops]
  · simp [withFrames, hf, hfrom]

/-- A region that is opened counts as entered where its search began, besides those that were. -/
theorem Stack.hasEnteredAt_push {s : Stack} {p : Nat} {r : Region} (hr : r.enteredAt = some p)
    (ref : RuleRef) :
    (s.push (.region r)).hasEnteredAt ref p = (r.rule == ref || s.hasEnteredAt ref p) := by
  have hentered : ((Frame.region r).enteredAt? == some p) = true := by
    simp [Frame.enteredAt?, hr]
  simp only [hasEnteredAt, push, List.takeWhile_cons, hentered, if_true, List.any_cons]
  rfl

/-- Beginning a region whose rule was not entered at the position yet. -/
theorem Stack.potentialAt_lt_of_entered {s : Stack} {p : Nat} {r : Region}
    (hr : r.enteredAt = some p) (hbound : r.bound = s.bound?)
    (hahead : ∀ b, s.bound? = some b → p < b) (hnew : s.hasEnteredAt r.rule p = false)
    (href : r.rule ∈ refs) :
    (s.push (.region r)).potentialAt refs limit p < s.potentialAt refs limit p := by
  have hstops : Frame.stopsBy p (.region r) = false :=
    @Frame.stopsBy_eq_false (s.push (.region r)) p _ _ rfl fun b hb ↦ hahead b (hbound ▸ hb)
  have hfrom : Frame.isFrom p (.region r) = false := by
    simp [Frame.isFrom, Frame.enteredAt?, hr]
  refine potentialAt_lt_of_isFrom ?_ ?_ ?_ (.inr ⟨?_, ?_⟩)
  · simp [push]
  · simp [push, pendingCount]
  · simp [push, hstops]
  · simp [push, hfrom]
  · -- the rule of the region is one that is taken off the list
    have hsub : (s.push (.region r)).unentered refs p =
        (s.unentered refs p).filter fun ref ↦ r.rule != ref := by
      rw [unentered, unentered, List.filter_filter]
      refine List.filter_congr fun ref _ ↦ ?_
      rw [hasEnteredAt_push hr, Bool.not_or]
      rfl
    rw [hsub]
    refine List.length_filter_lt_length_iff_exists.2 ⟨r.rule, ?_, by simp⟩
    exact List.mem_filter.2 ⟨href, by simp [hnew]⟩

/-- Entering the captures of a match lowers the potential, if all that was done before lowers it
where the match holds no text. -/
theorem CapturesEntered.potential_lt {s : LineState} {stack : Stack} {anchor : Option Nat}
    {m : Match} {path : ScopePath} {grammar : GrammarId} {captures : Captures}
    {e : LineState × Bool} (hs : s.position ≤ line.stop) (hm : s.position ≤ m.start)
    (he : CapturesEntered line { s with stack := stack, anchor := anchor } m path grammar
      captures e)
    (hreaches : stack.frames.countP (Frame.reachesPast s.position) =
      s.stack.frames.countP (Frame.reachesPast s.position))
    (hlimit : (advance m s.position e).stack.capturedCount ≤ limit)
    (hlt : m.stop ≤ s.position →
      stack.potentialAt refs limit s.position < s.stack.potentialAt refs limit s.position) :
    (advance m s.position e).potential refs limit line < s.potential refs limit line := by
  rcases he.advance_cases hm with hahead | ⟨hposition, ⟨c, hstack, hc⟩ | ⟨hstop, hstack⟩⟩
  · exact LineState.potential_lt_of_position_lt hs hahead
  · refine LineState.potential_lt_of_position_eq hs hposition ?_
    rw [hstack] at hlimit ⊢
    exact Stack.potentialAt_push_captured_lt hreaches hc hlimit
  · refine LineState.potential_lt_of_position_eq hs hposition ?_
    rw [hstack]
    exact hlt hstop

/-- **Applying a match makes the potential less**, as long as the number of open captures keeps to
its limit. -/
theorem Applied.potential_lt {s s' : LineState} {m : Match} {c : Candidate}
    (hs : s.position ≤ line.stop) (hm : s.position ≤ m.start)
    (hahead : ∀ b, s.stack.bound? = some b → s.position < b)
    (hlimit : s'.stack.capturedCount ≤ limit) (h : Applied ctx line s m c (some s')) :
    s'.potential ctx.registry.refs limit line < s.potential ctx.registry.refs limit line := by
  cases h with
  | ended r below rule e hf hguard _ he =>
    refine he.potential_lt hs hm (by simp [hf]) hlimit fun hstop ↦ ?_
    -- the guard has it that the region was entered elsewhere
    exact Stack.potentialAt_lt_of_left hf hahead fun hr ↦ hguard ⟨hstop, hr⟩
  | matched ref rule r names e _ _ hlt _ he =>
    -- a rule of a single pattern is refused without text
    exact he.potential_lt hs hm rfl hlimit fun hstop ↦ absurd hlt (Nat.not_lt_of_ge hstop)
  | began ref rule r region e hrule hbody hguard hregion he =>
    refine he.potential_lt hs hm (by simp [Stack.push]) hlimit fun hstop ↦ ?_
    -- the guard has it that the rule was not entered here before
    have hnew : s.stack.hasEnteredAt region.rule s.position = false := by
      rw [hregion.rule_eq]
      exact Bool.eq_false_iff.2 fun hr ↦ hguard ⟨hstop, hr⟩
    refine Stack.potentialAt_lt_of_entered hregion.enteredAt_eq hregion.bound_eq hahead hnew ?_
    rw [hregion.rule_eq]
    exact Registry.mem_refs_iff.2 ⟨rule, hrule⟩

/-- The captures still to come are those of the innermost frame and those of the others. -/
theorem Stack.pendingCount_cons {s : Stack} {f : Frame} {below : List Frame}
    (hf : s.frames = f :: below) :
    s.pendingCount = f.pendingCount + (s.withFrames below).pendingCount := by
  simp [pendingCount, withFrames, hf]

namespace LineState

variable {s : LineState} {t : CaptureTree CapturedScopes}

/-- A capture that is opened is counted no longer, those inside of it still are. -/
theorem pendingCount_openCapture (ht : s.nextCapture? = some t) :
    (s.openCapture t).stack.pendingCount + 1 = s.stack.pendingCount := by
  obtain ⟨c, below, rest, hf, hpending⟩ := exists_captured_of_nextCapture? ht
  rw [openCapture_stack hf, Stack.pendingCount_cons hf, Stack.pendingCount_cons rfl,
    Stack.pendingCount_cons rfl]
  simp only [Frame.pendingCount, CapturedText.child, hpending, List.tail_cons,
    CaptureTree.nodeCountOfAll, CaptureTree.nodeCount_eq]
  show _ + (_ + (s.stack.withFrames below).pendingCount) + 1 = _
  omega

/-- Entering a capture adds its frame to those that are counted, whatever of a frame is counted but
what is pending. -/
theorem countP_openCapture {c : CapturedText} {below : List Frame}
    (hf : s.stack.frames = .captured c :: below) {q : Frame → Bool}
    (hq : q (.captured { c with pending := c.pending.tail }) = q (.captured c)) :
    (s.openCapture t).stack.frames.countP q =
      s.stack.frames.countP q + if q (.captured (c.child t)) then 1 else 0 := by
  rw [openCapture_stack hf, hf]
  show List.countP q (_ :: _ :: below) = _
  rw [List.countP_cons, List.countP_cons, List.countP_cons, hq]

/-- A capture that is entered is one more frame. -/
theorem length_openCapture (ht : s.nextCapture? = some t) :
    (s.openCapture t).stack.frames.length = s.stack.frames.length + 1 := by
  obtain ⟨c, below, rest, hf, -⟩ := exists_captured_of_nextCapture? ht
  rw [openCapture_stack hf, hf]
  rfl

/-- Opening a capture at the position. Either it reaches past the position, or it has to stop there,
which weighs less than a capture that is to come. -/
theorem potentialAt_openCapture_lt (ht : s.nextCapture? = some t)
    (hlimit : (s.openCapture t).stack.capturedCount ≤ limit) :
    (s.openCapture t).stack.potentialAt refs limit s.position <
      s.stack.potentialAt refs limit s.position := by
  obtain ⟨c, below, rest, hf, hpending⟩ := exists_captured_of_nextCapture? ht
  have hreaches := @countP_openCapture s t c below hf (Frame.reachesPast s.position) rfl
  have hstops := @countP_openCapture s t c below hf (Frame.stopsBy s.position) rfl
  rcases Nat.lt_or_ge s.position t.span.stop with hlt | hge
  · have hchild : Frame.stopsBy s.position (.captured (c.child t)) = false :=
      decide_eq_false (Nat.not_le_of_lt hlt)
    rw [if_pos (by rw [Frame.reachesPast, hchild]; rfl)] at hreaches
    exact Stack.potentialAt_lt_of_reachesPast (by omega) hlimit
  · have hchild : Frame.stopsBy s.position (.captured (c.child t)) = true := decide_eq_true hge
    rw [if_neg (by simp [Frame.reachesPast, hchild])] at hreaches
    rw [if_pos hchild] at hstops
    have hcount := pendingCount_openCapture ht
    exact Stack.potentialAt_lt_of_pendingCount hreaches (by omega)

/-- Opening a capture that is not behind the position. -/
theorem potential_openCapture_lt (hpassed : s.position ≤ t.span.start)
    (ht : s.nextCapture? = some t) (hlimit : (s.openCapture t).stack.capturedCount ≤ limit) :
    (s.openCapture t).potential refs limit line < s.potential refs limit line := by
  rcases Nat.lt_or_ge line.stop s.position with hpast | hs
  · have hcount := pendingCount_openCapture ht
    have hlength := length_openCapture ht
    exact potential_lt_of_past hpast hpassed (by omega)
  · rcases Nat.lt_or_eq_of_le hpassed with hlt | heq
    · exact potential_lt_of_position_lt hs hlt
    · exact potential_lt_of_position_eq hs heq.symm (potentialAt_openCapture_lt ht hlimit)

end LineState

namespace LineState

variable {s : LineState} {f : Frame} {below : List Frame} {b : Nat}

/-- Captures that are still to come would be opened first. -/
theorem pendingCount_eq_zero (hnext : s.nextCapture? = none) (hf : s.stack.frames = f :: below) :
    f.pendingCount = 0 := by
  cases f with
  | region r => rfl
  | captured c =>
    rw [nextCapture?, hf] at hnext
    rw [Frame.pendingCount, List.head?_eq_none_iff.1 hnext, CaptureTree.nodeCountOfAll]

/-- A frame with a bound is searched up to that bound. -/
theorem limit_eq_bound (hf : s.stack.frames = f :: below) (hb : f.bound? = some b) :
    s.limit line = b := by
  rw [LineState.limit, Stack.bound?, hf]
  show f.bound?.getD line.stop = b
  rw [hb]
  rfl

/-- Closing a frame at its bound. -/
theorem potential_leave_lt (hnext : s.nextCapture? = none) (hf : s.stack.frames = f :: below)
    (hb : f.bound? = some b) :
    ((s.atLimit line).leave f below).potential refs limit line < s.potential refs limit line := by
  have hposition : ((s.atLimit line).leave f below).position = max s.position b := by
    show max s.position (s.limit line) = max s.position b
    rw [limit_eq_bound hf hb]
  have hcount := Stack.pendingCount_cons hf
  rw [pendingCount_eq_zero hnext hf, Nat.zero_add] at hcount
  rcases Nat.lt_or_ge line.stop s.position with hpast | hs
  · refine potential_lt_of_past hpast (by rw [hposition]; exact Nat.le_max_left _ _) ?_
    show 2 * (s.stack.withFrames below).pendingCount + below.length < _
    rw [hcount, hf, List.length_cons]
    omega
  · rcases Nat.lt_or_ge s.position b with hlt | hle
    · refine potential_lt_of_position_lt hs ?_
      rw [hposition]
      exact Nat.lt_of_lt_of_le hlt (Nat.le_max_right _ _)
    · refine potential_lt_of_position_eq hs (by rw [hposition]; exact Nat.max_eq_left hle) ?_
      -- the frame had to stop here, and does so no longer
      have hstops : f.stopsBy s.position = true := by
        rw [Frame.stopsBy, hb]
        exact decide_eq_true hle
      refine Stack.potentialAt_lt_of_pendingCount ?_ ?_
      · show List.countP _ below = _
        rw [hf, List.countP_cons_of_neg (by simp [Frame.reachesPast, hstops])]
      · show 2 * (s.stack.withFrames below).pendingCount + List.countP _ below < _
        rw [hcount, hf, List.countP_cons_of_pos hstops]
        omega

end LineState

/-- **A step that leaves the number of captures below the limit lowers the potential.** -/
theorem Transition.potential_lt (hE : ctx.engine.StaysInRange) {stopDepth : Option Nat}
    {s s' : LineState} (hpassed : ∀ t, s.nextCapture? = some t → s.position ≤ t.span.start)
    (hlimit : s'.stack.capturedCount ≤ limit)
    (h : Transition ctx line stopDepth s (.goOn s')) :
    s'.potential ctx.registry.refs limit line < s.potential ctx.registry.refs limit line := by
  generalize hnext : Step.goOn s' = next at h
  cases h with
  | applied m c s'' hfound happlied =>
    obtain rfl := Step.goOn.inj hnext
    obtain ⟨hstart, hle, hstop⟩ := hE.of_reportsIn hfound.reported
    have hrange := range_stop_le hfound.reported
    refine @Applied.potential_lt _ _ _ (s.extendContent m.start) _ _ _ ?_ hstart ?_ hlimit happlied
    · exact Nat.le_trans (Nat.le_trans hstart hle) (Nat.le_trans hstop hrange)
    · intro b hb
      -- nothing is searched at the bound of a frame
      refine Nat.lt_of_not_le fun hexhausted ↦ hfound.not_exhausted ⟨?_, ?_⟩
      · rw [show s.stack.bound? = some b from hb]
        rfl
      · rw [LineState.limit, show s.stack.bound? = some b from hb]
        exact hexhausted
  | stuck => cases hnext
  | openedCapture t ht =>
    obtain rfl := Step.goOn.inj hnext
    exact LineState.potential_openCapture_lt (hpassed t ht) ht hlimit
  | ended => cases hnext
  | closed f below b hnone hf hb =>
    split at hnext
    · cases hnext
    · obtain rfl := Step.goOn.inj hnext
      exact LineState.potential_leave_lt hnone hf hb

/-! ### Passed captures -/

/-- Forgetting captures does not raise the potential. -/
theorem Stack.potentialAt_le {p : Nat} {s t : Stack}
    (hreaches : t.frames.countP (Frame.reachesPast p) = s.frames.countP (Frame.reachesPast p))
    (hpending : t.pendingCount ≤ s.pendingCount)
    (hstops : t.frames.countP (Frame.stopsBy p) = s.frames.countP (Frame.stopsBy p))
    (hfrom : t.frames.countP (Frame.isFrom p) = s.frames.countP (Frame.isFrom p))
    (hunentered : t.unentered refs p = s.unentered refs p) :
    t.potentialAt refs limit p ≤ s.potentialAt refs limit p := by
  rcases Nat.lt_or_eq_of_le hpending with hlt | heq
  · refine le_of_lt (potentialAt_lt_of_pendingCount hreaches ?_)
    omega
  · rw [potentialAt, potentialAt, hreaches, heq, hstops, hfrom, hunentered]

/-- Past the end of the text the potential gets no more if no captures and no frames come up. -/
theorem Stack.potentialPast_le {s t : Stack} (hpending : t.pendingCount ≤ s.pendingCount)
    (hlength : t.frames.length = s.frames.length) : t.potentialPast ≤ s.potentialPast := by
  rcases Nat.lt_or_eq_of_le hpending with hlt | heq
  · refine le_of_lt (Prod.Lex.toLex_lt_toLex.2 (.inr ⟨rfl, Prod.Lex.toLex_lt_toLex.2 (.inl ?_)⟩))
    show 2 * _ + _ < 2 * _ + _
    omega
  · rw [potentialPast, potentialPast, heq, hlength]

namespace Stack

variable {s : Stack} {c : CapturedText} {pending : List (CaptureTree CapturedScopes)}

/-- Passing over captures leaves no more of them to come. -/
theorem pendingCount_forget_le
    (h : CaptureTree.nodeCountOfAll pending ≤ CaptureTree.nodeCountOfAll c.pending) :
    (s.push (.captured { c with pending := pending })).pendingCount ≤
      (s.push (.captured c)).pendingCount := by
  simpa [push, pendingCount, Frame.pendingCount] using h

/-- Passing over captures does not make the potential at a position more. -/
theorem potentialAt_forget_le {p : Nat}
    (h : CaptureTree.nodeCountOfAll pending ≤ CaptureTree.nodeCountOfAll c.pending) :
    (s.push (.captured { c with pending := pending })).potentialAt refs limit p ≤
      (s.push (.captured c)).potentialAt refs limit p := by
  have hcount : ∀ q : Frame → Bool, q (.captured { c with pending := pending }) = q (.captured c) →
      (s.push (.captured { c with pending := pending })).frames.countP q =
        (s.push (.captured c)).frames.countP q := by
    intro q hq
    rw [push, push, List.countP_cons, List.countP_cons, hq]
  refine potentialAt_le (hcount _ rfl) (pendingCount_forget_le h) (hcount _ rfl) (hcount _ rfl) ?_
  refine List.filter_congr fun ref _ ↦ ?_
  by_cases hstart : c.start = p
  · simp [hasEnteredAt, push, Frame.enteredAt?, Frame.owner?, hstart]
  · simp [hasEnteredAt, push, Frame.enteredAt?, hstart]

end Stack

namespace LineState

variable {s : LineState}

/-- The captures that are left when the passed ones are forgotten do not lie behind. -/
theorem position_le_of_dropPassed {t : CaptureTree CapturedScopes}
    (h : s.dropPassed.nextCapture? = some t) : s.dropPassed.position ≤ t.span.start := by
  rw [dropPassed] at h ⊢
  split at h
  · rename_i c below hf
    have hhead := List.head?_dropWhile_not (fun t ↦ decide (t.span.start < s.position)) c.pending
    rw [show (c.pending.dropWhile _).head? = some t from h] at hhead
    simpa using hhead
  · rename_i hnone
    obtain ⟨c, below, rest, hf, -⟩ := exists_captured_of_nextCapture? h
    exact (hnone c below hf).elim

/-- Passing over the captures that start before the position does not make the potential more. -/
theorem potential_dropPassed_le :
    s.dropPassed.potential refs limit line ≤ s.potential refs limit line := by
  rcases s.dropPassed_eq with heq | ⟨c, below, hf, heq⟩
  · rw [heq]
  · have hpending : CaptureTree.nodeCountOfAll (pendingFrom s.position c.pending) ≤
        CaptureTree.nodeCountOfAll c.pending :=
      CaptureTree.nodeCountOfAll_le_of_suffix (List.dropWhile_suffix _)
    have hstack : s.stack = (s.stack.withFrames below).push (.captured c) := by
      rw [Stack.push, Stack.withFrames, ← hf]
    rw [heq, potential, potential]
    dsimp only
    split
    · refine Prod.Lex.toLex_le_toLex.2 (.inr ⟨rfl, ?_⟩)
      rw [hstack]
      exact Stack.potentialAt_forget_le hpending
    · refine Prod.Lex.toLex_le_toLex.2 (.inr ⟨rfl, ?_⟩)
      rw [hstack]
      exact Stack.potentialPast_le (Stack.pendingCount_forget_le hpending) rfl

end LineState

/-- **Every step of a scan lowers the potential.** -/
theorem potential_lt_of_step (hE : ctx.engine.StaysInRange) {stopDepth : Option Nat}
    {s s' : LineState} (hlimit : s'.stack.capturedCount ≤ limit)
    (h : Returns (step ctx line stopDepth s) (.goOn s')) :
    s'.potential ctx.registry.refs limit line < s.potential ctx.registry.refs limit line :=
  lt_of_lt_of_le
    ((transition_of_step h).potential_lt hE (fun _ ↦ LineState.position_le_of_dropPassed) hlimit)
    LineState.potential_dropPassed_le

end ScopeGrammar
