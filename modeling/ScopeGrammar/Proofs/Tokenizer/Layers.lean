import ScopeGrammar.Proofs.Tokenizer.Invariant

/-!
# Layers of a stack

What holds of open frames is said of each frame and the stack that it lies on: `s.Layered G` has
`G` for every frame of `s`. `FrameInvariant` lists what `G` has to keep through, one condition for
each way in which a frame comes to be or changes, and `FrameInvariant.lineInvariant` makes an
invariant of line states of it. The stack is gone through in this module only.
-/

namespace ScopeGrammar

open Tokenizing

variable {ctx : Context} {line : LineText} {T : Stack → RuleRef → Prop} {G : Stack → Frame → Prop}

/-! ### Layered stacks -/

namespace Stack

/-- Each frame stands in a relation to the stack that it lies on. -/
def Layered (G : Stack → Frame → Prop) (s : Stack) : Prop :=
  ∀ f below, f :: below <:+ s.frames → G (s.withFrames below) f

/-- A stack without frames has any layers. -/
theorem layered_of_nil {s : Stack} (h : s.frames = []) : s.Layered G := by
  intro f below hsuffix
  rw [h, List.suffix_nil] at hsuffix
  contradiction

/-- The layers of a stack are its innermost frame and those of the stack that this frame lies on. -/
theorem layered_iff_of_cons {s : Stack} {f : Frame} {below : List Frame}
    (h : s.frames = f :: below) :
    s.Layered G ↔ G (s.withFrames below) f ∧ (s.withFrames below).Layered G := by
  constructor
  · intro hs
    refine ⟨hs f below (h ▸ List.suffix_rfl), fun f' below' hsuffix ↦ hs f' below' ?_⟩
    rw [h]
    exact hsuffix.trans (List.suffix_cons f below)
  · rintro ⟨hf, hbelow⟩ f' below' hsuffix
    rw [h] at hsuffix
    rcases List.suffix_cons_iff.1 hsuffix with heq | hsuffix
    · obtain ⟨rfl, rfl⟩ := List.cons.inj heq
      exact hf
    · exact hbelow f' below' hsuffix

/-- A frame that is pushed is a layer on the others. -/
theorem layered_push {s : Stack} {f : Frame} : (s.push f).Layered G ↔ G s f ∧ s.Layered G :=
  layered_iff_of_cons rfl

/-- The outer frames of a stack are layers by themselves. -/
theorem Layered.withFrames {s : Stack} {frames : List Frame} (hs : s.Layered G)
    (h : frames <:+ s.frames) : (s.withFrames frames).Layered G :=
  fun f below hsuffix ↦ hs f below (hsuffix.trans h)

theorem Layered.mono {G' : Stack → Frame → Prop} {s : Stack} (hs : s.Layered G)
    (h : ∀ below f, G below f → G' below f) : s.Layered G' :=
  fun f below hsuffix ↦ h _ f (hs f below hsuffix)

end Stack

/-- Of the frames that are open when the rules are stuck, outer ones are left. -/
theorem exists_stack_of_stopLine (line : LineText) (s : LineState) (frames : List Frame) :
    ∃ left, left <:+ frames ∧ (stopLine line s frames).stack = s.stack.withFrames left := by
  fun_induction stopLine line s frames with
  | case1 s f below b hb anchor ih =>
    obtain ⟨left, hleft, hstack⟩ := ih
    exact ⟨left, hleft.trans (List.suffix_cons f below), hstack⟩
  | case2 s f below hb => exact ⟨f :: below, List.suffix_rfl, rfl⟩
  | case3 s => exact ⟨[], List.suffix_rfl, rfl⟩

/-! ### Invariants of frames -/

/-- Where the captures of a match are entered: on which stack, in text of which scopes, and as which
rule has it, of those that are tried. -/
inductive CaptureSite (ctx : Context) (T : Stack → RuleRef → Prop) (G : Stack → Frame → Prop) :
    Stack → ScopePath → GrammarId → Captures → Prop
  /-- The match of an end pattern, whose region is closed already. -/
  | ended (s : Stack) (r : Region) (rule : Rule) (hr : G s (.region r))
      (hrule : ctx.registry.rule r.rule = .ok rule) :
      CaptureSite ctx T G s r.nameScopes r.rule.grammar (rule.exitCaptures?.getD {})
  /-- The match of a rule of a single pattern. -/
  | matched (s : Stack) (ref : RuleRef) (rule : Rule) (r : SingleRule) (names : List ScopeName)
      (htried : T s ref) (hrule : ctx.registry.rule ref = .ok rule) (hbody : rule.body = .single r)
      (hnames : NamesOf r.name names) :
      CaptureSite ctx T G s (s.scopes.append names) ref.grammar r.captures
  /-- The match of a begin pattern, whose region is open already. -/
  | began (s : Stack) (region : Region) (rule : Rule) (r : RegionRule) (hr : G s (.region region))
      (hrule : ctx.registry.rule region.rule = .ok rule) (hbody : rule.body = .region r) :
      CaptureSite ctx T G (s.push (.region region)) region.nameScopes region.rule.grammar
        r.beginCaptures
  /-- The match of a while pattern. -/
  | continued (s : Stack) (r : Region) (rule : Rule) (hr : G s (.region r))
      (hrule : ctx.registry.rule r.rule = .ok rule) :
      CaptureSite ctx T G (s.push (.region r)) r.contentScopes r.rule.grammar
        (rule.exitCaptures?.getD {})

/-- The frame that is opened for the text of a match. -/
def Match.frame (m : Match) (path : ScopePath) (labels : List (Nat × CapturedScopes)) :
    CapturedText where
  patterns := none
  scopes := path
  pending := CaptureTree.forest m.clipped labels
  start := m.start
  stop := m.stop

/-- The frame that is opened for a capture. -/
def CapturedText.child (c : CapturedText) (t : CaptureTree CapturedScopes) : CapturedText where
  patterns := t.label.patterns
  scopes := c.scopes.append t.label.scopes
  pending := t.children
  start := t.span.start
  stop := t.span.stop

namespace LineState

variable {s : LineState} {t : CaptureTree CapturedScopes}

/-- A capture is only entered from the frame of a capture, as the first that is pending there. -/
theorem exists_captured_of_nextCapture? (h : s.nextCapture? = some t) :
    ∃ c below rest, s.stack.frames = .captured c :: below ∧ c.pending = t :: rest := by
  rw [nextCapture?] at h
  split at h
  · rename_i c below hf
    obtain ⟨rest, hpending⟩ := List.head?_eq_some_iff.1 h
    exact ⟨c, below, rest, hf, hpending⟩
  · contradiction

/-- Passing over captures changes nothing but what is pending in the innermost frame. -/
theorem dropPassed_eq (s : LineState) :
    s.dropPassed = s ∨ ∃ c below, s.stack.frames = .captured c :: below ∧
      s.dropPassed =
        { s with
          stack := (s.stack.withFrames below).push
            (.captured { c with pending := pendingFrom s.position c.pending }) } := by
  rw [dropPassed]
  split
  · rename_i c below hf
    exact .inr ⟨c, below, hf, rfl⟩
  · exact .inl rfl

/-- A capture that is entered is no longer pending in the frame below its own. -/
theorem openCapture_stack {c : CapturedText} {below : List Frame}
    (hf : s.stack.frames = .captured c :: below) :
    (s.openCapture t).stack =
      ((s.stack.withFrames below).push (.captured { c with pending := c.pending.tail })).push
        (.captured (c.child t)) := by
  simp only [openCapture, extendContent, extend, hf, Stack.scopes]
  rfl

end LineState

/-- The relation is kept by all that happens to frames in a line, if no other rules are tried on a
stack. -/
structure FrameInvariant (ctx : Context) (line : LineText) (T : Stack → RuleRef → Prop)
    (G : Stack → Frame → Prop) : Prop where
  /-- Captures are passed or opened. -/
  pending : ∀ {s : Stack} {c : CapturedText} {pending : List (CaptureTree CapturedScopes)},
    G s (.captured c) → pending <:+ c.pending → G s (.captured { c with pending := pending })
  /-- A capture is opened. -/
  child : ∀ {s : Stack} {c : CapturedText} {t : CaptureTree CapturedScopes},
    G s (.captured c) → c.pending.head? = some t →
      G (s.push (.captured { c with pending := c.pending.tail })) (.captured (c.child t))
  /-- A region begins. -/
  began : ∀ {s : LineState} {range : Span} {m : Match} {ref : RuleRef} {rule : Rule}
    {r : RegionRule} {region : Region}, s.stack.Layered G → T s.stack ref →
      ctx.engine.ReportsIn line.chars range m → ctx.registry.rule ref = .ok rule →
      rule.body = .region r → RegionOpened ctx line s ref r m region →
      G s.stack (.region region)
  /-- A frame is opened for the captures of a match. -/
  entered : ∀ {s : Stack} {range : Span} {m : Match} {path : ScopePath} {grammar : GrammarId}
    {captures : Captures} {labels : List (Nat × CapturedScopes)}, s.Layered G →
      CaptureSite ctx T G s path grammar captures → ctx.engine.ReportsIn line.chars range m →
      m.start < m.stop → captures.hasPatterns = true →
      Returns (capturedScopes line m grammar captures.entries) labels →
      G s (.captured (m.frame path labels))

namespace FrameInvariant

variable (hG : FrameInvariant ctx line T G)

include hG

/-- Layers are kept when captures are passed over. -/
theorem dropPassed {s : LineState} (hs : s.stack.Layered G) : s.dropPassed.stack.Layered G := by
  rw [LineState.dropPassed]
  split
  · rename_i c below hf
    obtain ⟨hc, hbelow⟩ := (Stack.layered_iff_of_cons hf).1 hs
    exact (Stack.layered_iff_of_cons rfl).2
      ⟨hG.pending hc (List.dropWhile_suffix _), hbelow⟩
  · exact hs

/-- Layers are kept when a capture is entered. -/
theorem openCapture {s : LineState} {t : CaptureTree CapturedScopes} (hs : s.stack.Layered G)
    (ht : s.nextCapture? = some t) : (s.openCapture t).stack.Layered G := by
  obtain ⟨c, below, rest, hf, hpending⟩ := LineState.exists_captured_of_nextCapture? ht
  obtain ⟨hc, hbelow⟩ := (Stack.layered_iff_of_cons hf).1 hs
  rw [LineState.openCapture_stack hf, Stack.layered_push, Stack.layered_push]
  exact ⟨hG.child hc (by rw [hpending]; rfl), hG.pending hc (List.tail_suffix _), hbelow⟩

/-- Layers are kept when the captures of a match are entered. -/
theorem capturesEntered {s : LineState} {range : Span} {m : Match} {path : ScopePath}
    {grammar : GrammarId} {captures : Captures} {e : LineState × Bool} (hs : s.stack.Layered G)
    (hsite : CaptureSite ctx T G s.stack path grammar captures)
    (hm : ctx.engine.ReportsIn line.chars range m)
    (he : CapturesEntered line s m path grammar captures e) : e.1.stack.Layered G := by
  cases he with
  | empty => exact hs
  | plain => exact hs
  | opened labels hlt hp hl =>
    exact Stack.layered_push.2 ⟨hG.entered hs hsite hm hlt hp hl, hs⟩
  | flattened => exact hs

/-- **A match that is applied has its captures entered**, on the stack and in the text that it
leads to. -/
theorem exists_site_of_applied {s s' : LineState} {range : Span} {m : Match} {c : Candidate}
    (hs : s.stack.Layered G) (hm : ctx.engine.ReportsIn line.chars range m)
    (htried : ∀ ref, c = .rule ref → T s.stack ref) (h : Applied ctx line s m c (some s')) :
    ∃ stack anchor path grammar captures e, stack.withFrames [] = s.stack.withFrames [] ∧
      stack.Layered G ∧ CaptureSite ctx T G stack path grammar captures ∧
      CapturesEntered line { s with stack := stack, anchor := anchor } m path grammar captures e ∧
      s' = advance m s.position e := by
  cases h with
  | ended r below rule e hf _ hrule he =>
    obtain ⟨hr, hbelow⟩ := (Stack.layered_iff_of_cons hf).1 hs
    exact ⟨s.stack.withFrames below, _, _, _, _, e, rfl, hbelow, .ended _ r rule hr hrule, he, rfl⟩
  | matched ref rule r names e hrule hbody _ hnames he =>
    exact ⟨s.stack, _, _, _, _, e, rfl, hs,
      .matched _ ref rule r names (htried ref rfl) hrule hbody hnames, he, rfl⟩
  | began ref rule r region e hrule hbody _ hregion he =>
    -- the region is on the stack when its captures are entered
    have hr : G s.stack (.region region) := hG.began hs (htried ref rfl) hm hrule hbody hregion
    rw [← hregion.rule_eq] at he hrule
    exact ⟨s.stack.push (.region region), _, _, _, _, e, rfl, Stack.layered_push.2 ⟨hr, hs⟩,
      .began _ region rule r hr hrule hbody, he, rfl⟩

/-- Layers are kept when a match of a candidate that was tried is applied. -/
theorem applied {s s' : LineState} {range : Span} {m : Match} {c : Candidate}
    (hs : s.stack.Layered G) (hm : ctx.engine.ReportsIn line.chars range m)
    (htried : ∀ ref, c = .rule ref → T s.stack ref) (h : Applied ctx line s m c (some s')) :
    s'.stack.Layered G := by
  obtain ⟨stack, anchor, path, grammar, captures, e, -, hstack, hsite, he, rfl⟩ :=
    hG.exists_site_of_applied hs hm htried h
  exact hG.capturesEntered hstack hsite hm he

/-- Layers are kept by every step of a scan. -/
theorem transition {stopDepth : Option Nat} {s : LineState} {next : Step}
    (hs : s.stack.Layered G) (h : TransitionOf ctx line T stopDepth s next) :
    next.state.stack.Layered G := by
  cases h with
  | applied m c s' hfound happlied =>
    exact hG.applied (s := s.extendContent m.start) hs hfound.reported hfound.tried happlied
  | stuck m c =>
    obtain ⟨left, hleft, hstack⟩ := exists_stack_of_stopLine line (s.extendContent m.start)
      s.stack.frames
    rw [Step.state, hstack]
    exact hs.withFrames hleft
  | openedCapture t ht => exact hG.openCapture hs ht
  | ended => exact hs
  | closed f below b _ hf =>
    have hbelow := ((Stack.layered_iff_of_cons hf).1 hs).2
    split <;> exact hbelow

/-- The captures of a region that goes on are entered. -/
theorem entered_of_goesOn {s : LineState} {r : Region} {m : Match} {rule : Rule}
    {e : LineState × Bool} (hs : s.stack.Layered G) (hgoes : GoesOn ctx line s r m)
    (hrule : ctx.registry.rule r.rule = .ok rule)
    (he : CapturesEntered line s m r.contentScopes r.rule.grammar (rule.exitCaptures?.getD {}) e) :
    e.1.stack.Layered G := by
  obtain ⟨below, hf⟩ := hgoes.innermost
  obtain ⟨hr, -⟩ := (Stack.layered_iff_of_cons hf).1 hs
  have hsite : CaptureSite ctx T G ((s.stack.withFrames below).push (.region r)) r.contentScopes
      r.rule.grammar (rule.exitCaptures?.getD {}) := .continued _ r rule hr hrule
  -- the region that goes on is the innermost one of the frames that are looked at
  have hstack : (s.stack.withFrames below).push (.region r) = s.stack := by
    rw [Stack.push, Stack.withFrames]
    rw [← hf]
  rw [hstack] at hsite
  exact hG.capturesEntered hs hsite hgoes.reported he

omit hG in
/-- **What every frame keeps, a line keeps.** -/
theorem lineInvariant (hG : FrameInvariant ctx line (fun _ _ ↦ True) G) :
    LineInvariant ctx line fun s ↦ s.stack.Layered G where
  withFrames hs h := hs.withFrames h
  dropPassed hs := hG.dropPassed hs
  transition hs h := hG.transition hs h
  entered hs hgoes hrule he := hG.entered_of_goesOn hs hgoes hrule he
  continued hs _ _ := hs

end FrameInvariant

/-! ### The root -/

/-- Entering captures does not touch the root of the stack. -/
theorem CapturesEntered.root_eq {s : LineState} {m : Match} {path : ScopePath}
    {grammar : GrammarId} {captures : Captures} {e : LineState × Bool}
    (he : CapturesEntered line s m path grammar captures e) :
    e.1.stack.withFrames [] = s.stack.withFrames [] := by
  cases he <;> rfl

/-- What lies under all frames stays as it is. -/
theorem root_invariant (ctx : Context) (line : LineText) (root : Stack) :
    LineInvariant ctx line fun s ↦ s.stack.withFrames [] = root where
  withFrames hs _ := hs
  dropPassed := by
    intro s hs
    rw [LineState.dropPassed]
    split <;> exact hs
  transition := by
    intro stopDepth s next hs h
    cases h with
    | applied m c s' _ happlied =>
      cases happlied with
      | ended r below rule e _ _ _ he => exact he.root_eq.trans hs
      | matched ref rule r names e _ _ _ _ he => exact he.root_eq.trans hs
      | began ref rule r region e _ _ _ _ he => exact he.root_eq.trans hs
    | stuck m c =>
      obtain ⟨left, -, hstack⟩ := exists_stack_of_stopLine line (s.extendContent m.start)
        s.stack.frames
      rw [Step.state, hstack]
      exact hs
    | openedCapture => exact hs
    | ended => exact hs
    | closed => split <;> exact hs
  entered hs _ _ he := he.root_eq.trans hs
  continued hs _ _ := hs

end ScopeGrammar
