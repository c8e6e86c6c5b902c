import ScopeGrammar.Proofs.Registry.Closed
import ScopeGrammar.Proofs.Tokenizer.Coverage

/-!
# Sound states

What a step relies on: the position and the bounds of all frames are at characters of the line, and
all frames have rules that the registry knows (`LineState.IsSound`). Regions have theirs because
they fit on the stack; those of captures come from the rules that opened them, through the labels of
their trees (`Frame.HasRules`).
-/

namespace ScopeGrammar

open Tokenizing

variable {ctx : Context} {line : LineText} {P Q : LineState → Prop}

/-- Two properties that are kept are kept together. -/
theorem LineInvariant.and (hP : LineInvariant ctx line P) (hQ : LineInvariant ctx line Q) :
    LineInvariant ctx line fun s ↦ P s ∧ Q s where
  withFrames h hsuffix := ⟨hP.withFrames h.1 hsuffix, hQ.withFrames h.2 hsuffix⟩
  dropPassed h := ⟨hP.dropPassed h.1, hQ.dropPassed h.2⟩
  transition h ht := ⟨hP.transition h.1 ht, hQ.transition h.2 ht⟩
  entered h hgoes hrule he := ⟨hP.entered h.1 hgoes hrule he, hQ.entered h.2 hgoes hrule he⟩
  continued h hscanned hm := ⟨hP.continued h.1 hscanned.1 hm, hQ.continued h.2 hscanned.2 hm⟩

/-- An invariant can be said in other words. -/
theorem LineInvariant.of_iff (hP : LineInvariant ctx line P) (h : ∀ s, Q s ↔ P s) :
    LineInvariant ctx line Q := by
  obtain rfl : Q = P := funext fun s ↦ propext (h s)
  exact hP

/-! ### Rules of captures -/

/-- What a capture gives to its text is ruled by the registry. -/
def CapturedScopes.HasRules (r : Registry) (c : CapturedScopes) : Prop :=
  ∀ ref, c.patterns = some ref → r.HasRule ref

/-- The rules of the text of a capture, and of the captures in it, are known. -/
def Frame.HasRules (r : Registry) : Frame → Prop
  | .region _ => True
  | .captured c =>
    (∀ ref, c.patterns = some ref → r.HasRule ref) ∧
      ∀ t ∈ c.pending, t.All fun _ label ↦ label.HasRules r

/-- A region that fits on a stack has a rule of the registry. -/
theorem Region.FitsOn.hasRule {r : Registry} {s : Stack} {region : Region}
    (h : region.FitsOn r s) : r.HasRule region.rule := by
  obtain ⟨rule, body, hrule, -⟩ := h.ruled
  exact Registry.hasRule_of_rule hrule

/-- The captures that are entered are those of a rule of the grammar. -/
theorem CaptureSite.exists_isClosed {T : Stack → RuleRef → Prop} {G : Stack → Frame → Prop}
    {s : Stack} {path : ScopePath} {grammar : GrammarId} {captures : Captures}
    (hr : ctx.registry.IsClosed) (h : CaptureSite ctx T G s path grammar captures) :
    ∃ g, ctx.registry.grammars[grammar]? = some g ∧ captures.IsClosed g.rules.size := by
  have hexit : ∀ {ref : RuleRef} {rule : Rule}, ctx.registry.rule ref = .ok rule →
      ∃ g, ctx.registry.grammars[ref.grammar]? = some g ∧
        (rule.exitCaptures?.getD {}).IsClosed g.rules.size := by
    intro ref rule hrule
    obtain ⟨g, hg, hclosed⟩ := hr.exists_body hrule
    refine ⟨g, hg, ?_⟩
    rw [Rule.exitCaptures?]
    split
    · rename_i hbody
      rw [hbody] at hclosed
      exact hclosed.2.2.2.1
    all_goals exact Captures.isClosed_empty _
  cases h with
  | ended _ r rule _ hrule => exact hexit hrule
  | matched _ ref rule r names _ hrule hbody =>
    obtain ⟨g, hg, hclosed⟩ := hr.exists_body hrule
    rw [hbody] at hclosed
    exact ⟨g, hg, hclosed.2⟩
  | began s region rule r _ hrule hbody =>
    obtain ⟨g, hg, hclosed⟩ := hr.exists_body hrule
    rw [hbody] at hclosed
    exact ⟨g, hg, hclosed.2.2.1⟩
  | continued s r rule _ hrule => exact hexit hrule

/-- Frames have rules of the registry all through a line, since rules lead to none but those. -/
theorem hasRules_invariant (hr : ctx.registry.IsClosed) :
    FrameInvariant ctx line (fun _ _ ↦ True) fun _ f ↦ f.HasRules ctx.registry where
  pending h hsuffix := ⟨h.1, fun t ht ↦ h.2 t (hsuffix.mem ht)⟩
  child h ht :=
    have hall := h.2 _ (List.mem_of_mem_head? ht)
    ⟨hall.own, hall.children⟩
  began _ _ _ _ _ _ := True.intro
  entered := by
    intro s range m path grammar captures labels _ hsite _ _ _ hl
    obtain ⟨g, hg, hclosed⟩ := hsite.exists_isClosed hr
    exact ⟨fun ref href ↦ (by cases href),
      patterns_of_mem_forest hl fun e he id hid ↦ ⟨g, hg, hclosed e he id hid⟩⟩

/-! ### Positions -/

/-- The frames and the position of a state are at characters of the line. -/
structure LineState.LiesIn (line : LineText) (s : LineState) : Prop where
  frames : s.stack.Layered (Frame.LiesIn line)
  position : IsBoundary line.chars s.position

namespace LineState.LiesIn

variable {s : LineState}

/-- The innermost frame is searched up to a boundary. -/
theorem limit (h : s.LiesIn line) : IsBoundary line.chars (s.limit line) := by
  rw [LineState.limit]
  cases hb : s.stack.bound? with
  | none => exact line.isBoundary_stop
  | some b => exact Stack.isBoundary_of_bound? h.frames hb

/-- A match that lies between boundaries leaves the position at one. -/
theorem position_advance (h : IsBoundary line.chars s.position) {m : Match} {before : Nat}
    {opened : Bool} (hm : line.Bounds m.whole) :
    IsBoundary line.chars (advance m before (s, opened)).position := by
  rw [advance]
  dsimp only
  split
  · exact hm.1
  · split
    · exact hm.2
    · exact h

theorem position_stopLine (line : LineText) (s : LineState) (frames : List Frame) :
    (stopLine line s frames).position = line.stop := by
  fun_induction stopLine line s frames with
  | case1 s f below b hb anchor ih => exact ih
  | case2 s f below hb => rfl
  | case3 s => rfl

/-- Every step leaves all positions at boundaries. -/
theorem transition (hE : ctx.engine.KeepsBoundaries) {stopDepth : Option Nat} {next : Step}
    (h : s.LiesIn line) (ht : Transition ctx line stopDepth s next) : next.state.LiesIn line := by
  refine ⟨(liesIn_invariant hE).transition h.frames ht, ?_⟩
  cases ht with
  | applied m c s' hfound happlied =>
    have hm : line.Bounds m.whole := hE.of_reportsIn hfound.reported List.mem_cons_self
    obtain ⟨stack, anchor, path, grammar, captures, ⟨e, opened⟩, -, -, -, he, rfl⟩ :=
      (liesIn_invariant hE).exists_site_of_applied (s := s.extendContent m.start) h.frames
        hfound.reported hfound.tried happlied
    -- entering the captures leaves the position as it is
    refine position_advance ?_ hm
    have heq : e.position = s.position := he.position_eq
    rw [heq]
    exact h.position
  | stuck m c =>
    rw [Step.state, position_stopLine]
    exact line.isBoundary_stop
  | openedCapture t hnext =>
    obtain ⟨c, below, rest, hf, hpending⟩ := LineState.exists_captured_of_nextCapture? hnext
    have hc := ((Stack.layered_iff_of_cons hf).1 h.frames).1
    exact (hc.2.2 t (by rw [hpending]; exact List.mem_cons_self)).own.1
  | ended => exact h.position.max h.limit
  | closed => split <;> exact h.position.max h.limit

end LineState.LiesIn

/-- All positions of a line are boundaries, from its start on. -/
theorem lineState_liesIn_invariant (hE : ctx.engine.KeepsBoundaries) :
    LineInvariant ctx line (LineState.LiesIn line) where
  withFrames h hsuffix := ⟨h.frames.withFrames hsuffix, h.position⟩
  dropPassed := by
    intro s h
    refine ⟨(liesIn_invariant hE).dropPassed h.frames, ?_⟩
    rw [LineState.dropPassed]
    split <;> exact h.position
  transition h ht := h.transition hE ht
  entered := by
    intro s r m rule e h hgoes hrule he
    refine ⟨(liesIn_invariant hE).lineInvariant.entered h.frames hgoes hrule he, ?_⟩
    rw [he.position_eq]
    exact h.position
  continued := by
    intro s scanned m h hscanned hm
    refine ⟨h.frames, ?_⟩
    rw [afterContinuation]
    dsimp only
    split
    · exact hscanned.position.max (hE.of_reportsIn hm List.mem_cons_self).2
    · exact hscanned.position

/-! ### Sound states -/

/-- A document can be tokenized with all that there is. -/
structure Context.IsSound (ctx : Context) : Prop where
  registry : ctx.registry.IsClosed
  base_lt : ctx.base < ctx.registry.grammars.size
  injections : ∀ i ∈ ctx.injections, ctx.registry.HasRule ⟨i.1, i.2.rule⟩

/-- A step can be made from the state. -/
structure LineState.IsSound (ctx : Context) (line : LineText) (s : LineState) : Prop where
  base_eq : s.stack.grammar = ctx.base
  fits : s.stack.Layered fun s f ↦ f.FitsOn ctx.registry s
  lies : s.LiesIn line
  ruled : s.stack.Layered fun _ f ↦ f.HasRules ctx.registry

/-- The grammar of a document stays the same. -/
theorem base_invariant (ctx : Context) (line : LineText) :
    LineInvariant ctx line fun s ↦ s.stack.grammar = ctx.base where
  withFrames h _ := h
  dropPassed h := (congrArg Stack.grammar ((root_invariant ctx line _).dropPassed rfl)).trans h
  transition h ht :=
    (congrArg Stack.grammar ((root_invariant ctx line _).transition rfl ht)).trans h
  entered h _ _ he := (congrArg Stack.grammar he.root_eq).trans h
  continued h _ _ := h

/-- **A line keeps its states sound.** -/
theorem isSound_invariant (hr : ctx.registry.IsClosed) (hE : ctx.engine.KeepsBoundaries) :
    LineInvariant ctx line (LineState.IsSound ctx line) := by
  have hframes :=
    (fitsOn_invariant ctx line).lineInvariant.and (hasRules_invariant hr).lineInvariant
  refine ((base_invariant ctx line).and ((lineState_liesIn_invariant hE).and hframes)).of_iff ?_
  exact fun s ↦ ⟨fun ⟨hbase, hfits, hlies, hruled⟩ ↦ ⟨hbase, hlies, hfits, hruled⟩,
    fun ⟨hbase, hlies, hfits, hruled⟩ ↦ ⟨hbase, hfits, hlies, hruled⟩⟩

end ScopeGrammar
