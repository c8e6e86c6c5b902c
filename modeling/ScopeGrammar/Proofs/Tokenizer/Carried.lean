import ScopeGrammar.Proofs.Tokenizer.Layers
import ScopeGrammar.Proofs.Tokenizer.Sessions

/-!
# What one line hands over to the next

Inside a line the stack holds captures and regions that end in the line. They lie on top of all
others: a region takes its bound from the frame that it begins in (`Region.FitsOn`), so that nothing
without a bound lies on anything with one. Leaving out what is bounded, as after a failure, thus
cuts the stack at one place (`withoutBounded_frames_suffix`), and a line that is tokenized to its
end has nothing to leave out (`Transition.bound?_eq_none`).

Both come to the same: what is left over is a chain of regions, each of which goes on from the
scopes of the one below it (`Stack.IsCarried`).
-/

namespace ScopeGrammar

open Tokenizing

variable {ctx : Context} {line : LineText} {r : Registry} {base : GrammarId}

/-! ### Regions on a stack -/

/-- The exit pattern is that of a rule, with or without captures filled in. -/
def ExitPattern.IsOf (grammar : GrammarId) (r : RegionRule) : ExitPattern → Prop
  | fixed g regex => g = grammar ∧ regex = r.exit
  | filled _ => r.exitHasReferences = true

theorem ExitPattern.isOf_of_exitPattern {ref : RuleRef} {r : RegionRule} {m : Match}
    {exit : ExitPattern} (h : Returns (exitPattern ctx line ref r m) exit) :
    exit.IsOf ref.grammar r := by
  rw [exitPattern] at h
  split at h
  · rename_i hreferences
    obtain ⟨g, -, h⟩ := h.exists_of_bind
    obtain ⟨template, -, h⟩ := h.exists_of_bind
    obtain ⟨filled, -, h⟩ := h.exists_of_bind
    split at h
    · obtain ⟨regex, -, rfl⟩ := h.exists_of_map
      exact hreferences
    · rw [h.eq_of_pure]
      exact ⟨rfl, rfl⟩
  · rw [h.eq_of_pure]
    exact ⟨rfl, rfl⟩

/-- A region is one of its rule, and goes on from the stack that it lies on. -/
structure Region.FitsOn (r : Registry) (s : Stack) (region : Region) : Prop where
  ruled : ∃ rule body, r.rule region.rule = .ok rule ∧ rule.body = .region body ∧
    body.kind = region.kind ∧ region.exit.IsOf region.rule.grammar body
  below_prefix : s.scopes.toList <+: region.nameScopes.toList
  name_prefix : region.nameScopes.toList <+: region.contentScopes.toList
  /-- Nothing without a bound lies on anything with one. -/
  below_unbounded : region.bound = none → s.bound? = none

/-- A frame that is a region fits on the stack. -/
def Frame.FitsOn (registry : Registry) (s : Stack) : Frame → Prop
  | .region r => r.FitsOn registry s
  | .captured _ => True

/-- Filled-in patterns have no part in it. -/
theorem Frame.fitsOn_withPatterns {patterns : PatternCache} {s : Stack} {f : Frame} :
    f.FitsOn (r.withPatterns patterns) s ↔ f.FitsOn r s := by
  cases f with
  | region region =>
    exact ⟨fun h ↦ ⟨h.ruled, h.below_prefix, h.name_prefix, h.below_unbounded⟩,
      fun h ↦ ⟨h.ruled, h.below_prefix, h.name_prefix, h.below_unbounded⟩⟩
  | captured c => exact Iff.rfl

theorem RegionOpened.fitsOn {s : LineState} {ref : RuleRef} {rule : Rule} {body : RegionRule}
    {m : Match} {region : Region} (h : RegionOpened ctx line s ref body m region)
    (hrule : ctx.registry.rule ref = .ok rule) (hbody : rule.body = .region body) :
    region.FitsOn ctx.registry s.stack where
  ruled := by
    rw [h.rule_eq]
    exact ⟨rule, body, hrule, hbody, h.kind_eq.symm,
      ExitPattern.isOf_of_exitPattern h.exit_returned⟩
  below_prefix := by
    obtain ⟨names, -, hnames⟩ := h.name_scopes
    rw [hnames, ScopePath.toList_append]
    exact List.prefix_append _ _
  name_prefix := by
    obtain ⟨names, -, hnames⟩ := h.content_scopes
    rw [hnames, ScopePath.toList_append]
    exact List.prefix_append _ _
  below_unbounded hbound := by rw [← h.bound_eq, hbound]

/-- Regions fit on their stacks all through a line. -/
theorem fitsOn_invariant (ctx : Context) (line : LineText) :
    FrameInvariant ctx line (fun _ _ ↦ True) fun s f ↦ f.FitsOn ctx.registry s where
  pending _ _ := True.intro
  child _ _ := True.intro
  began _ _ _ hrule hbody hregion := hregion.fitsOn hrule hbody
  entered _ _ _ _ _ _ := True.intro

/-! ### Bounds -/

namespace Stack

/-- If the innermost frame has no bound, none has. -/
theorem bound?_eq_none_of_mem {s : Stack} (hs : s.Layered fun s f ↦ f.FitsOn r s)
    (hbound : s.bound? = none) : ∀ f ∈ s.frames, f.bound? = none := by
  obtain ⟨grammar, scope, frames⟩ := s
  induction frames with
  | nil => simp
  | cons f below ih =>
    obtain ⟨hf, hbelow⟩ := (layered_iff_of_cons rfl).1 hs
    have hnone : f.bound? = none := hbound
    intro f' hf'
    rcases List.mem_cons.1 hf' with rfl | hmem
    · exact hnone
    · cases f with
      | region region =>
        -- without a bound of its own there is none below it either
        exact ih hbelow (Region.FitsOn.below_unbounded hf hnone) f' hmem
      | captured c => cases hnone

/-- **What is left without the bounded frames lies below them.** -/
theorem withoutBounded_frames_suffix {s : Stack} (hs : s.Layered fun s f ↦ f.FitsOn r s) :
    s.withoutBounded.frames <:+ s.frames := by
  obtain ⟨grammar, scope, frames⟩ := s
  induction frames with
  | nil => exact List.suffix_rfl
  | cons f below ih =>
    cases hbound : f.bound? with
    | none =>
      -- nothing is left out from here on
      have hall := bound?_eq_none_of_mem hs hbound
      exact ⟨[], List.filter_eq_self.2 fun f hf ↦ by rw [hall f hf]; rfl⟩
    | some b =>
      rw [withoutBounded, List.filter_cons_of_neg (by simp [hbound])]
      exact (ih ((layered_iff_of_cons rfl).1 hs).2).trans (List.suffix_cons f below)

end Stack

theorem bound?_stopLine (line : LineText) (s : LineState) (frames : List Frame) :
    (stopLine line s frames).stack.bound? = none := by
  fun_induction stopLine line s frames with
  | case1 s f below b hb anchor ih => exact ih
  | case2 s f below hb => exact hb
  | case3 s => rfl

/-- **The scan of a line ends with no bounded frame left.** -/
theorem Transition.bound?_eq_none {s s' : LineState}
    (hs : s.stack.Layered fun s f ↦ f.FitsOn ctx.registry s)
    (h : Transition ctx line none s (.done s')) : ∀ f ∈ s'.stack.frames, f.bound? = none := by
  have hs' := (fitsOn_invariant ctx line).transition hs h
  refine Stack.bound?_eq_none_of_mem hs' ?_
  rcases h.last_cases with ⟨m, c, -, rfl⟩ | ⟨hbound, rfl⟩
  · exact bound?_stopLine _ _ _
  · exact hbound

/-! ### Stacks between lines -/

/-- A frame is one that a line hands over to the next. -/
def Frame.IsCarriedOn (registry : Registry) (s : Stack) : Frame → Prop
  | .region r =>
    r.FitsOn registry s ∧ r.bound = none ∧ r.anchorBefore = none ∧ r.enteredAt = none
  | .captured _ => False

/-- A stack is one that a line of a document hands over to the next. -/
structure Stack.IsCarried (r : Registry) (base : GrammarId) (s : Stack) : Prop where
  root : ∃ g, r.grammar base = .ok g ∧ s.withFrames [] = .ofGrammar base g.scope
  frames : s.Layered fun s f ↦ f.IsCarriedOn r s

namespace Stack

/-- What holds of the regions of the stack holds of all its frames. -/
theorem IsCarried.layered_of_region {G : Stack → Frame → Prop} {s : Stack}
    (hs : s.IsCarried r base)
    (h : ∀ below region, Frame.IsCarriedOn r below (.region region) → G below (.region region)) :
    s.Layered G :=
  hs.frames.mono fun below f hf ↦ by
    cases f with
    | region region => exact h below region hf
    | captured c => exact hf.elim

theorem IsCarried.layered {s : Stack} (hs : s.IsCarried r base) :
    s.Layered fun s f ↦ f.FitsOn r s :=
  hs.layered_of_region fun _ _ hf ↦ hf.1

/-- No frame that is handed over to a line has to stop in it. -/
theorem IsCarried.bound?_eq_none {s : Stack} (hs : s.IsCarried r base) :
    ∀ f ∈ s.frames, f.bound? = none := by
  intro f hf
  obtain ⟨above, below, hframes⟩ := List.append_of_mem hf
  have hlayered : s.Layered fun _ f ↦ f.bound? = none := hs.layered_of_region fun _ _ hr ↦ hr.2.1
  exact hlayered f below ⟨above, hframes.symm⟩

theorem scopes_forNextLine (s : Stack) : s.forNextLine.scopes = s.scopes := by
  obtain ⟨grammar, scope, frames⟩ := s
  rcases frames with - | ⟨_ | _, below⟩ <;> rfl

theorem bound?_forNextLine (s : Stack) : s.forNextLine.bound? = s.bound? := by
  obtain ⟨grammar, scope, frames⟩ := s
  rcases frames with - | ⟨_ | _, below⟩ <;> rfl

theorem Layered.forNextLine {G G' : Stack → Frame → Prop} {s : Stack} (hs : s.Layered G)
    (h : ∀ below f, f ∈ s.frames → G below f → G' below.forNextLine f.forNextLine) :
    s.forNextLine.Layered G' := by
  intro f' below' hsuffix
  obtain ⟨passed, hframes⟩ := hsuffix
  obtain ⟨passed, rest, hsplit, -, hrest⟩ := List.map_eq_append_iff.1 hframes.symm
  obtain ⟨f, below, rfl, rfl, rfl⟩ := List.map_eq_cons_iff.1 hrest
  exact h _ f (by simp [hsplit]) (hs f below ⟨passed, hsplit.symm⟩)

end Stack

theorem Region.FitsOn.forNextLine {s : Stack} {region : Region} (h : region.FitsOn r s) :
    Region.FitsOn r s.forNextLine { region with anchorBefore := none, enteredAt := none } where
  ruled := h.ruled
  below_prefix := by
    rw [s.scopes_forNextLine]
    exact h.below_prefix
  name_prefix := h.name_prefix
  below_unbounded hbound := by
    rw [s.bound?_forNextLine]
    exact h.below_unbounded hbound

/-- What is left without the bounded frames is handed over. -/
theorem isCarried_of_layered {s : Stack}
    (hroot : ∃ g, r.grammar base = .ok g ∧ s.withFrames [] = .ofGrammar base g.scope)
    (hs : s.Layered fun s f ↦ f.FitsOn r s) : s.withoutBounded.forNextLine.IsCarried r base := by
  refine ⟨hroot, (hs.withFrames (Stack.withoutBounded_frames_suffix hs)).forNextLine ?_⟩
  intro below f hmem hf
  have hbound : f.bound? = none := by
    simpa using (List.mem_filter.1 hmem).2
  cases f with
  | region region => exact ⟨hf.forNextLine, hbound, rfl, rfl⟩
  | captured c => cases hbound

namespace Session

variable {E : Engine} {s : Session}

/-- After a line that was tokenized to its end there is nothing bounded to leave out. -/
theorem stackAfter_eq {report : ScanReport}
    (h : report.failure = none → ∀ f ∈ report.state.stack.frames, f.bound? = none) :
    stackAfter report = report.state.stack.withoutBounded.forNextLine := by
  rw [stackAfter]
  cases hfailure : report.failure with
  | some failure => rfl
  | none =>
    have hframes : report.state.stack.withoutBounded.frames = report.state.stack.frames :=
      List.filter_eq_self.2 fun f hf ↦ by rw [h hfailure f hf]; rfl
    show report.state.stack.forNextLine = _
    rw [Stack.forNextLine, Stack.forNextLine, hframes]
    rfl

/-- **The stack between two lines is one that a line hands over.** -/
theorem Reachable.isCarried (h : Reachable E r base s) : s.stack.IsCarried r base := by
  refine h.stack_induction (fun g hg ↦ ⟨⟨g, hg, rfl⟩, Stack.layered_of_nil rfl⟩) ?_
  intro s patterns line fuel _ hs
  have hfits :=
    (fitsOn_invariant (s.context (r.withPatterns patterns)) (.ofLine line)).lineInvariant
  have hlayered : s.stack.Layered fun s f ↦ f.FitsOn (r.withPatterns patterns) s :=
    hs.layered.mono fun _ _ ↦ Frame.fitsOn_withPatterns.2
  -- whether the line failed or not, what is bounded is left out
  rw [stackAfter_eq fun hnone ↦ ?_]
  · refine isCarried_of_layered ?_
      ((scanNext_state hfits hlayered fuel).mono fun _ _ ↦ Frame.fitsOn_withPatterns.1)
    obtain ⟨g, hg, hroot⟩ := hs.root
    exact ⟨g, hg, scanNext_state (root_invariant _ _ _) hroot fuel⟩
  · obtain ⟨s', hs', hlast⟩ := exists_last_step_of_scanNext hfits hlayered hnone
    exact hlast.bound?_eq_none hs'

/-- **The stack between two lines is well formed**, whatever the lines before it came to: the root
is the one that the document started with, and all else are regions of rules of their kind, without
anything that counts in a line alone, of which each goes on from the scopes of the one below it. -/
theorem reachable_stack_wellFormed (h : Reachable E r base s) :
    ∃ g, r.grammar base = .ok g ∧ s.stack.withFrames [] = .ofGrammar base g.scope ∧
      ∀ f below, f :: below <:+ s.stack.frames → ∃ region rule body,
        f = .region region ∧
        r.rule region.rule = .ok rule ∧ rule.body = .region body ∧ body.kind = region.kind ∧
        region.exit.IsOf region.rule.grammar body ∧
        region.bound = none ∧ region.anchorBefore = none ∧ region.enteredAt = none ∧
        (s.stack.withFrames below).scopes.toList <+: region.nameScopes.toList ∧
        region.nameScopes.toList <+: region.contentScopes.toList := by
  have hs := h.isCarried
  obtain ⟨g, hg, hroot⟩ := hs.root
  refine ⟨g, hg, hroot, fun f below hsuffix ↦ ?_⟩
  have hf := hs.frames f below hsuffix
  cases f with
  | region region =>
    obtain ⟨hfits, hbound, hanchor, hentered⟩ := hf
    obtain ⟨rule, body, hrule, hbody, hkind, hexit⟩ := hfits.ruled
    exact ⟨region, rule, body, rfl, hrule, hbody, hkind, hexit, hbound, hanchor, hentered,
      hfits.below_prefix, hfits.name_prefix⟩
  | captured c => exact hf.elim

/-- A parenthesis that is left open is carried over. -/
theorem reachable_stack_wellFormed_parens :
    ∃ region rule body,
      ((parens .literal).tokenizeLine (Registry.parens.withPatterns {})
          "a(" 2).session.stack.frames =
        [.region region] ∧
      Registry.parens.rule region.rule = .ok rule ∧ rule.body = .region body ∧
      body.kind = region.kind ∧ region.exit.IsOf region.rule.grammar body := by
  obtain ⟨g, -, -, hframes⟩ := reachable_stack_wellFormed parens_reachable_tokenizeLine
  rw [stack_tokenizeLine_parens] at hframes ⊢
  obtain ⟨region, rule, body, hf, hrule, hbody, hkind, hexit, -⟩ := hframes _ _ List.suffix_rfl
  exact ⟨region, rule, body, by rw [← hf]; rfl, hrule, hbody, hkind, hexit⟩

end Session

end ScopeGrammar
