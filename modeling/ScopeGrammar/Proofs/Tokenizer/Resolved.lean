import ScopeGrammar.Proofs.Pattern.References
import ScopeGrammar.Proofs.Tokenizer.Interleaving
import ScopeGrammar.Proofs.Tokenizer.Memories
import ScopeGrammar.Proofs.Tokenizer.Refusals

/-!
# Exit patterns are filled in

An end or while pattern can be a template, which refers to what the begin pattern captured. A
template is never searched: when its region begins, the references are filled in, and what is filled
in has none (`Fills.hasReferences_eq_false`). A pattern that is searched as it stands in its grammar
is one of which the grammar says that it has no references, and a grammar that was compiled says so
of no other pattern (`Grammar.IsValid`).

So the exit pattern of a region that begins is free of references
(`ExitPattern.isResolved_of_exitPattern`). Nothing else changes the exit pattern of a region, and
thus all open regions have such patterns in all states that a line comes to
(`VisitsWith.isResolved`), from line to line (`Session.InUse.isResolved`). Filled-in patterns are
remembered by their texts, so that this holds of registries that remember nothing else.
-/

namespace ScopeGrammar

open Tokenizing

/-- The exit pattern has no references to captures. -/
def ExitPattern.IsResolved (r : Registry) (exit : ExitPattern) : Prop :=
  ∀ regex, exit.regex r = .ok regex → regex.hasReferences = false

/-- No region is open with an exit pattern that refers to captures. -/
def Stack.IsResolved (r : Registry) (s : Stack) : Prop :=
  ∀ region, .region region ∈ s.frames → region.exit.IsResolved r

/-! ### Open regions -/

namespace Stack.IsResolved

variable {r : Registry} {s s' : Stack}

/-- Closing regions leaves no reference behind. -/
theorem mono (hs : s.IsResolved r)
    (h : ∀ region, .region region ∈ s'.frames → .region region ∈ s.frames) : s'.IsResolved r :=
  fun region hregion ↦ hs region (h region hregion)

theorem withFrames (hs : s.IsResolved r) {frames : List Frame} (h : frames <:+ s.frames) :
    (s.withFrames frames).IsResolved r :=
  hs.mono fun _ hregion ↦ h.mem hregion

end Stack.IsResolved

/-- Entering the captures of a match opens no region. -/
theorem CapturesEntered.region_mem_iff {line : LineText} {s : LineState} {m : Match}
    {path : ScopePath} {grammar : GrammarId} {captures : Captures} {e : LineState × Bool}
    (he : CapturesEntered line s m path grammar captures e) {region : Region} :
    .region region ∈ e.1.stack.frames ↔ .region region ∈ s.stack.frames := by
  rcases he.stack_cases with ⟨hstack, -⟩ | ⟨c, hstack, -, -⟩
  · rw [hstack]
  · rw [hstack]
    simp [Stack.push]

/-- Forgetting passed captures leaves the regions as they are. -/
theorem LineState.region_mem_dropPassed_iff {s : LineState} {region : Region} :
    .region region ∈ s.dropPassed.stack.frames ↔ .region region ∈ s.stack.frames := by
  rcases s.dropPassed_eq with heq | ⟨c, below, hf, heq⟩
  · rw [heq]
  · rw [heq, hf]
    simp [Stack.push, Stack.withFrames]

/-- Opening a capture opens no region. -/
theorem LineState.region_mem_openCapture_iff {s : LineState} {t : CaptureTree CapturedScopes}
    (ht : s.nextCapture? = some t) {region : Region} :
    .region region ∈ (s.openCapture t).stack.frames ↔ .region region ∈ s.stack.frames := by
  obtain ⟨c, below, rest, hf, -⟩ := exists_captured_of_nextCapture? ht
  rw [openCapture_stack hf, hf]
  simp [Stack.push, Stack.withFrames]

/-! ### Faithful memories -/

theorem LineState.Alike.refl (s : LineState) : s.Alike s :=
  ⟨s.stack.frames, List.forall₂_same.mpr fun f _ ↦ .refl f, rfl⟩

namespace Tokenizing

variable {α β : Type} {ctx : Context} {line : LineText} {memory memory' : Memory}

/-- What tokenizes alike whatever is remembered leaves memories faithful. -/
theorem Alike.isFaithful {R : α → β → Prop} {x : Tokenizing α} {y : Tokenizing β}
    (h : Alike ctx R x y) (hm : memory.IsFaithful ctx) {a : α} (hx : x memory = .ok a memory') :
    memory'.IsFaithful ctx := by
  obtain ⟨_, _, _, _, hx', -, -, hm', -⟩ | ⟨_, _, _, _, hx', -⟩ := h.results hm hm
  · obtain ⟨-, rfl⟩ := EStateM.Result.ok.inj (hx.symm.trans hx')
    exact hm'
  · cases hx.symm.trans hx'

theorem isFaithful_of_step {stopDepth : Option Nat} {s : LineState} {next : Step}
    (hm : memory.IsFaithful ctx) (h : step ctx line stopDepth s memory = .ok next memory') :
    memory'.IsFaithful ctx :=
  (@alike_step ctx line {} s s (.refl s) stopDepth).isFaithful hm h

theorem isFaithful_of_openContinuation {below : List Frame} {r : Region} {m : Match}
    {s : LineState} {e : LineState × Bool} (hm : memory.IsFaithful ctx)
    (h : openContinuation ctx line below r m s memory = .ok e memory') :
    memory'.IsFaithful ctx := by
  obtain ⟨_, _, htrace, h⟩ := exists_of_bind_eq h
  obtain ⟨_, _, hrule, h⟩ := exists_of_bind_eq h
  have htraced := (@alike_trace ctx {} _ _).isFaithful hm htrace
  exact (alike_enterCaptures (.refl _) _ _ _ _).isFaithful
    ((alike_ofFault _).isFaithful htraced hrule) h

theorem isFaithful_of_discontinue {passed inside : List Frame} {r : Region} {s s' : LineState}
    (hm : memory.IsFaithful ctx)
    (h : continueRegions.discontinue ctx passed r inside s memory = .ok s' memory') :
    memory'.IsFaithful ctx := by
  obtain ⟨_, _, htrace, h⟩ := exists_of_bind_eq h
  cases h
  exact (@alike_trace ctx {} _ _).isFaithful hm htrace

end Tokenizing

/-- **What a line remembers on the way is faithful.** -/
theorem VisitsWith.isFaithful {ctx : Context} {line : LineText} {start s : LineState}
    {memory memory' : Memory} {stage : Stage} (hm : memory.IsFaithful ctx)
    (hs : VisitsWith ctx line start memory stage s memory') : memory'.IsFaithful ctx := by
  induction hs with
  | start => exact hm
  | passed _ _ ih => exact ih
  | passedAll _ ih => exact ih
  | discontinued _ _ _ _ hclosed ih => exact isFaithful_of_discontinue ih hclosed
  | continued _ hgoes ih => exact isFaithful_of_openContinuation ih hgoes.opened
  | entered _ hgoes ih => exact isFaithful_of_openContinuation ih hgoes.opened
  | left _ hstep ih => exact isFaithful_of_step ih hstep
  | scanned _ _ hstep ih => exact isFaithful_of_step ih hstep

/-! ### Regions that begin -/

theorem ExitPattern.regex_fixed_eq_ok_iff {r : Registry} {id : GrammarId} {i : RegexId}
    {regex : Regex} :
    (fixed id i).regex r = .ok regex ↔
      ∃ g, r.grammar id = .ok g ∧ g.regex i = .ok regex := by
  constructor
  · exact exists_of_bind_eq_ok
  · rintro ⟨g, hg, hregex⟩
    rw [ExitPattern.regex, hg]
    exact hregex

section Beginning

variable {ctx : Context} {line : LineText} {memory memory' : Memory} {E : Engine}
  {ref : RuleRef} {rule : Rule} {r : RegionRule} {m : Match}

/-- A filled-in pattern has the text that was filled in. -/
theorem exists_eq_filled_of_compilePattern {pattern location : String} {exit : ExitPattern}
    (hm : memory.IsFaithful ctx)
    (h : (.filled <$> Tokenizing.compilePattern pattern location : Tokenizing ExitPattern) memory =
      .ok exit memory') :
    ∃ regex, exit = .filled regex ∧ regex.pattern = pattern := by
  cases h
  exact ⟨_, rfl, (hm.patterns.compile pattern location).1⟩

/-- **The exit pattern of a region that begins has no references.** -/
theorem ExitPattern.isResolved_of_exitPattern (hr : ctx.registry.Loaded E)
    (hm : memory.IsFaithful ctx) (hrule : ctx.registry.rule ref = .ok rule)
    (hbody : rule.body = .region r) {exit : ExitPattern}
    (h : exitPattern ctx line ref r m memory = .ok exit memory') :
    exit.IsResolved ctx.registry := by
  rw [exitPattern] at h
  split at h
  · obtain ⟨g, _, hg, h⟩ := exists_of_bind_eq h
    obtain ⟨template, _, htemplate, h⟩ := exists_of_bind_eq h
    obtain ⟨found, _, hfound, h⟩ := exists_of_bind_eq h
    have hm := (alike_ofFault _).isFaithful
      ((alike_ofFault _).isFaithful ((alike_ofFault _).isFaithful hm hg) htemplate) hfound
    have hg := (returns_of_eq hg).eq_ok_of_ofFault
    have htemplate := (returns_of_eq htemplate).eq_ok_of_ofFault
    have hfill := (returns_of_eq hfound).eq_ok_of_ofFault
    intro regex hregex
    cases found with
    | some filled =>
      obtain ⟨_, rfl, hpattern⟩ := exists_eq_filled_of_compilePattern hm h
      obtain rfl := Except.ok.inj hregex
      rw [Regex.hasReferences, hpattern, String.toList_ofList]
      exact (Fills.of_fillReferences hfill).hasReferences_eq_false
    | none =>
      -- the pattern of the rule is what was looked through for references
      cases h
      obtain ⟨g', hg', hregex⟩ := ExitPattern.regex_fixed_eq_ok_iff.mp hregex
      obtain rfl := Except.ok.inj (hg.symm.trans hg')
      obtain rfl := Except.ok.inj (htemplate.symm.trans hregex)
      exact hasReferences_of_fillReferences_eq_none hfill
  · rename_i hnone
    cases h
    intro regex hregex
    obtain ⟨g, hg, hregex⟩ := ExitPattern.regex_fixed_eq_ok_iff.mp hregex
    obtain ⟨g', hg', hrule⟩ := Registry.rule_eq_ok_iff.mp hrule
    obtain rfl := Option.some.inj ((Registry.grammar_eq_ok_iff.mp hg).symm.trans hg')
    obtain ⟨regex', hregex', hflag, -⟩ := (hr.isValid hg').exit _ rule r hrule hbody
    obtain rfl := Option.some.inj ((Grammar.regex_eq_ok_iff.mp hregex).symm.trans hregex')
    rw [← hflag]
    exact Bool.eq_false_iff.mpr hnone

/-- Of the regions that are open after a match of a begin pattern, one has just begun. -/
theorem exists_exitPattern_of_applyRegion {s s' : LineState}
    (h : applyRegion ctx line s ref r m memory = .ok (some s') memory') :
    ∃ opened between, exitPattern ctx line ref r m memory = .ok opened.exit between ∧
      ∀ region, .region region ∈ s'.stack.frames →
        region = opened ∨ .region region ∈ s.stack.frames := by
  rw [applyRegion] at h
  split at h
  · obtain ⟨_, _, -, h⟩ := exists_of_bind_eq h
    cases h
  · obtain ⟨opened, _, hopened, h⟩ := exists_of_bind_eq h
    obtain ⟨e, _, he, h⟩ := exists_of_bind_eq h
    cases h
    obtain ⟨exit, between, hexit, hopened⟩ := exists_of_bind_eq hopened
    obtain ⟨names, _, -, hopened⟩ := exists_of_bind_eq hopened
    obtain ⟨contents, _, -, hopened⟩ := exists_of_bind_eq hopened
    obtain ⟨_, _, -, hopened⟩ := exists_of_bind_eq hopened
    have heq : opened.exit = exit := by
      cases hopened
      rfl
    refine ⟨opened, between, heq ▸ hexit, fun region hregion ↦ ?_⟩
    have hregion : .region region ∈ e.1.stack.frames := hregion
    have he := capturesEntered_of_enterCaptures (returns_of_eq he)
    rw [he.region_mem_iff] at hregion
    rcases List.mem_cons.mp hregion with heq | hregion
    · exact .inl (Frame.region.inj heq)
    · exact .inr hregion

end Beginning

/-! ### Lines -/

section Lines

variable {ctx : Context} {line : LineText} {memory memory' : Memory} {E : Engine}
  {s s' : LineState}

theorem isResolved_of_applyMatch (hr : ctx.registry.Loaded E) (hm : memory.IsFaithful ctx)
    (hs : s.stack.IsResolved ctx.registry) {m : Match} {c : Candidate}
    (h : applyMatch ctx line s m c memory = .ok (some s') memory') :
    s'.stack.IsResolved ctx.registry := by
  have happlied := applied_of_applyMatch (returns_of_eq h)
  cases happlied with
  | ended region below rule e hf _ _ he =>
    refine hs.mono fun region hregion ↦ ?_
    rw [hf]
    exact List.mem_cons_of_mem _ (he.region_mem_iff.mp hregion)
  | matched ref rule r names e _ _ _ _ he => exact hs.mono fun _ ↦ he.region_mem_iff.mp
  | began ref rule r region e hrule hbody =>
    obtain ⟨rule', between, hrule', h⟩ := exists_of_bind_eq h
    have hbetween := (alike_ofFault _).isFaithful hm hrule'
    obtain rfl :=
      Except.ok.inj (hrule.symm.trans (returns_of_eq hrule').eq_ok_of_ofFault)
    rw [hbody] at h
    obtain ⟨opened, _, hexit, hregions⟩ := exists_exitPattern_of_applyRegion h
    intro region hregion
    rcases hregions region hregion with rfl | hregion
    · exact ExitPattern.isResolved_of_exitPattern hr hbetween hrule hbody hexit
    · exact hs region hregion

/-- **A step begins no region with references in its exit pattern.** -/
theorem isResolved_of_step (hr : ctx.registry.Loaded E) (hm : memory.IsFaithful ctx)
    (hs : s.stack.IsResolved ctx.registry) {stopDepth : Option Nat} {next : Step}
    (h : step ctx line stopDepth s memory = .ok next memory') :
    next.state.stack.IsResolved ctx.registry := by
  have hs : s.dropPassed.stack.IsResolved ctx.registry :=
    hs.mono fun _ ↦ LineState.region_mem_dropPassed_iff.mp
  obtain ⟨found, between, hfound, h⟩ := exists_of_bind_eq h
  cases found with
  | some found =>
    obtain ⟨m, c⟩ := found
    obtain ⟨applied, _, happlied, h⟩ := exists_of_bind_eq h
    have hbetween := (@alike_nextMatch ctx line {} _ _ (.refl _) _).isFaithful hm hfound
    cases applied with
    | some s' =>
      cases h
      have hextended : (s.dropPassed.extendContent m.start).stack.IsResolved ctx.registry := hs
      exact isResolved_of_applyMatch hr hbetween hextended happlied
    | none =>
      cases h
      obtain ⟨left, hleft, hstack⟩ := exists_stack_of_stopLine line
        (s.dropPassed.extendContent m.start) (s.dropPassed.extendContent m.start).stack.frames
      rw [Step.state, hstack]
      exact hs.withFrames hleft
  | none =>
    dsimp only at h
    cases hnext : s.dropPassed.nextCapture? with
    | some t =>
      rw [hnext] at h
      cases h
      exact hs.mono fun _ ↦ (LineState.region_mem_openCapture_iff hnext).mp
    | none =>
      rw [hnext] at h
      rcases closeAtBound_cases (returns_of_eq h) with ⟨-, rfl⟩ | ⟨f, below, b, hf, -, rfl⟩
      · exact hs
      · have hbelow := hs.withFrames (hf ▸ List.suffix_cons f below)
        split <;> exact hbelow

/-- **No region that is open in a line has references in its exit pattern**, if none has at its
start. -/
theorem VisitsWith.isResolved {start : LineState} {stage : Stage} (hr : ctx.registry.Loaded E)
    (hm : memory.IsFaithful ctx) (hstart : start.stack.IsResolved ctx.registry)
    (hs : VisitsWith ctx line start memory stage s memory') :
    stage.Both (·.stack.IsResolved ctx.registry) s := by
  induction hs with
  | start => exact hstart
  | passed _ _ ih => exact ih
  | passedAll _ ih => exact ih
  | discontinued hs _ _ _ hclosed ih =>
    rw [eq_of_discontinue hclosed]
    exact ih.withFrames ((List.suffix_cons _ _).trans hs.fits.suffix)
  | continued _ _ ih => exact ih
  | entered hs hgoes ih =>
    obtain ⟨rule, -, he⟩ := (entersContinuation_of_openContinuation hgoes.opened).capturesEntered
    have hinner := ih.withFrames hs.fits.suffix
    exact ⟨ih, hinner.mono fun _ ↦ he.region_mem_iff.mp⟩
  | left _ _ ih => exact ih.1
  | scanned hs hstage hstep ih =>
    have hmemory := hs.isFaithful hm
    cases hstage with
    | captures => exact ⟨ih.1, isResolved_of_step hr hmemory ih.2 hstep⟩
    | rest => exact isResolved_of_step hr hmemory ih hstep

theorem VisitsWith.stack_isResolved {start : LineState} {stage : Stage}
    (hr : ctx.registry.Loaded E) (hm : memory.IsFaithful ctx)
    (hstart : start.stack.IsResolved ctx.registry)
    (hs : VisitsWith ctx line start memory stage s memory') :
    s.stack.IsResolved ctx.registry := by
  have hboth := hs.isResolved hr hm hstart
  cases stage with
  | captures => exact hboth.2
  | regions => exact hboth
  | rest => exact hboth

/-- The regions that a line leaves open have no references in their exit patterns. -/
theorem isResolved_scanLine (hr : ctx.registry.Loaded E) (hm : memory.IsFaithful ctx)
    {start : LineState} (hstart : start.stack.IsResolved ctx.registry) (fuel : Nat) :
    (Session.scanLine ctx line fuel start memory).state.stack.IsResolved ctx.registry := by
  obtain ⟨stage, last, memory₁, hlast, heq | ⟨memory₂, hstep⟩⟩ :=
    VisitsWith.exists_of_scanLine ctx line fuel start memory
  · rw [heq]
    exact hlast.stack_isResolved hr hm hstart
  · exact isResolved_of_step hr (hlast.isFaithful hm) (hlast.stack_isResolved hr hm hstart) hstep

end Lines

/-! ### Lines of a document -/

/-- What a line hands over are regions that were open at its end. -/
theorem Session.isResolved_stackAfter {r : Registry} {report : ScanReport}
    (h : report.state.stack.IsResolved r) : (stackAfter report).IsResolved r := by
  have hnext : ∀ s : Stack, s.IsResolved r → s.forNextLine.IsResolved r := by
    intro s hs region hregion
    obtain ⟨f, hf, heq⟩ := List.mem_map.mp hregion
    cases f with
    | region region' =>
      obtain rfl := Frame.region.inj heq
      exact hs region' hf
    | captured c => cases heq
  rw [stackAfter]
  split
  · refine hnext _ (h.mono fun region hregion ↦ ?_)
    exact (List.mem_filter.mp hregion).1
  · exact hnext _ h

namespace Session

/-- The sessions that calls lead to from the start of a document, in a registry that remembers only
what lines of documents have left. -/
inductive InUse (E : Engine) (r : Registry) (base : GrammarId) : Session → Prop
  | start {s : Session} (lines : List String) (h : ofLines r base lines E = .ok s) :
      InUse E r base s
  /-- Tracing is switched. -/
  | traced {s : Session} (hs : InUse E r base s) (trace : Bool) :
      InUse E r base { s with trace := trace }
  /-- The next line of the document is taken. -/
  | taken {s : Session} (hs : InUse E r base s) :
      InUse E r base { s with nextLine := s.nextLine + 1 }
  /-- A line is tokenized. -/
  | line {s : Session} (hs : InUse E r base s) (patterns : PatternCache)
      (hp : (r.withPatterns patterns).Arises) (line : String) (fuel : Nat)
      (h : ∀ f, (s.tokenizeLine (r.withPatterns patterns) line fuel).result ≠ .error (.fault f)) :
      InUse E r base (s.tokenizeLine (r.withPatterns patterns) line fuel).session

namespace InUse

variable {E : Engine} {r : Registry} {base : GrammarId} {s : Session} {patterns : PatternCache}

theorem reachable (hs : InUse E r base s) : Reachable E r base s := by
  induction hs with
  | start lines h => exact .start lines h
  | traced _ trace ih => exact ih.traced trace
  | taken _ ih => exact ih.taken
  | line _ patterns _ line fuel h ih => exact ih.line patterns line fuel h

/-- What is remembered at the start of a line is faithful. -/
theorem isFaithful_memory (hs : InUse E r base s) (hp : (r.withPatterns patterns).Arises) :
    Memory.IsFaithful (s.context (r.withPatterns patterns))
      { candidates := s.candidates, patterns := patterns } :=
  ⟨memory_agrees hs.reachable.agrees patterns, hp.isFaithful⟩

/-- **No region has references in its exit pattern when a line begins.** -/
theorem isResolved (hr : r.Loaded E) (hs : InUse E r base s) : s.stack.IsResolved r := by
  induction hs with
  | start lines h =>
    obtain ⟨g, injections, -, -, rfl⟩ := exists_of_ofLines h
    intro region hregion
    cases hregion
  | traced _ _ ih => exact ih
  | taken _ ih => exact ih
  | @line s hs patterns hp line fuel _ ih =>
    have hstart : (LineState.start s.stack s.firstLine (.ofLine line)).stack.IsResolved
        (s.context (r.withPatterns patterns)).registry := ih
    rw [tokenizeLine_session hs.reachable.lost_eq]
    exact isResolved_stackAfter
      (isResolved_scanLine (hr.filled patterns) (hs.isFaithful_memory hp) hstart fuel)

end InUse

end Session

/-! ### Searches -/

/-- The end or while pattern that is searched in a stage of a line: that of the next open region, or
that of the innermost one. -/
inductive Stage.SearchesExit (ctx : Context) : Stage → LineState → Regex → Prop
  | whilePattern {passed inside : List Frame} {region : Region} {s : LineState} {regex : Regex}
      (hregex : region.exit.regex ctx.registry = .ok regex) :
      SearchesExit ctx (.regions passed (.region region :: inside)) s regex
  | endPattern {stage : Stage} {stopDepth : Option Nat} {s : LineState} {regex : Regex}
      (hstage : stage.Scans stopDepth)
      (hregex : Returns (candidateRegex ctx s.dropPassed.stack .exit) (some regex)) :
      SearchesExit ctx stage s regex

/-- What is searched as the exit pattern of a region is that of an open one. -/
theorem Stage.SearchesExit.exists_region {ctx : Context} {line : LineText} {start s : LineState}
    {memory memory' : Memory} {stage : Stage} {regex : Regex}
    (hs : VisitsWith ctx line start memory stage s memory')
    (h : stage.SearchesExit ctx s regex) :
    ∃ region, .region region ∈ s.stack.frames ∧ region.exit.regex ctx.registry = .ok regex := by
  cases h with
  | whilePattern hregex => exact ⟨_, hs.fits.suffix.mem List.mem_cons_self, hregex⟩
  | endPattern _ hregex =>
    obtain ⟨region, below, hf, hexit⟩ := exists_region_of_candidateRegex hregex
    refine ⟨region, LineState.region_mem_dropPassed_iff.mp ?_, hexit⟩
    rw [hf]
    exact List.mem_cons_self

namespace Session

/-- **A template is filled in before it is searched.** For captures that lie in the text, a pattern
is filled in exactly if it has references, and then every unescaped backslash before digits is
replaced with all these digits, and nothing else; what comes out has no references. So in no state
that a line comes to is a region open, or its end or while pattern searched, with references left in
that pattern. -/
theorem exists_fills_and_isResolved :
    (∀ (pattern text : List Char) (m : Match), m.LiesIn text → ∃ filled,
      Fills text m pattern filled ∧ hasReferences filled = false ∧
      fillReferences pattern text m =
        .ok (if hasReferences pattern = true then some filled else none)) ∧
    ∀ (E : Engine) (r : Registry) (base : GrammarId) (s : Session) (patterns : PatternCache)
      (line : LineText), r.Loaded E → InUse E r base s → (r.withPatterns patterns).Arises →
      ∀ (stage : Stage) (state : LineState) (memory : Memory),
        VisitsWith (s.context (r.withPatterns patterns)) line (.start s.stack s.firstLine line)
          { candidates := s.candidates, patterns := patterns } stage state memory →
        state.stack.IsResolved r ∧
        ∀ regex, stage.SearchesExit (s.context (r.withPatterns patterns)) state regex →
          regex.hasReferences = false := by
  refine ⟨fun pattern text m hm ↦ ?_,
    fun E r base s patterns line hr hs hp stage state memory h ↦ ?_⟩
  · obtain ⟨filled, hfilled⟩ := Fills.exists_fills hm pattern
    exact ⟨filled, hfilled, hfilled.hasReferences_eq_false, hfilled.fillReferences_eq⟩
  · have hbefore : s.stack.IsResolved r := hs.isResolved hr
    have hstart : (LineState.start s.stack s.firstLine line).stack.IsResolved
        (s.context (r.withPatterns patterns)).registry := hbefore
    have hstate := h.stack_isResolved (hr.filled patterns) (hs.isFaithful_memory hp) hstart
    refine ⟨hstate, fun regex hregex ↦ ?_⟩
    obtain ⟨region, hregion, hregex⟩ := hregex.exists_region h
    exact hstate region hregion regex hregex

end Session

/-! ### A region that ends as it began -/

/-- A grammar of regions that end with what they began with. -/
def GrammarDefinition.echo : GrammarDefinition where
  scopeName := "text"
  patterns := [{ beginPattern := some "(", endPattern := some "\\0" }]

/-- The rule of these regions. -/
def RegionRule.echo : RegionRule where
  kind := .beginEnd
  name := none
  contentName := none
  begin := 0
  beginCaptures := {}
  exit := 1
  exitHasReferences := true
  exitCaptures := {}
  endLast := false
  patterns := []
  repository := []

/-- That grammar, compiled. -/
def Grammar.echo : Grammar where
  name := ""
  scopeName := "text"
  scope := .ofString "text"
  rules := #[⟨0, none, false, .group ⟨[1], []⟩⟩, ⟨1, some 0, false, .region .echo⟩]
  regexes := #[.ofPattern "(" "patterns[0].begin", .ofPattern "\\0" "patterns[0].end"]
  injections := []
  exported := none
  injectTo := []

theorem Grammar.compile_echo (matcher : List Char → Matcher) :
    (compile .echo (.ofMatcher matcher)).result = .ok .echo := by
  with_unfolding_all rfl

namespace Registry

/-- The registry of that grammar. -/
def echo : Registry where
  grammars := #[.echo]
  byScopeName := Std.HashMap.insert {} "text" 0

theorem add_echo : add {} .echo = .ok (0, echo) :=
  rfl

theorem childCandidates_echo : echo.childCandidates 0 (.root 0) = .ok ([⟨0, 1⟩], #[]) :=
  candidatesFrom_of_matching (r := echo) (by decide) rfl

end Registry

namespace Session

/-- The session at the start of a document. -/
def echo : Session where
  base := 0
  injections := []
  stack := .ofGrammar 0 (.ofString "text")
  lines := #[]
  engine := .literal

/-- What it is tokenized with. -/
def echoContext : Context :=
  echo.context (Registry.echo.withPatterns {})

/-- What ends a region that a parenthesis began. -/
def echoExit : Regex :=
  .ofPattern "\\(" "patterns[0].end"

/-- The region that a parenthesis opens. -/
def echoRegion : Region where
  kind := .beginEnd
  rule := ⟨0, 1⟩
  nameScopes := .ofRoot (.ofString "text")
  contentScopes := .ofRoot (.ofString "text")
  exit := .filled echoExit
  exitLast := false
  bound := none
  tookLineEnd := false
  anchorBefore := none
  enteredAt := some 0

/-- The state after the parenthesis. -/
def echoState : LineState where
  stack := echo.stack.push (.region echoRegion)
  position := 1
  anchor := some 1
  atTextStart := false
  row := ⟨[⟨⟨0, 1⟩, .ofRoot (.ofString "text")⟩], 1, 1⟩

/-- The pattern that was filled in is remembered. -/
def echoMemory : Memory where
  candidates := rootCandidates
  patterns := ⟨Std.HashMap.insert {} "\\(" echoExit⟩

/-- The end pattern is the parenthesis, escaped. -/
theorem exitPattern_echo :
    exitPattern echoContext (.ofLine "(") ⟨0, 1⟩ .echo ⟨⟨0, 1⟩, []⟩
      { candidates := rootCandidates } = .ok (.filled echoExit) echoMemory := by
  have hfill : fillReferences "\\0".toList (LineText.ofLine "(").chars ⟨⟨0, 1⟩, []⟩ =
      .ok (some "\\(".toList) := by decide +kernel
  have hcompile :
      Tokenizing.compilePattern "\\(" "patterns[0].end" { candidates := rootCandidates } =
      .ok echoExit echoMemory := by
    show EStateM.Result.ok (PatternCache.compile {} "\\(" "patterns[0].end").1
      { candidates := rootCandidates,
        patterns := (PatternCache.compile {} "\\(" "patterns[0].end").2 : Memory } = _
    rw [PatternCache.compile, Std.HashMap.getElem?_empty]
    rfl
  show (ofFault (fillReferences "\\0".toList (LineText.ofLine "(").chars ⟨⟨0, 1⟩, []⟩) >>= _) _ = _
  rw [hfill]
  show (.filled <$> Tokenizing.compilePattern (String.ofList "\\(".toList) "patterns[0].end" :
    Tokenizing ExitPattern) _ = _
  rw [String.ofList_toList, map_eq_pure_bind, bind_eq_of_eq_ok hcompile]
  rfl

/-- The region opens. -/
theorem step_echo :
    step echoContext (.ofLine "(") none (.start echo.stack true (.ofLine "(")) {} =
      .ok (.goOn echoState) echoMemory := by
  have hcandidates : Tokenizing.candidates echoContext (.root 0) .children {} =
      .ok [⟨0, 1⟩] { candidates := rootCandidates } :=
    candidates_of_new Std.HashMap.getElem?_empty Registry.childCandidates_echo
  have hordered : orderedCandidates echoContext echo.stack (.root 0) {} =
      .ok [.rule ⟨0, 1⟩] { candidates := rootCandidates } :=
    (bind_eq_of_eq_ok hcandidates).trans rfl
  have hfound : (Regex.ofPattern "(" "patterns[0].begin").search (LineText.ofLine "(").indexed
      ⟨0, 2⟩ ⟨true, false⟩ .literal = .ok (some ⟨⟨0, 1⟩, []⟩) := by decide +kernel
  have hnext : nextMatch echoContext (.ofLine "(") (.start echo.stack true (.ofLine "(")) 2 {} =
      .ok (some (⟨⟨0, 1⟩, []⟩, .rule ⟨0, 1⟩)) { candidates := rootCandidates } :=
    nextMatch_of_singleton rfl rfl rfl hordered rfl hfound
  have happlied : applyMatch echoContext (.ofLine "(") (.start echo.stack true (.ofLine "("))
      ⟨⟨0, 1⟩, []⟩ (.rule ⟨0, 1⟩) { candidates := rootCandidates } =
        .ok (some echoState) echoMemory := by
    show ((exitPattern echoContext (.ofLine "(") ⟨0, 1⟩ .echo ⟨⟨0, 1⟩, []⟩ >>= _) >>= _) _ = _
    rw [bind_assoc, bind_eq_of_eq_ok exitPattern_echo]
    rfl
  exact (bind_eq_of_eq_ok hnext).trans ((bind_eq_of_eq_ok happlied).trans rfl)

/-- The state after the parenthesis is one that the line comes to. -/
theorem visitsWith_echo :
    VisitsWith echoContext (.ofLine "(") (.start echo.stack true (.ofLine "(")) {} .rest echoState
      echoMemory :=
  (VisitsWith.passedAll .start).scanned .rest step_echo

/-- The text of an anchor is filled in, before an escaped backslash and a digit, which stay; and the
end pattern of the region that a parenthesis opens is the parenthesis, escaped. -/
theorem exists_fills_and_isResolved_echo :
    anchorCaptured.LiesIn "a\\G".toList ∧
    (∃ filled, Fills "a\\G".toList anchorCaptured "\\1\\\\1".toList filled ∧
      hasReferences filled = false ∧
      fillReferences "\\1\\\\1".toList "a\\G".toList anchorCaptured = .ok (some filled)) ∧
    VisitsWith echoContext (.ofLine "(") (.start echo.stack true (.ofLine "(")) {} .rest echoState
      echoMemory ∧
    echoState.stack.frames = [.region echoRegion] ∧ echoState.stack.IsResolved .echo ∧
    Stage.rest.SearchesExit echoContext echoState echoExit ∧ echoExit.hasReferences = false := by
  have hm : anchorCaptured.LiesIn "a\\G".toList := by decide
  have hr : Registry.echo.Loaded .literal := .add .empty (Grammar.compile_echo _) Registry.add_echo
  have hp : (Registry.echo.withPatterns {}).Arises := .add .empty Registry.add_echo
  have hsearched : Stage.rest.SearchesExit echoContext echoState echoExit :=
    .endPattern .rest ⟨{}, {}, rfl⟩
  obtain ⟨hresolved, hexits⟩ := exists_fills_and_isResolved.2 .literal .echo 0 echo {} (.ofLine "(")
    hr (.start [] rfl) hp .rest echoState echoMemory visitsWith_echo
  exact ⟨hm, exists_fills_and_isResolved.1 "\\1\\\\1".toList _ _ hm, visitsWith_echo, rfl,
    hresolved, hsearched, hexits echoExit hsearched⟩

end Session

end ScopeGrammar
