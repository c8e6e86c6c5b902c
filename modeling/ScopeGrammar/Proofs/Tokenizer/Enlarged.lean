import ScopeGrammar.Proofs.Registry.Unrelated
import ScopeGrammar.Proofs.Tokenizer.Interleaving
import ScopeGrammar.Proofs.Tokenizer.Sound

/-!
# Tokenizing with a larger registry

What tokenizing a document asks of a registry is asked of rules that it came to: those of open
frames, those of the injections and those that they lead to. If all of them are rules of one
registry, the document is tokenized the same way with another one that sees the same from there
(`scanLine_withRegistry`).
-/

namespace ScopeGrammar

open Tokenizing

/-! ### States of a registry -/

/-- The rules that a frame gives are those of the registry. -/
def Frame.IsIn (registry : Registry) : Frame → Prop
  | .region r =>
    r.rule.IsIn registry ∧ ∀ g regex, r.exit = .fixed g regex → g < registry.grammars.size
  | .captured c =>
    (∀ ref, c.patterns = some ref → ref.IsIn registry) ∧
      ∀ t ∈ c.pending, t.All fun _ label ↦ ∀ ref, label.patterns = some ref → ref.IsIn registry

/-- A stack of a document with the grammar of the context, on which all rules are those of the
registry. -/
structure Stack.IsOf (ctx : Context) (s : Stack) : Prop where
  base_eq : s.grammar = ctx.base
  frames : ∀ f ∈ s.frames, f.IsIn ctx.registry

/-- Another registry can take the place of that of the context. -/
structure Context.IsSeenBy (ctx : Context) (r' : Registry) : Prop where
  sees : ctx.registry.Sees r' ctx.base
  base_lt : ctx.base < ctx.registry.grammars.size
  injections : ∀ i ∈ ctx.injections, i.1 < ctx.registry.grammars.size

/-- What does not depend on the frames below holds of each frame by itself. -/
theorem Stack.layered_iff_forall_mem {P : Frame → Prop} {s : Stack} :
    (s.Layered fun _ f ↦ P f) ↔ ∀ f ∈ s.frames, P f := by
  constructor
  · intro hs f hmem
    obtain ⟨before, below, heq⟩ := List.append_of_mem hmem
    exact hs f below ⟨before, heq.symm⟩
  · exact fun hs f below hsuffix ↦ hs f (hsuffix.mem List.mem_cons_self)

section IsOf

variable {ctx : Context} {line : LineText} {s : Stack}

/-- The rule of the innermost frame is one of the registry; without frames it is the root of the
base. -/
theorem Stack.IsOf.owner? (hs : s.IsOf ctx) (hbase : ctx.base < ctx.registry.grammars.size)
    {owner : RuleRef} (howner : s.owner? = some owner) : owner.IsIn ctx.registry := by
  obtain ⟨grammar, scope, frames⟩ := s
  cases frames with
  | nil =>
    obtain rfl := Option.some.inj howner
    have heq : grammar = ctx.base := hs.base_eq
    rw [RuleRef.IsIn, RuleRef.root, heq]
    exact hbase
  | cons f below =>
    have hf : f.IsIn ctx.registry := hs.frames f List.mem_cons_self
    cases f with
    | region region =>
      obtain rfl := Option.some.inj howner
      exact hf.1
    | captured c => exact hf.1 owner howner

/-- The captures that are entered are those of a rule of the registry. -/
theorem CaptureSite.grammar_lt {T : Stack → RuleRef → Prop} {G : Stack → Frame → Prop}
    {path : ScopePath} {grammar : GrammarId} {captures : Captures}
    (h : CaptureSite ctx T G s path grammar captures) :
    grammar < ctx.registry.grammars.size := by
  cases h with
  | ended _ r rule _ hrule => exact Registry.isIn_of_rule hrule
  | matched _ ref rule r names _ hrule => exact Registry.isIn_of_rule hrule
  | began s region rule r _ hrule => exact Registry.isIn_of_rule hrule
  | continued s r rule _ hrule => exact Registry.isIn_of_rule hrule

/-- Frames keep to the registry: a frame that is opened has a rule that is tried in its place, and
such rules are in the registry. -/
theorem isIn_frameInvariant (ctx : Context) (line : LineText) :
    FrameInvariant ctx line (fun _ _ ↦ True) fun _ f ↦ f.IsIn ctx.registry where
  pending h hsuffix := ⟨h.1, fun t ht ↦ h.2 t (hsuffix.mem ht)⟩
  child h ht :=
    have hall := h.2 _ (List.mem_of_mem_head? ht)
    ⟨hall.own, hall.children⟩
  began := by
    intro s range m ref rule r region _ _ _ hrule _ hregion
    have href : ref.IsIn ctx.registry := Registry.isIn_of_rule hrule
    refine ⟨hregion.rule_eq ▸ href, fun g regex hexit ↦ ?_⟩
    have hof := ExitPattern.isOf_of_exitPattern hregion.exit_returned
    rw [hexit] at hof
    rw [hof.1]
    exact href
  entered := by
    intro s range m path grammar captures labels _ hsite _ _ _ hl
    exact ⟨fun ref href ↦ (by cases href),
      patterns_of_mem_forest hl fun _ _ _ _ ↦ hsite.grammar_lt⟩

/-- **A line comes to rules of the registry only.** -/
theorem isOf_invariant (ctx : Context) (line : LineText) :
    LineInvariant ctx line fun s ↦ s.stack.IsOf ctx := by
  refine ((base_invariant ctx line).and (isIn_frameInvariant ctx line).lineInvariant).of_iff ?_
  intro s
  rw [Stack.layered_iff_forall_mem]
  exact ⟨fun h ↦ ⟨h.base_eq, h.frames⟩, fun h ↦ ⟨h.1, h.2⟩⟩

end IsOf

/-! ### What is asked of rules -/

/-- What a line is tokenized with, but for another registry. -/
def Context.withRegistry (ctx : Context) (r : Registry) : Context :=
  { ctx with registry := r }

namespace Tokenizing

variable {ctx : Context} {line : LineText} {r' : Registry} {s : LineState} {ref : RuleRef}

section Asked

variable (hseen : ctx.IsSeenBy r')

include hseen

/-- What is noted of a rule of the registry is the same with the other one. -/
theorem trace_withRegistry (href : ref.IsIn ctx.registry) (e : String → Event) :
    trace (ctx.withRegistry r') ref e = trace ctx ref e := by
  simp only [trace, Context.withRegistry, hseen.sees.describe_eq href]

/-- A rule of the registry leads to the same candidates with the other one. -/
theorem candidates_withRegistry (href : ref.IsIn ctx.registry) (kind : CandidateKind) :
    candidates (ctx.withRegistry r') ref kind = candidates ctx ref kind := by
  have hfresh := hseen.sees.fresh_eq ref href kind
  cases kind <;>
    simp only [Registry.freshCandidates] at hfresh <;>
    simp only [candidates, Context.withRegistry, hfresh]

/-- Injections of the registry offer the same with the other one. -/
theorem injectedCandidates_withRegistry {injected : List (Precedence × RuleRef)}
    (hinjected : ∀ i ∈ injected, i.2.IsIn ctx.registry) :
    injectedCandidates (ctx.withRegistry r') injected = injectedCandidates ctx injected := by
  induction injected with
  | nil => rfl
  | cons i rest ih =>
    obtain ⟨hi, hrest⟩ := List.forall_mem_cons.1 hinjected
    rw [injectedCandidates, injectedCandidates, ih hrest, candidates_withRegistry hseen hi]

/-- A frame of the registry has the same candidates with the other one, in the same order. -/
theorem orderedCandidates_withRegistry (stack : Stack) {owner : RuleRef}
    (howner : owner.IsIn ctx.registry) :
    orderedCandidates (ctx.withRegistry r') stack owner = orderedCandidates ctx stack owner := by
  have hactive : ∀ i ∈ activeInjections ctx stack.scopes, i.2.IsIn ctx.registry := by
    intro i hi
    obtain ⟨q, hq, heq⟩ := List.mem_filterMap.1 hi
    obtain ⟨_, -, rfl⟩ := Option.map_eq_some_iff.1 heq
    exact hseen.injections q hq
  have hsome : ∀ p : Precedence × RuleRef → Bool,
      injectedCandidates (ctx.withRegistry r') ((activeInjections ctx stack.scopes).filter p) =
        injectedCandidates ctx ((activeInjections ctx stack.scopes).filter p) := fun p ↦
    injectedCandidates_withRegistry hseen fun i hi ↦ hactive i (List.mem_filter.1 hi).1
  have hsame : activeInjections (ctx.withRegistry r') stack.scopes =
      activeInjections ctx stack.scopes := rfl
  simp only [orderedCandidates, hsame, hsome, candidates_withRegistry hseen howner]

/-- An end pattern that is one of a grammar of the registry is found in the other one too. -/
theorem exitRegex_withRegistry {exit : ExitPattern}
    (hexit : ∀ g regex, exit = .fixed g regex → g < ctx.registry.grammars.size) :
    exit.regex r' = exit.regex ctx.registry := by
  cases exit with
  | fixed g regex =>
    rw [ExitPattern.regex, ExitPattern.regex, hseen.sees.grammar_eq g (hexit g regex rfl)]
  | filled regex => rfl

/-- A candidate has the same pattern with the other registry. -/
theorem candidateRegex_withRegistry {stack : Stack} (hs : stack.IsOf ctx) {c : Candidate}
    (hc : ∀ ref, c = .rule ref → ref.IsIn ctx.registry) :
    candidateRegex (ctx.withRegistry r') stack c = candidateRegex ctx stack c := by
  cases c with
  | exit =>
    obtain ⟨grammar, scope, frames⟩ := stack
    cases frames with
    | nil => rfl
    | cons f below =>
      have hf : f.IsIn ctx.registry := hs.frames f List.mem_cons_self
      cases f with
      | region region =>
        show some <$> ofFault (region.exit.regex r') = some <$> ofFault _
        rw [exitRegex_withRegistry hseen hf.2]
      | captured c => rfl
  | rule ref =>
    show (ofFault (r'.grammar ref.grammar) >>= _) = (ofFault _ >>= _)
    rw [hseen.sees.grammar_eq _ (hc ref rfl)]

/-- The same candidates with the same patterns have the same best match. -/
theorem bestOf_withRegistry (hs : s.stack.IsOf ctx) (bound : Nat)
    (best : Option (Match × Candidate)) {cs : List Candidate}
    (hcs : ∀ ref, .rule ref ∈ cs → ref.IsIn ctx.registry) :
    bestOf (ctx.withRegistry r') line s bound best cs = bestOf ctx line s bound best cs := by
  induction cs generalizing best with
  | nil => rfl
  | cons c cs ih =>
    have hc : ∀ ref, c = .rule ref → ref.IsIn ctx.registry := fun ref hc ↦
      hcs ref (hc ▸ List.mem_cons_self)
    have hrest := fun best ↦ ih best fun ref hmem ↦ hcs ref (List.mem_cons_of_mem _ hmem)
    simp only [bestOf, candidateRegex_withRegistry hseen hs hc, hrest]
    rfl

/-- The frame of a new region does not depend on what else is in the registry. -/
theorem regionFrame_withRegistry (href : ref.IsIn ctx.registry) (r : RegionRule) (m : Match) :
    regionFrame (ctx.withRegistry r') line s ref r m = regionFrame ctx line s ref r m := by
  have hexit : exitPattern (ctx.withRegistry r') line ref r m = exitPattern ctx line ref r m := by
    simp only [exitPattern, Context.withRegistry, hseen.sees.grammar_eq _ href]
  simp only [regionFrame, hexit, trace_withRegistry hseen href]

/-- A region is closed the same way with the other registry. -/
theorem applyExit_withRegistry (hs : s.stack.IsOf ctx) (m : Match) :
    applyExit (ctx.withRegistry r') line s m = applyExit ctx line s m := by
  rw [applyExit, applyExit]
  split
  · rename_i r below hf
    have hr : (Frame.region r).IsIn ctx.registry := hs.frames _ (hf ▸ List.mem_cons_self)
    have hrule : (ctx.withRegistry r').registry.rule r.rule = ctx.registry.rule r.rule :=
      hseen.sees.rule_eq hr.1
    simp only [trace_withRegistry hseen hr.1, hrule]
  · rfl

/-- A match of a rule of the registry is applied the same way with the other one. -/
theorem applyMatch_withRegistry (hs : s.stack.IsOf ctx) (m : Match) {c : Candidate}
    (hc : ∀ ref, c = .rule ref → ref.IsIn ctx.registry) :
    applyMatch (ctx.withRegistry r') line s m c = applyMatch ctx line s m c := by
  cases c with
  | exit => exact applyExit_withRegistry hseen hs m
  | rule ref =>
    have href := hc ref rfl
    have hsingle : ∀ r, applySingle (ctx.withRegistry r') line s ref r m =
        applySingle ctx line s ref r m := fun r ↦ by
      simp only [applySingle, trace_withRegistry hseen href]
    have hregion : ∀ r, applyRegion (ctx.withRegistry r') line s ref r m =
        applyRegion ctx line s ref r m := fun r ↦ by
      simp only [applyRegion, trace_withRegistry hseen href, regionFrame_withRegistry hseen href]
    have hrule : (ctx.withRegistry r').registry.rule ref = ctx.registry.rule ref :=
      hseen.sees.rule_eq href
    simp only [applyMatch, hrule, hsingle, hregion]

/-- A frame that has come to its bound is closed the same way with the other registry. -/
theorem closeAtBound_withRegistry (hs : s.stack.IsOf ctx) (stopDepth : Option Nat)
    (bound : Nat) :
    closeAtBound (ctx.withRegistry r') stopDepth bound s = closeAtBound ctx stopDepth bound s := by
  obtain ⟨⟨grammar, scope, frames⟩, position, anchor, atTextStart, row⟩ := s
  cases frames with
  | nil => rfl
  | cons f below =>
    have hf : f.IsIn ctx.registry := hs.frames f List.mem_cons_self
    cases f with
    | region r =>
      simp only [closeAtBound, LineState.extendContent, LineState.extend,
        trace_withRegistry hseen hf.1]
    | captured c => rfl

end Asked

/-! ### What is found -/

variable {α β : Type} {A : Failure → Prop} {I : Memory → Prop}

/-- The computations come to the same from some memories. -/
def SameFrom (I : Memory → Prop) (x y : Tokenizing α) : Prop :=
  ∀ memory, I memory → x memory = y memory

theorem sameFrom_of_eq {x y : Tokenizing α} (h : x = y) : SameFrom I x y :=
  fun memory _ ↦ congrFun h memory

/-- **Sequences come to the same if their first parts do, and the second ones for all that the first
part returns.** -/
theorem SameFrom.bind {x y : Tokenizing α} {f g : α → Tokenizing β} (hxy : SameFrom I x y)
    (hkept : Confined A I y) (hfg : ∀ a, ReturnsFrom I y a → SameFrom I (f a) (g a)) :
    SameFrom I (x >>= f) (y >>= g) := by
  intro memory h
  have hx : x memory = y memory := hxy memory h
  have hmemory := hkept memory h
  cases heq : y memory with
  | ok a memory' =>
    rw [heq] at hmemory
    rw [bind_eq_of_eq_ok (hx.trans heq), bind_eq_of_eq_ok heq]
    exact hfg a ⟨memory, memory', h, heq⟩ memory' hmemory
  | error e memory' => rw [bind_eq_of_eq_error (hx.trans heq), bind_eq_of_eq_error heq]

section Found

variable (hseen : ctx.IsSeenBy r')

include hseen

/-- The rules that are tried are those of the registry. -/
theorem tries_isIn : Tries ctx (Memory.Agrees ctx) fun _ ref ↦ ref.IsIn ctx.registry := by
  intro stack owner cs ref howner hcs hmem
  obtain ⟨p, -, hoffers⟩ := tries_of_agrees ctx stack owner cs ref howner hcs hmem
  rcases hoffers with ⟨rule, hrule, id, -, hreaches⟩ | ⟨i, hi, hreaches⟩
  · have hheld : p.owner.IsIn ctx.registry := Registry.isIn_of_rule hrule
    have hbase : RuleRef.IsIn ⟨p.owner.grammar, id⟩ ctx.registry := hheld
    exact hseen.sees.isIn_of_reaches hbase hreaches
  · obtain ⟨q, hq, heq⟩ := List.mem_filterMap.1 hi
    obtain ⟨_, -, rfl⟩ := Option.map_eq_some_iff.1 heq
    have hinjected : RuleRef.IsIn ⟨q.1, q.2.rule⟩ ctx.registry := hseen.injections q hq
    exact hseen.sees.isIn_of_reaches hinjected hreaches

/-- The best match is the same with the other registry, since the candidates that are remembered are
those of this one. -/
theorem findBest_sameFrom (hs : s.stack.IsOf ctx) (bound : Nat) :
    SameFrom (Memory.Agrees ctx) (findBest (ctx.withRegistry r') line s bound)
      (findBest ctx line s bound) := by
  rw [findBest, findBest]
  split
  · exact sameFrom_of_eq rfl
  · rename_i owner howner
    have hsame := orderedCandidates_withRegistry hseen s.stack (hs.owner? hseen.base_lt howner)
    have hkept := (agrees_invariant ctx).finishes.confined_orderedCandidates s.stack owner
    refine (sameFrom_of_eq hsame).bind hkept fun cs hcs ↦ sameFrom_of_eq ?_
    refine bestOf_withRegistry hseen hs bound none fun ref hmem ↦ ?_
    exact tries_isIn hseen s.stack owner cs ref howner hcs hmem

omit hseen in
theorem confined_findBest (bound : Nat) :
    Confined (· ≠ .unfinished) (Memory.Agrees ctx) (findBest ctx line s bound) := by
  have hI := (agrees_invariant ctx).finishes
  rw [findBest]
  split
  · exact confined_pure _
  · exact (hI.confined_orderedCandidates _ _).bind fun _ _ ↦
      hI.confined_bestOf (fun _ _ _ _ ↦ finishes_search _ _ _) _ _ _

/-- The next match is the same with the other registry. -/
theorem nextMatch_sameFrom (hs : s.stack.IsOf ctx) (bound : Nat) :
    SameFrom (Memory.Agrees ctx) (nextMatch (ctx.withRegistry r') line s bound)
      (nextMatch ctx line s bound) := by
  rw [nextMatch, nextMatch]
  split
  · exact sameFrom_of_eq rfl
  · exact (findBest_sameFrom hseen hs bound).bind (confined_findBest bound) fun _ _ ↦
      sameFrom_of_eq rfl

/-- **A step comes to the same.** -/
theorem step_sameFrom (hs : s.stack.IsOf ctx) (stopDepth : Option Nat) :
    SameFrom (Memory.Agrees ctx) (step (ctx.withRegistry r') line stopDepth s)
      (step ctx line stopDepth s) := by
  have hI := (agrees_invariant ctx).finishes
  have hs := (isOf_invariant ctx line).dropPassed hs
  rw [step, step]
  refine (nextMatch_sameFrom hseen hs _).bind
    (hI.confined_nextMatch (fun _ _ _ _ ↦ finishes_search _ _ _) _) fun found hfound ↦ ?_
  split
  · rename_i m c
    have hc : ∀ ref, c = .rule ref → ref.IsIn ctx.registry :=
      (selectedOf_of_nextMatch (tries_isIn hseen) hfound).tried
    refine sameFrom_of_eq ?_
    dsimp only
    rw [applyMatch_withRegistry hseen (s := s.dropPassed.extendContent m.start) hs m hc]
  · split
    · exact sameFrom_of_eq rfl
    · exact sameFrom_of_eq (closeAtBound_withRegistry hseen hs _ _)

/-! ### Lines -/

/-- A scan goes the same way with the other registry, as long as the frames keep to this one. -/
theorem runScan_withRegistry (stopDepth : Option Nat) (fuel : Nat) (hs : s.stack.IsOf ctx)
    {memory : Memory} (hmemory : memory.Agrees ctx) :
    runScan (ctx.withRegistry r') line stopDepth fuel s memory =
      runScan ctx line stopDepth fuel s memory := by
  induction fuel generalizing s memory with
  | zero => rfl
  | succ fuel ih =>
    have hkept : Finishes (Memory.Agrees ctx) (step ctx line stopDepth s) :=
      finishes_step (agrees_invariant ctx) stopDepth s
    have hkept := hkept memory hmemory
    rw [runScan, runScan, step_sameFrom hseen hs stopDepth memory hmemory]
    cases heq : step ctx line stopDepth s memory with
    | ok next memory' =>
      rw [heq] at hkept
      cases next with
      | goOn s' => exact ih ((isOf_invariant ctx line).step hs (returns_of_eq heq)) hkept
      | done s' => rfl
    | error e memory' => rfl

/-- A scan leaves the same state with the other registry. -/
theorem scan_sameFrom (stopDepth : Option Nat) (fuel : Nat) (hs : s.stack.IsOf ctx) :
    SameFrom (Memory.Agrees ctx) (scan (ctx.withRegistry r') line stopDepth fuel s)
      (scan ctx line stopDepth fuel s) := by
  intro memory hmemory
  rw [scan, scan, runScan_withRegistry hseen stopDepth fuel hs hmemory]

/-- A region goes on the same way with the other registry, the captures of its while pattern
included. -/
theorem enterContinuation_sameFrom (fuel : Nat) {passed : List Frame} {r : Region} {m : Match}
    (hs : s.stack.IsOf ctx) (hframes : (.region r :: passed) <:+ s.stack.frames)
    (hreported : ctx.engine.ReportsIn line.chars ⟨s.position, line.stop⟩ m)
    (hstart : m.start = s.position) :
    SameFrom (Memory.Agrees ctx)
      (enterContinuation (ctx.withRegistry r') line fuel (.region r :: passed) r m s)
      (enterContinuation ctx line fuel (.region r :: passed) r m s) := by
  have hI := (agrees_invariant ctx).finishes
  have hr : (Frame.region r).IsIn ctx.registry := hs.frames _ (hframes.mem List.mem_cons_self)
  have hrule : (ctx.withRegistry r').registry.rule r.rule = ctx.registry.rule r.rule :=
    hseen.sees.rule_eq hr.1
  rw [enterContinuation, enterContinuation, hrule, trace_withRegistry hseen hr.1]
  refine (sameFrom_of_eq rfl).bind (hI.confined_trace _ _) fun _ _ ↦
    (sameFrom_of_eq rfl).bind (hI.confined_fault _) fun rule hrule ↦
      (sameFrom_of_eq rfl).bind (hI.confined_enterCaptures _ _ _ _ _) fun e he ↦ ?_
  have hinner : e.1.stack.IsOf ctx :=
    (isOf_invariant ctx line).entered ((isOf_invariant ctx line).withFrames hs hframes)
      ⟨⟨passed, rfl⟩, hreported, hstart⟩ hrule.returns.eq_ok_of_ofFault
      (capturesEntered_of_enterCaptures he.returns)
  obtain ⟨inner, entered⟩ := e
  cases entered with
  | false => exact sameFrom_of_eq rfl
  | true =>
    have hkept := (searchInvariant_true ctx line _).confined_scan
      ⟨fun _ ↦ True.intro, agrees_invariant ctx⟩ True.intro (some (passed.length + 2)) fuel
      (s := inner) True.intro
    exact (scan_sameFrom hseen _ fuel hinner).bind hkept fun _ _ ↦ sameFrom_of_eq rfl

/-- The regions of earlier lines go on the same way with the other registry. -/
theorem continueRegions_sameFrom (fuel : Nat) {passed inside : List Frame}
    (hs : s.stack.IsOf ctx) (hframes : inside.reverse ++ passed = s.stack.frames) :
    SameFrom (Memory.Agrees ctx) (continueRegions (ctx.withRegistry r') line fuel passed inside s)
      (continueRegions ctx line fuel passed inside s) := by
  induction inside generalizing passed s with
  | nil => exact sameFrom_of_eq rfl
  | cons f inside ih =>
    obtain ⟨hmove, hsuffix⟩ := next_of_reverse_append_eq hframes
    cases f with
    | captured c =>
      rw [continueRegions, continueRegions]
      exact ih hs hmove
    | region r =>
      have hr : (Frame.region r).IsIn ctx.registry := hs.frames _ (hsuffix.mem List.mem_cons_self)
      have hexit : r.exit.regex (ctx.withRegistry r').registry = r.exit.regex ctx.registry :=
        exitRegex_withRegistry hseen hr.2
      have hdiscontinue : continueRegions.discontinue (ctx.withRegistry r') passed r inside s =
          continueRegions.discontinue ctx passed r inside s := by
        rw [continueRegions.discontinue, continueRegions.discontinue,
          trace_withRegistry hseen hr.1]
      rw [continueRegions, continueRegions]
      split
      · exact ih hs hmove
      · rw [hexit, hdiscontinue]
        refine (sameFrom_of_eq rfl).bind ((agrees_invariant ctx).finishes.confined_fault _)
          fun regex _ ↦ (sameFrom_of_eq rfl).bind (finishes_search _ _ _) fun found hfound ↦ ?_
        split
        · split
          · rename_i m hstart
            have hreported := reportsIn_of_search hfound.returns
            have hkept := (searchInvariant_true ctx line _).confined_enterContinuation
              ⟨fun _ ↦ True.intro, agrees_invariant ctx⟩ True.intro fuel True.intro hsuffix
              hreported hstart
            refine (enterContinuation_sameFrom hseen fuel hs hsuffix hreported hstart).bind hkept
              fun s' hs' ↦ ?_
            -- the stack is left as it was, so that the frames further inside are still those of it
            obtain ⟨hs', hstack⟩ := (isOf_invariant ctx line).enterContinuation hs hsuffix hreported
              hstart hs'.returns
            exact ih hs' (by rw [hstack]; exact hmove)
          · exact sameFrom_of_eq rfl
        · exact sameFrom_of_eq rfl

/-- **A line is tokenized the same way with a registry that sees the same**: all that is asked is
asked of rules that both have. -/
theorem scanLine_withRegistry (fuel : Nat) (hs : s.stack.IsOf ctx) {memory : Memory}
    (hmemory : memory.Agrees ctx) :
    Session.scanLine (ctx.withRegistry r') line fuel s memory =
      Session.scanLine ctx line fuel s memory := by
  have hframes : s.stack.frames.reverse.reverse ++ [] = s.stack.frames := by simp
  have hkept := (searchInvariant_true ctx line _).confined_continueRegions
    ⟨fun _ ↦ True.intro, agrees_invariant ctx⟩ True.intro fuel (s := s) True.intro hframes memory
    hmemory
  rw [Session.scanLine, Session.scanLine,
    continueRegions_sameFrom hseen fuel hs hframes memory hmemory]
  cases heq : continueRegions ctx line fuel [] s.stack.frames.reverse s memory with
  | ok s' memory' =>
    rw [heq] at hkept
    have hs' := ((isOf_invariant ctx line).continueRegions hs hframes (returns_of_eq heq)).1
    dsimp only
    rw [runScan_withRegistry hseen none fuel hs' hkept]
  | error e memory' => rfl

end Found

end Tokenizing

end ScopeGrammar
