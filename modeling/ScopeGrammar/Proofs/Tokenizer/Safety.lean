import ScopeGrammar.Proofs.Capture.Slices
import ScopeGrammar.Proofs.Tokenizer.Confined
import ScopeGrammar.Proofs.Tokenizer.Sound

/-!
# Tokenizing finds no fault

From a sound state no part of a step finds a condition broken: rules and patterns are there because
the grammars were compiled, captured text can be cut out because the engine keeps to characters, and
the end pattern is tried only where there is a region to end. What is left is the one fault that the
engine itself reports, a search that goes back too often (`Failure.IsOfEngine`).

`Safe` says so of a computation, together with what is remembered: that all candidates in the cache
are rules with a pattern (`Memory.IsSound`).
-/

namespace ScopeGrammar

/-- A failure that is a fault is one that the engine reports. -/
def Failure.IsOfEngine (e : Failure) : Prop :=
  ∀ f, e = .fault f → f = .searchExhausted

/-- The candidates that are remembered are candidates. -/
def Memory.IsSound (r : Registry) (m : Memory) : Prop :=
  ∀ (key : RuleRef × CandidateKind) (refs : List RuleRef), m.candidates[key]? = some refs →
    ∀ ref ∈ refs, r.IsCandidate ref

namespace Tokenizing

variable {α β : Type} {ctx : Context} {line : LineText}

/-- The computation finds no fault of its own and leaves the memory sound. -/
def Safe (ctx : Context) (x : Tokenizing α) : Prop :=
  Confined Failure.IsOfEngine (Memory.IsSound ctx.registry) x

/-- The computation returns a value from a sound memory. -/
def SoundlyReturns (ctx : Context) (x : Tokenizing α) (a : α) : Prop :=
  ReturnsFrom (Memory.IsSound ctx.registry) x a

/-! ### Primitives -/

/-- A computation without memory that finds no fault can stand before a safe one. -/
theorem Safe.bind_ofFault {Q : α → Prop} {x : Except Fault α} {f : α → Tokenizing β}
    (hx : Faultless x Q) (hf : ∀ a, Q a → Safe ctx (f a)) : Safe ctx (ofFault x >>= f) := by
  obtain ⟨a, rfl, ha⟩ := hx
  exact hf a ha

/-- A computation without memory is safe if it finds no fault. -/
theorem safe_ofFault {Q : α → Prop} {x : Except Fault α} (hx : Faultless x Q) :
    Safe ctx (ofFault x) := by
  obtain ⟨a, rfl, -⟩ := hx
  exact confined_pure a

theorem safe_log (e : Event) : Safe ctx (log e) :=
  confined_modify fun _ h ↦ h

/-- A rule of the registry can be noted. -/
theorem safe_trace (hr : ctx.registry.IsClosed) {ref : RuleRef} (href : ctx.registry.HasRule ref)
    (e : String → Event) : Safe ctx (trace ctx ref e) := by
  rw [trace]
  split
  · exact Safe.bind_ofFault (hr.faultless_describe href) fun _ _ ↦ safe_log _
  · exact confined_pure _

/-- The scopes of a template can be told in a line; no more than the log and the names that are
noted change. -/
theorem confined_resolve {A : Failure → Prop} {I : Memory → Prop}
    (hI : ∀ {memory : Memory} (log : Array Event) (names : Array ScopeName), I memory →
      I { memory with log := log, names := names })
    {m : Match} (hm : m.Sliceable line.chars) (t : Option ScopeTemplate) :
    Confined A I (resolve line m t) := by
  cases t with
  | none => exact confined_pure _
  | some t =>
    obtain ⟨names, hnames, -⟩ := t.faultless_resolve hm
    refine Confined.bind (confined_forIn fun e _ ↦ ?_) fun _ _ ↦ ?_
    · exact confined_modify fun memory h ↦ hI _ memory.names h
    · rw [hnames]
      exact (confined_noteNames (fun {memory} names h ↦ hI memory.log names h) t names).bind
        fun _ _ ↦ confined_pure _

/-- Names can be made of a match whose captures can be cut out of the text. -/
theorem safe_resolve {m : Match} (hm : m.Sliceable line.chars) (t : Option ScopeTemplate) :
    Safe ctx (resolve line m t) :=
  confined_resolve (fun _ _ h ↦ h) hm t

/-- A search from one boundary to a later one finds no fault but what the engine reports. -/
theorem safe_search {r : Regex} {range : Span} {live : LiveAnchors}
    (hstart : IsBoundary line.chars range.start) (hstop : IsBoundary line.chars range.stop)
    (hle : range.start ≤ range.stop) : Safe ctx (search ctx line r range live) := by
  -- the range lies in the text, so that only the engine can find something amiss
  have houtside := @Regex.search_ne_outside r _ _ live ctx.engine hstart hstop hle
  rw [← line.indexed_eq] at houtside
  rw [search]
  split
  · exact confined_pure _
  · exact confined_throw fun f hf ↦ by cases hf
  · rename_i heq
    exact absurd heq houtside
  · exact confined_throw fun f hf ↦ (Failure.fault.inj hf).symm

/-! ### Candidates -/

/-- A rule of the registry leads to candidates that can be searched, in either way. -/
theorem faultless_of_kind (hctx : ctx.IsSound) {ref : RuleRef} (href : ctx.registry.HasRule ref)
    (kind : CandidateKind) :
    Faultless (match kind with
      | .children => ctx.registry.childCandidates ctx.base ref
      | .entry => ctx.registry.entryCandidates ctx.base ref)
      fun found ↦ ∀ ref ∈ found.1, ctx.registry.IsCandidate ref := by
  cases kind with
  | children => exact hctx.registry.faultless_childCandidates hctx.base_lt href
  | entry => exact hctx.registry.faultless_entryCandidates hctx.base_lt href

/-- The memory stays sound if candidates that can be searched are put into it. -/
theorem Memory.isSound_insert {r : Registry} {memory : Memory} (h : memory.IsSound r)
    {key : RuleRef × CandidateKind} {refs : List RuleRef} (hrefs : ∀ ref ∈ refs, r.IsCandidate ref)
    (log : Array Event) :
    Memory.IsSound r
      { memory with log := log, candidates := memory.candidates.insert key refs } := by
  intro key' refs' hfound
  rw [Std.HashMap.getElem?_insert] at hfound
  split at hfound
  · rwa [← Option.some.inj hfound]
  · exact h key' refs' hfound

/-- The candidates of a rule of the registry are found, or they are remembered. -/
theorem safe_candidates (hctx : ctx.IsSound) {ref : RuleRef} (href : ctx.registry.HasRule ref)
    (kind : CandidateKind) : Safe ctx (candidates ctx ref kind) := by
  refine Confined.bind (fun _ h ↦ h) fun memory _ ↦ ?_
  split
  · exact confined_pure _
  · refine Safe.bind_ofFault (faultless_of_kind hctx href kind) fun (refs, events) hrefs ↦ ?_
    exact (confined_modify fun _ h ↦ Memory.isSound_insert h hrefs _).bind fun _ _ ↦
      confined_pure _

/-- What is found for a rule can be searched, whether it was remembered or not. -/
theorem isCandidate_of_candidates (hctx : ctx.IsSound) {ref : RuleRef}
    (href : ctx.registry.HasRule ref) {kind : CandidateKind} {refs : List RuleRef}
    (h : SoundlyReturns ctx (candidates ctx ref kind) refs) :
    ∀ ref ∈ refs, ctx.registry.IsCandidate ref := by
  obtain ⟨memory, memory', hmemory, h⟩ := h
  obtain ⟨_, between, hget, h⟩ := exists_of_bind_eq h
  cases hget
  cases hknown : memory.candidates[(ref, kind)]? with
  | some known =>
    rw [hknown] at h
    cases h
    exact hmemory _ _ hknown
  | none =>
    rw [hknown] at h
    obtain ⟨found, between, hfound, h⟩ := exists_of_bind_eq h
    -- what is not known yet is looked for, and found to be candidates
    have hcandidates :=
      (faultless_of_kind hctx href kind).of_eq_ok (returns_of_eq hfound).eq_ok_of_ofFault
    obtain ⟨_, between', -, h⟩ := exists_of_bind_eq h
    cases h
    exact hcandidates

/-- The candidates of injections are found without a fault. -/
theorem safe_injectedCandidates (hctx : ctx.IsSound) {injected : List (Precedence × RuleRef)}
    (hinjected : ∀ i ∈ injected, ctx.registry.HasRule i.2) :
    Safe ctx (injectedCandidates ctx injected) := by
  induction injected with
  | nil => exact confined_pure _
  | cons i rest ih =>
    have hrest : ∀ i' ∈ rest, ctx.registry.HasRule i'.2 :=
      fun i' h ↦ hinjected i' (List.mem_cons_of_mem _ h)
    exact (safe_candidates hctx (hinjected i List.mem_cons_self) .entry).bind fun _ _ ↦
      (ih hrest).bind fun _ _ ↦ confined_pure _

/-- A candidate can be tried: the end pattern of a region, or a rule with a pattern. -/
def CanTry (ctx : Context) (stack : Stack) : Candidate → Prop
  | .exit => ∃ r below, stack.frames = .region r :: below
  | .rule ref => ctx.registry.IsCandidate ref

/-- What injections offer can be tried on any stack. -/
theorem canTry_of_injectedCandidates (hctx : ctx.IsSound) {stack : Stack}
    {injected : List (Precedence × RuleRef)}
    (hinjected : ∀ i ∈ injected, ctx.registry.HasRule i.2) {cs : List Candidate}
    (h : SoundlyReturns ctx (injectedCandidates ctx injected) cs) :
    ∀ c ∈ cs, CanTry ctx stack c := by
  induction injected generalizing cs with
  | nil =>
    rw [h.returns.eq_of_pure]
    exact fun c hc ↦ by cases hc
  | cons i rest ih =>
    have href := hinjected i List.mem_cons_self
    have hrest : ∀ i' ∈ rest, ctx.registry.HasRule i'.2 :=
      fun i' h ↦ hinjected i' (List.mem_cons_of_mem _ h)
    obtain ⟨refs, hrefs, h⟩ := h.exists_of_bind (safe_candidates hctx href .entry)
    obtain ⟨others, hothers, h⟩ := h.exists_of_bind (safe_injectedCandidates hctx hrest)
    rw [h.returns.eq_of_pure]
    intro c hc
    rcases List.mem_append.1 hc with hc | hc
    · obtain ⟨ref, href', rfl⟩ := List.mem_map.1 hc
      exact isCandidate_of_candidates hctx href hrefs ref href'
    · exact ih hrest hothers c hc

/-- Active injections have rules of the registry. -/
theorem hasRule_of_mem_activeInjections (hctx : ctx.IsSound) (scopes : ScopePath)
    (p : Precedence × RuleRef → Bool) :
    ∀ i ∈ (activeInjections ctx scopes).filter p, ctx.registry.HasRule i.2 := by
  intro i hi
  obtain ⟨injection, hmem, heq⟩ := List.mem_filterMap.1 (List.mem_filter.1 hi).1
  obtain ⟨precedence, -, rfl⟩ := Option.map_eq_some_iff.1 heq
  exact hctx.injections injection hmem

/-- All that can match in a frame is found without a fault. -/
theorem safe_orderedCandidates (hctx : ctx.IsSound) (stack : Stack) {owner : RuleRef}
    (howner : ctx.registry.HasRule owner) : Safe ctx (orderedCandidates ctx stack owner) := by
  have hinjected := hasRule_of_mem_activeInjections hctx stack.scopes
  exact (safe_injectedCandidates hctx (hinjected _)).bind fun _ _ ↦
    (safe_candidates hctx howner .children).bind fun _ _ ↦
      (safe_injectedCandidates hctx (hinjected _)).bind fun _ _ ↦ confined_pure _

/-- **All candidates of the innermost frame can be tried.** -/
theorem canTry_of_orderedCandidates (hctx : ctx.IsSound) {stack : Stack} {owner : RuleRef}
    (howner : ctx.registry.HasRule owner) {cs : List Candidate}
    (h : SoundlyReturns ctx (orderedCandidates ctx stack owner) cs) :
    ∀ c ∈ cs, CanTry ctx stack c := by
  have hinjected := hasRule_of_mem_activeInjections hctx stack.scopes
  have hexit : ∀ last, ∀ c ∈ exitCandidate stack last, CanTry ctx stack c := by
    intro last c hc
    cases c with
    | exit =>
      obtain ⟨r, below, hf, -⟩ := exists_region_of_exit_mem hc
      exact ⟨r, below, hf⟩
    | rule ref =>
      rw [exitCandidate] at hc
      split at hc
      · split at hc <;> simp at hc
      · simp at hc
  obtain ⟨left, hleft, h⟩ := h.exists_of_bind (safe_injectedCandidates hctx (hinjected _))
  obtain ⟨rules, hrules, h⟩ := h.exists_of_bind (safe_candidates hctx howner .children)
  obtain ⟨others, hothers, h⟩ := h.exists_of_bind (safe_injectedCandidates hctx (hinjected _))
  rw [h.returns.eq_of_pure]
  intro c hc
  simp only [List.mem_append] at hc
  -- injections come first and last, the end pattern before or after the rules
  rcases hc with (((hc | hc) | hc) | hc) | hc
  · exact canTry_of_injectedCandidates hctx (hinjected _) hleft c hc
  · exact hexit false c hc
  · obtain ⟨ref, href, rfl⟩ := List.mem_map.1 hc
    exact isCandidate_of_candidates hctx howner hrules ref href
  · exact hexit true c hc
  · exact canTry_of_injectedCandidates hctx (hinjected _) hothers c hc

/-! ### Searching -/

/-- The end pattern of an open region is there: it belongs to the grammar of its rule, or it was
filled in. -/
theorem faultless_exitRegex (hr : ctx.registry.IsClosed) {s : Stack} {r : Region}
    (hfits : r.FitsOn ctx.registry s) : Faultless (r.exit.regex ctx.registry) fun _ ↦ True := by
  obtain ⟨rule, body, hrule, hbody, -, hexit⟩ := hfits.ruled
  obtain ⟨g, hg, hclosed⟩ := hr.exists_body hrule
  rw [hbody] at hclosed
  cases hregex : r.exit with
  | fixed grammar regex =>
    rw [hregex] at hexit
    obtain ⟨rfl, rfl⟩ := hexit
    refine (faultless_of_eq (Registry.grammar_eq_ok_iff.2 hg)).bind ?_
    rintro _ rfl
    exact Grammar.faultless_regex hclosed.2.1
  | filled regex => exact faultless_ok trivial

/-- A candidate that can be tried has a pattern. -/
theorem safe_candidateRegex (hr : ctx.registry.IsClosed) {stack : Stack}
    (hfits : stack.Layered fun s f ↦ f.FitsOn ctx.registry s) {c : Candidate}
    (hc : CanTry ctx stack c) : Safe ctx (candidateRegex ctx stack c) := by
  cases c with
  | exit =>
    obtain ⟨r, below, hf⟩ := hc
    rw [candidateRegex, hf]
    have hr' := ((Stack.layered_iff_of_cons hf).1 hfits).1
    exact (safe_ofFault (faultless_exitRegex hr hr')).map
  | rule ref =>
    obtain ⟨g, rule, hg, hrule, -⟩ := hc
    have hclosed := (hr.grammars _ g hg).body hrule
    refine Safe.bind_ofFault (faultless_of_eq (Registry.grammar_eq_ok_iff.2 hg)) ?_
    rintro _ rfl
    refine Safe.bind_ofFault (faultless_of_eq (Grammar.rule_eq_ok_iff.2 hrule)) ?_
    rintro _ rfl
    split
    · rename_i id hid
      refine (safe_ofFault (@Grammar.faultless_regex _ id ?_)).map
      rw [Rule.entry?] at hid
      split at hid <;> rename_i hbody
      · rw [hbody] at hclosed
        exact Option.some.inj hid ▸ hclosed.1
      · rw [hbody] at hclosed
        exact Option.some.inj hid ▸ hclosed.1
      · contradiction
      · contradiction
    · exact confined_pure _

/-- Going through candidates that can be tried finds no fault of its own. -/
theorem safe_bestOf (hr : ctx.registry.IsClosed) {s : LineState} {bound : Nat}
    (hfits : s.stack.Layered fun s f ↦ f.FitsOn ctx.registry s)
    (hposition : IsBoundary line.chars s.position) (hbound : IsBoundary line.chars bound)
    (hle : s.position ≤ bound) {best : Option (Match × Candidate)} {cs : List Candidate}
    (hcs : ∀ c ∈ cs, CanTry ctx s.stack c) : Safe ctx (bestOf ctx line s bound best cs) := by
  induction cs generalizing best with
  | nil => exact confined_pure _
  | cons c cs ih =>
    have hrest : ∀ {best}, Safe ctx (bestOf ctx line s bound best cs) :=
      ih fun c' h ↦ hcs c' (List.mem_cons_of_mem _ h)
    refine (safe_candidateRegex hr hfits (hcs c List.mem_cons_self)).bind fun regex _ ↦ ?_
    split
    · exact hrest
    · refine (safe_search hposition hbound hle).bind fun found _ ↦ ?_
      split
      · exact hrest
      · split
        · split
          · exact confined_pure _
          · exact hrest
        · exact hrest

/-- Frames have rules that the registry knows, if they have any. -/
theorem hasRule_of_owner? (hctx : ctx.IsSound) {s : LineState} (hs : s.IsSound ctx line)
    {owner : RuleRef} (h : s.stack.owner? = some owner) : ctx.registry.HasRule owner := by
  rw [Stack.owner?] at h
  split at h
  · rw [← Option.some.inj h, hs.base_eq]
    exact hctx.registry.hasRule_root hctx.base_lt
  · rename_i f below hf
    cases f with
    | region r =>
      obtain rfl : r.rule = owner := Option.some.inj h
      exact ((Stack.layered_iff_of_cons hf).1 hs.fits).1.hasRule
    | captured c => exact ((Stack.layered_iff_of_cons hf).1 hs.ruled).1.1 owner h

/-- **Looking for the next match finds no fault.** Nothing is searched at the bound of a frame, and
so the range that is searched does not run backwards. -/
theorem safe_nextMatch (hctx : ctx.IsSound) {s : LineState} (hs : s.IsSound ctx line) :
    Safe ctx (nextMatch ctx line s (s.limit line)) := by
  rw [nextMatch]
  split
  · exact confined_pure _
  · rename_i hexhausted
    -- without a bound the position is in the line, and at a bound nothing is searched
    have hle : s.position ≤ s.limit line := by
      rw [LineState.limit] at hexhausted ⊢
      cases hb : s.stack.bound? with
      | none => exact line.stop_eq_byteLength ▸ hs.lies.position.le_byteLength
      | some b =>
        rw [hb] at hexhausted
        exact Nat.le_of_not_le fun hle ↦ hexhausted (by simpa using hle)
    refine Confined.bind ?_ fun found _ ↦ ?_
    · rw [findBest]
      split
      · exact confined_pure _
      · rename_i owner howner
        have hrule := hasRule_of_owner? hctx hs howner
        refine (safe_orderedCandidates hctx s.stack hrule).bind fun cs hcs ↦ ?_
        exact safe_bestOf hctx.registry hs.fits hs.lies.position hs.lies.limit hle
          (canTry_of_orderedCandidates hctx hrule hcs)
    · split <;> exact confined_pure _

/-! ### Applying a match -/

theorem confined_capturedScopes {A : Failure → Prop} {I : Memory → Prop}
    (hI : ∀ {memory : Memory} (log : Array Event) (names : Array ScopeName), I memory →
      I { memory with log := log, names := names })
    {m : Match} (hm : m.Sliceable line.chars) (grammar : GrammarId)
    (entries : List (Nat × CaptureRule)) : Confined A I (capturedScopes line m grammar entries) :=
  confined_capturedScopes_of_resolve (confined_resolve hI hm) grammar entries

/-- Captures that can be cut out of the text are entered without a fault. -/
theorem safe_enterCaptures {m : Match} (hm : m.Sliceable line.chars) (s : LineState)
    (path : ScopePath) (grammar : GrammarId) (captures : Captures) :
    Safe ctx (enterCaptures line s m path grammar captures) :=
  confined_enterCaptures_of_resolve (safe_resolve hm)
    (fun ranges ↦ safe_ofFault (ScopedRange.faultless_flatten ranges)) s path grammar captures

/-- The end pattern of a rule of the registry can be filled in with a match that can be cut out of
the text. -/
theorem safe_exitPattern (hr : ctx.registry.IsClosed) {m : Match} (hm : m.Sliceable line.chars)
    {ref : RuleRef} {rule : Rule} {r : RegionRule} (hrule : ctx.registry.rule ref = .ok rule)
    (hbody : rule.body = .region r) : Safe ctx (exitPattern ctx line ref r m) := by
  obtain ⟨g, hg, hclosed⟩ := hr.exists_body hrule
  rw [hbody] at hclosed
  rw [exitPattern]
  split
  · refine Safe.bind_ofFault (faultless_of_eq (Registry.grammar_eq_ok_iff.2 hg)) ?_
    rintro _ rfl
    refine Safe.bind_ofFault (Grammar.faultless_regex hclosed.2.1) fun template _ ↦ ?_
    refine Safe.bind_ofFault (faultless_fillReferences hm _) fun filled _ ↦ ?_
    split
    · exact Confined.map fun _ h ↦ h
    · exact confined_pure _
  · exact confined_pure _

/-- The frame of a region can be made for every match that can be cut out of the text. -/
theorem safe_regionFrame (hr : ctx.registry.IsClosed) {m : Match} (hm : m.Sliceable line.chars)
    {ref : RuleRef} {rule : Rule} {r : RegionRule} (hrule : ctx.registry.rule ref = .ok rule)
    (hbody : rule.body = .region r) (s : LineState) : Safe ctx (regionFrame ctx line s ref r m) :=
  (safe_exitPattern hr hm hrule hbody).bind fun _ _ ↦ (safe_resolve hm _).bind fun _ _ ↦
    (safe_resolve hm _).bind fun _ _ ↦ (safe_trace hr (Registry.hasRule_of_rule hrule) _).bind
      fun _ _ ↦ confined_pure _

/-- A candidate whose pattern was found is a rule with a pattern. -/
theorem isCandidate_of_candidateRegex {stack : Stack} {ref : RuleRef} {regex : Regex}
    (h : Returns (candidateRegex ctx stack (.rule ref)) (some regex)) :
    ctx.registry.IsCandidate ref := by
  obtain ⟨g, rule, id, hg, hrule, hid, -⟩ := exists_entry_of_candidateRegex h
  refine ⟨g, rule, Registry.grammar_eq_ok_iff.1 hg, Grammar.rule_eq_ok_iff.1 hrule, ?_⟩
  rw [Rule.entry?] at hid
  split at hid <;> rename_i hbody
  · exact .inl ⟨_, hbody⟩
  · exact .inr ⟨_, hbody⟩
  · contradiction
  · contradiction

/-- **Applying a match finds no fault.** -/
theorem safe_applyMatch (hctx : ctx.IsSound) {s : LineState}
    (hfits : s.stack.Layered fun s f ↦ f.FitsOn ctx.registry s) {m : Match}
    (hm : m.Sliceable line.chars) {c : Candidate} (hc : CanTry ctx s.stack c) :
    Safe ctx (applyMatch ctx line s m c) := by
  have hr := hctx.registry
  cases c with
  | exit =>
    obtain ⟨r, below, hf⟩ := hc
    have hrule := ((Stack.layered_iff_of_cons hf).1 hfits).1.hasRule
    rw [applyMatch, applyExit, hf]
    dsimp only
    split
    · exact (safe_trace hr hrule _).bind fun _ _ ↦ confined_pure _
    · refine (safe_trace hr hrule _).bind fun _ _ ↦ ?_
      refine Safe.bind_ofFault hrule.faultless_rule fun rule _ ↦ ?_
      exact (safe_enterCaptures hm _ _ _ _).bind fun _ _ ↦ confined_pure _
  | rule ref =>
    obtain ⟨g, rule, hg, hrule, hbody⟩ := hc
    have hrule : ctx.registry.rule ref = .ok rule := Registry.rule_eq_ok_iff.2 ⟨g, hg, hrule⟩
    have htrace := safe_trace hr (Registry.hasRule_of_rule hrule)
    refine Safe.bind_ofFault (faultless_of_eq hrule) ?_
    rintro _ rfl
    rcases hbody with ⟨r, hbody⟩ | ⟨r, hbody⟩
    · rw [hbody]
      dsimp only
      rw [applySingle]
      split
      · exact (htrace _).bind fun _ _ ↦ confined_pure _
      · exact (htrace _).bind fun _ _ ↦ (safe_resolve hm _).bind fun _ _ ↦
          (safe_enterCaptures hm _ _ _ _).bind fun _ _ ↦ confined_pure _
    · rw [hbody]
      dsimp only
      rw [applyRegion]
      split
      · exact (htrace _).bind fun _ _ ↦ confined_pure _
      · exact (safe_regionFrame hr hm hrule hbody s).bind fun _ _ ↦
          (safe_enterCaptures hm _ _ _ _).bind fun _ _ ↦ confined_pure _

/-! ### Steps -/

variable (hctx : ctx.IsSound) (hbounds : ctx.engine.KeepsBoundaries)
  (hforward : ctx.engine.CapturesForward)

include hctx in
/-- A frame that has come to its bound can be closed; the root is never taken off. -/
theorem safe_closeAtBound {stopDepth : Option Nat} {bound : Nat} {s : LineState}
    (hfits : s.stack.Layered fun s f ↦ f.FitsOn ctx.registry s) :
    Safe ctx (closeAtBound ctx stopDepth bound s) := by
  rw [closeAtBound]
  dsimp only
  split
  · exact confined_pure _
  · rename_i f below hf
    split
    · exact confined_pure _
    · cases f with
      | region r =>
        have hrule := ((Stack.layered_iff_of_cons hf).1 hfits).1.hasRule
        exact (safe_trace hctx.registry hrule _).bind fun _ _ ↦ (confined_pure _).bind fun _ _ ↦
          confined_pure _
      | captured c => exact (confined_pure _).bind fun _ _ ↦ confined_pure _

include hctx hbounds hforward

/-- **A step from a sound state finds no fault.** -/
theorem safe_step {s : LineState} (hs : s.IsSound ctx line) (stopDepth : Option Nat) :
    Safe ctx (step ctx line stopDepth s) := by
  have hs : s.dropPassed.IsSound ctx line :=
    (isSound_invariant hctx.registry hbounds).dropPassed hs
  refine (safe_nextMatch hctx hs).bind fun found hfound ↦ ?_
  split
  · rename_i m c
    have hselected := selected_of_nextMatch hfound.returns
    have hm : m.Sliceable line.chars :=
      Match.sliceable_of_reportsIn hbounds hforward hselected.reported
    -- the match tells what can be applied: there was a pattern to search for
    have hc : CanTry ctx s.dropPassed.stack c := by
      cases c with
      | exit =>
        obtain ⟨r, below, hf, -⟩ := hselected.exit_region rfl
        exact ⟨r, below, hf⟩
      | rule ref =>
        obtain ⟨regex, hregex⟩ := hselected.regex_returned
        exact isCandidate_of_candidateRegex hregex
    refine (safe_applyMatch hctx ?_ hm ?_).bind fun next _ ↦ ?_
    · exact hs.fits
    · exact hc
    · split <;> exact confined_pure _
  · split
    · exact confined_pure _
    · exact safe_closeAtBound hctx hs.fits

/-- **A scan from a sound state finds no fault.** -/
theorem runScan_isOfEngine {s : LineState} (hs : s.IsSound ctx line) {memory : Memory}
    (hmemory : memory.IsSound ctx.registry) (stopDepth : Option Nat) (fuel : Nat) :
    Memory.IsSound ctx.registry (runScan ctx line stopDepth fuel s memory).memory ∧
      ∀ e, (runScan ctx line stopDepth fuel s memory).failure = some e → e.IsOfEngine := by
  -- sound states lead to sound states, so that the next step is like this one
  induction fuel generalizing s memory with
  | zero =>
    refine ⟨hmemory, ?_⟩
    rintro e ⟨⟩ f hf
    cases hf
  | succ fuel ih =>
    have hstep := safe_step hctx hbounds hforward hs stopDepth memory hmemory
    rw [runScan]
    cases heq : step ctx line stopDepth s memory with
    | ok next memory' =>
      rw [heq] at hstep
      have hnext := (isSound_invariant hctx.registry hbounds).step hs (returns_of_eq heq)
      cases next with
      | goOn s' => exact ih hnext hstep
      | done s' => exact ⟨hstep, fun e he ↦ by cases he⟩
    | error failure memory' =>
      rw [heq] at hstep
      refine ⟨hstep.2, ?_⟩
      rintro e ⟨⟩
      exact hstep.1

/-- A scan that begins in a sound state finds no fault of its own. -/
theorem safe_scan {s : LineState} (hs : s.IsSound ctx line) (stopDepth : Option Nat) (fuel : Nat) :
    Safe ctx (scan ctx line stopDepth fuel s) := by
  intro memory hmemory
  obtain ⟨hmemory', hfailure⟩ := runScan_isOfEngine hctx hbounds hforward hs hmemory stopDepth fuel
  rw [scan]
  cases heq : (runScan ctx line stopDepth fuel s memory).failure with
  | none => exact hmemory'
  | some failure => exact ⟨hfailure failure heq, hmemory'⟩

/-! ### Regions that go on -/

/-- The captures of a while pattern are gone through without a fault. -/
theorem safe_enterContinuation {s : LineState} (hs : s.IsSound ctx line) {passed : List Frame}
    {r : Region} (hframes : (.region r :: passed) <:+ s.stack.frames) {m : Match}
    (hreported : ctx.engine.ReportsIn line.chars ⟨s.position, line.stop⟩ m)
    (hstart : m.start = s.position) (fuel : Nat) :
    Safe ctx (enterContinuation ctx line fuel (.region r :: passed) r m s) := by
  have hsound := @isSound_invariant ctx line hctx.registry hbounds
  have hinner := hsound.withFrames hs hframes
  have hfits : r.FitsOn ctx.registry (s.stack.withFrames passed) := hs.fits _ _ hframes
  have hrule := hfits.hasRule
  have hm := Match.sliceable_of_reportsIn hbounds hforward hreported
  refine (safe_trace hctx.registry hrule _).bind fun _ _ ↦ ?_
  refine (safe_ofFault hrule.faultless_rule).bind fun rule hrule ↦ ?_
  refine (safe_enterCaptures hm _ _ _ _).bind fun (inner, opened) he ↦ ?_
  have hentered : inner.IsSound ctx line :=
    hsound.entered hinner ⟨⟨passed, rfl⟩, hreported, hstart⟩ hrule.returns.eq_ok_of_ofFault
      (capturesEntered_of_enterCaptures he.returns)
  dsimp only
  split
  · exact (safe_scan hctx hbounds hforward hentered _ _).bind fun _ _ ↦ confined_pure _
  · exact (confined_pure _).bind fun _ _ ↦ confined_pure _

/-- **Going through the open regions finds no fault.** -/
theorem safe_continueRegions {s : LineState} (hs : s.IsSound ctx line) {passed inside : List Frame}
    (hframes : inside.reverse ++ passed = s.stack.frames) (fuel : Nat) :
    Safe ctx (continueRegions ctx line fuel passed inside s) := by
  induction inside generalizing passed s with
  | nil => exact confined_pure _
  | cons f inside ih =>
    obtain ⟨hmove, hsuffix⟩ := next_of_reverse_append_eq hframes
    cases f with
    | captured c => exact ih hs hmove
    | region r =>
      have hfits : r.FitsOn ctx.registry (s.stack.withFrames passed) := hs.fits _ _ hsuffix
      have hclose : Safe ctx (continueRegions.discontinue ctx passed r inside s) :=
        (safe_trace hctx.registry hfits.hasRule _).bind fun _ _ ↦ confined_pure _
      rw [continueRegions]
      split
      · exact ih hs hmove
      · refine Safe.bind_ofFault (faultless_exitRegex hctx.registry hfits) fun regex _ ↦ ?_
        have hle : s.position ≤ line.stop :=
          line.stop_eq_byteLength ▸ hs.lies.position.le_byteLength
        refine (safe_search hs.lies.position line.isBoundary_stop hle).bind fun found hfound ↦ ?_
        split
        · rename_i m
          split
          · rename_i hstart
            have hreported := reportsIn_of_search hfound.returns
            refine (safe_enterContinuation hctx hbounds hforward hs hsuffix hreported hstart
              fuel).bind fun s' hs' ↦ ?_
            obtain ⟨hs', hstack⟩ :=
              (isSound_invariant hctx.registry hbounds).enterContinuation hs hsuffix hreported
                hstart hs'.returns
            exact ih hs' (by rw [hstack]; exact hmove)
          · exact hclose
        · exact hclose

omit hforward in
/-- A scan that comes to its end has left no frame that ends in its line. -/
theorem checkEnded_runScan {s : LineState} (hs : s.IsSound ctx line) (memory : Memory)
    (fuel : Nat) :
    Session.checkEnded (runScan ctx line none fuel s memory) =
      runScan ctx line none fuel s memory := by
  rw [Session.checkEnded]
  split
  · rename_i hleft
    rw [Bool.and_eq_true, Option.isNone_iff_eq_none, List.any_eq_true] at hleft
    obtain ⟨hnone, f, hf, hbound⟩ := hleft
    obtain ⟨s', hs', hlast⟩ :=
      (isSound_invariant hctx.registry hbounds).exists_last_step hs hnone
    rw [hlast.bound?_eq_none hs'.fits f hf] at hbound
    contradiction
  · rfl

/-- **Tokenizing a line finds no fault.** -/
theorem scanLine_isOfEngine {start : LineState} (hs : start.IsSound ctx line) {memory : Memory}
    (hmemory : memory.IsSound ctx.registry) (fuel : Nat) :
    Memory.IsSound ctx.registry (Session.scanLine ctx line fuel start memory).memory ∧
      ∀ e, (Session.scanLine ctx line fuel start memory).failure = some e → e.IsOfEngine := by
  have hframes : start.stack.frames.reverse.reverse ++ [] = start.stack.frames := by simp
  have hcontinue := safe_continueRegions hctx hbounds hforward hs hframes fuel memory hmemory
  rw [Session.scanLine]
  cases heq : continueRegions ctx line fuel [] start.stack.frames.reverse start memory with
  | ok s memory' =>
    rw [heq] at hcontinue
    have hs' := ((isSound_invariant hctx.registry hbounds).continueRegions hs hframes
      (returns_of_eq heq)).1
    dsimp only
    rw [checkEnded_runScan hctx hbounds hs']
    exact runScan_isOfEngine hctx hbounds hforward hs' hcontinue none fuel
  | error failure memory' =>
    rw [heq] at hcontinue
    refine ⟨hcontinue.2, ?_⟩
    rintro e ⟨⟩
    exact hcontinue.1

end Tokenizing

end ScopeGrammar
