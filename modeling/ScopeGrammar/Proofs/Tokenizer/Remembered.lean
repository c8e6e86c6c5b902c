import ScopeGrammar.Proofs.Registry.Reaching
import ScopeGrammar.Proofs.Tokenizer.Confined
import ScopeGrammar.Proofs.Tokenizer.Sessions

/-!
# What is remembered of candidates

The candidates that are remembered are those that would be found again (`Memory.Agrees`): they are
put there when they are found, and what they are found in does not change while a document is
tokenized. So the rules that are tried are those that the place offers, whatever was tokenized
before (`tries_of_agrees`): those that the rules of the innermost frame lead to, and those of the
injections whose selectors hold of its scopes.
-/

namespace ScopeGrammar

open Tokenizing

variable {ctx : Context} {line : LineText}

/-- All candidates that are known would be found again. -/
def Registry.Agrees (r : Registry) (base : GrammarId) (known : CandidateCache) : Prop :=
  ∀ ref kind refs, known[(ref, kind)]? = some refs →
    ∃ log, r.freshCandidates base ref kind = .ok (refs, log)

/-- All candidates that are remembered would be found again. -/
def Memory.Agrees (ctx : Context) (memory : Memory) : Prop :=
  ctx.registry.Agrees ctx.base memory.candidates

theorem agrees_invariant (ctx : Context) : MemoryInvariant ctx (Memory.Agrees ctx) where
  logged _ h := h
  noted _ h := h
  compiled _ h := h
  found := by
    intro memory ref kind refs events h hfresh ref' kind' refs' hrefs'
    rw [Std.HashMap.getElem?_insert] at hrefs'
    split at hrefs'
    · rename_i heq
      obtain ⟨rfl, rfl⟩ := Prod.mk.inj (eq_of_beq heq)
      rw [← Option.some.inj hrefs']
      exact ⟨events, hfresh⟩
    · exact h ref' kind' refs' hrefs'

/-! ### Places -/

/-- Where rules are tried: the rule whose rules are searched, and the scopes of the text. -/
structure Place where
  owner : RuleRef
  scopes : ScopePath

/-- The place offers a rule: one of those that it searches leads to the rule, or that of an
injection whose selector holds of its scopes. -/
def Place.Offers (ctx : Context) (p : Place) (ref : RuleRef) : Prop :=
  ctx.registry.Holds ctx.base p.owner ref ∨
    ∃ i ∈ activeInjections ctx p.scopes, ctx.registry.Reaches ctx.base i.2 ref

/-- The place that the innermost frame is, if it has rules. -/
def Stack.place? (s : Stack) : Option Place :=
  s.owner?.map (⟨·, s.scopes⟩)

/-- The innermost frame offers a rule. -/
def Stack.Offers (ctx : Context) (s : Stack) (ref : RuleRef) : Prop :=
  ∃ p, s.place? = some p ∧ p.Offers ctx ref

/-- What is remembered is not found again. -/
theorem candidates_eq_of_remembered {ref : RuleRef} {kind : CandidateKind} {refs : List RuleRef}
    {memory : Memory} (h : memory.candidates[(ref, kind)]? = some refs) :
    candidates ctx ref kind memory = .ok refs memory := by
  have hget : (get : Tokenizing Memory) memory = .ok memory memory := rfl
  rw [candidates.eq_def, bind_eq_of_eq_ok hget, h]
  rfl

/-- What is not remembered is found, and remembered if there is something to be found. -/
theorem candidates_eq_of_not_remembered {ref : RuleRef} {kind : CandidateKind} {memory : Memory}
    (h : memory.candidates[(ref, kind)]? = none) :
    candidates ctx ref kind memory =
      match ctx.registry.freshCandidates ctx.base ref kind with
      | .ok (refs, events) => .ok refs { memory with
          log := memory.log ++ events
          candidates := memory.candidates.insert (ref, kind) refs }
      | .error f => .error (.fault f) memory := by
  have hget : (get : Tokenizing Memory) memory = .ok memory memory := rfl
  have hfound : candidates ctx ref kind memory =
      (ofFault (ctx.registry.freshCandidates ctx.base ref kind) >>= fun found ↦ do
        modify fun m ↦ { m with
          log := m.log ++ found.2
          candidates := m.candidates.insert (ref, kind) found.1 }
        pure found.1 : Tokenizing (List RuleRef)) memory := by
    rw [candidates.eq_def, bind_eq_of_eq_ok hget, h]
    cases kind <;> rfl
  rw [hfound]
  cases ctx.registry.freshCandidates ctx.base ref kind <;> rfl

theorem fresh_of_candidates {ref : RuleRef} {kind : CandidateKind} {refs : List RuleRef}
    (h : ReturnsFrom (Memory.Agrees ctx) (candidates ctx ref kind) refs) :
    ∃ log, ctx.registry.freshCandidates ctx.base ref kind = .ok (refs, log) := by
  obtain ⟨memory, memory', hmemory, h⟩ := h
  cases hknown : memory.candidates[(ref, kind)]? with
  | some refs' =>
    rw [candidates_eq_of_remembered hknown] at h
    obtain ⟨rfl, -⟩ := EStateM.Result.ok.inj h
    exact hmemory ref kind _ hknown
  | none =>
    rw [candidates_eq_of_not_remembered hknown] at h
    split at h
    · rename_i refs' events hfresh
      obtain ⟨rfl, -⟩ := EStateM.Result.ok.inj h
      exact ⟨events, hfresh⟩
    · cases h

/-- **Candidates are the same whether they are remembered or found again.** -/
theorem exists_candidates_eq {ref : RuleRef} {kind : CandidateKind} {refs : List RuleRef}
    {events : Array Event} {memory : Memory} (hmemory : memory.Agrees ctx)
    (hfresh : ctx.registry.freshCandidates ctx.base ref kind = .ok (refs, events)) :
    ∃ memory', memory'.Agrees ctx ∧ memory'.patterns = memory.patterns ∧
      candidates ctx ref kind memory = .ok refs memory' := by
  cases hknown : memory.candidates[(ref, kind)]? with
  | some refs' =>
    obtain ⟨log, hlog⟩ := hmemory ref kind refs' hknown
    obtain ⟨rfl, -⟩ := Prod.mk.inj (Except.ok.inj (hfresh.symm.trans hlog))
    exact ⟨memory, hmemory, rfl, candidates_eq_of_remembered hknown⟩
  | none =>
    have hI := agrees_invariant ctx
    refine ⟨_, hI.logged (memory.log ++ events) (hI.found hmemory hfresh), rfl, ?_⟩
    rw [candidates_eq_of_not_remembered hknown, hfresh]

/-- What cannot be found is not remembered. -/
theorem candidates_eq_error {ref : RuleRef} {kind : CandidateKind} {f : Fault} {memory : Memory}
    (hmemory : memory.Agrees ctx)
    (hfresh : ctx.registry.freshCandidates ctx.base ref kind = .error f) :
    candidates ctx ref kind memory = .error (.fault f) memory := by
  cases hknown : memory.candidates[(ref, kind)]? with
  | some refs =>
    obtain ⟨log, hlog⟩ := hmemory ref kind refs hknown
    rw [hfresh] at hlog
    contradiction
  | none => rw [candidates_eq_of_not_remembered hknown, hfresh]

theorem reaches_of_injectedCandidates {injected : List (Precedence × RuleRef)}
    {cs : List Candidate}
    (h : ReturnsFrom (Memory.Agrees ctx) (injectedCandidates ctx injected) cs) {ref : RuleRef}
    (hmem : Candidate.rule ref ∈ cs) :
    ∃ i ∈ injected, ctx.registry.Reaches ctx.base i.2 ref := by
  induction injected generalizing cs with
  | nil =>
    rw [injectedCandidates] at h
    rw [h.returns.eq_of_pure] at hmem
    cases hmem
  | cons i rest ih =>
    have hkept := (agrees_invariant ctx).finishes.confined_candidates i.2 .entry
    obtain ⟨refs, hrefs, h⟩ := h.exists_of_bind hkept
    obtain ⟨others, hothers, h⟩ :=
      h.exists_of_bind ((agrees_invariant ctx).finishes.confined_injectedCandidates rest)
    rw [h.returns.eq_of_pure] at hmem
    rcases List.mem_append.1 hmem with hmem | hmem
    · obtain ⟨ref', href, heq⟩ := List.mem_map.1 hmem
      obtain rfl := Candidate.rule.inj heq
      obtain ⟨log, hfresh⟩ := fresh_of_candidates hrefs
      exact ⟨i, List.mem_cons_self, Registry.reaches_of_entryCandidates hfresh _ href⟩
    · obtain ⟨i', hi', hreaches⟩ := ih hothers hmem
      exact ⟨i', List.mem_cons_of_mem _ hi', hreaches⟩

/-- **The rules that are tried are those that the place offers.** -/
theorem tries_of_agrees (ctx : Context) :
    Tries ctx (Memory.Agrees ctx) fun s ref ↦ s.Offers ctx ref := by
  intro stack owner cs ref howner h hmem
  refine ⟨⟨owner, stack.scopes⟩, by rw [Stack.place?, howner]; rfl, ?_⟩
  have hI := agrees_invariant ctx
  obtain ⟨left, hleft, h⟩ := h.exists_of_bind (hI.finishes.confined_injectedCandidates _)
  obtain ⟨rules, hrules, h⟩ := h.exists_of_bind (hI.finishes.confined_candidates _ _)
  obtain ⟨others, hothers, h⟩ := h.exists_of_bind (hI.finishes.confined_injectedCandidates _)
  rw [h.returns.eq_of_pure] at hmem
  -- the end pattern of the frame is no rule
  have hexit : ∀ last, Candidate.rule ref ∉ exitCandidate stack last := by
    intro last
    rw [exitCandidate]
    split
    · split <;> simp
    · simp
  simp only [List.mem_append, hexit, or_false] at hmem
  rcases hmem with (hmem | hmem) | hmem
  · obtain ⟨i, hi, hreaches⟩ := reaches_of_injectedCandidates hleft hmem
    exact .inr ⟨i, (List.mem_filter.1 hi).1, hreaches⟩
  · obtain ⟨ref', href, heq⟩ := List.mem_map.1 hmem
    obtain rfl := Candidate.rule.inj heq
    obtain ⟨log, hfresh⟩ := fresh_of_candidates hrules
    exact .inl (Registry.holds_of_childCandidates hfresh _ href)
  · obtain ⟨i, hi, hreaches⟩ := reaches_of_injectedCandidates hothers hmem
    exact .inr ⟨i, (List.mem_filter.1 hi).1, hreaches⟩

/-! ### Sessions -/

theorem Registry.expand_withPatterns (r : Registry) (patterns : PatternCache) (base : GrammarId)
    (room : Nat) (e : Expansion) (pending : List RuleRef) :
    (r.withPatterns patterns).expand base room e pending = r.expand base room e pending := by
  fun_induction expand r base room e pending with
  | case1 e pending room heq => rw [expand.eq_def, heq]
  | case2 e pending ref rest heq => rw [expand.eq_def, heq]
  | case3 e pending ref rest room heq ih =>
    rw [expand.eq_def, heq]
    show (r.visit base ref).bind _ = (r.visit base ref).bind _
    congr 1
    funext visited
    exact ih visited.1 visited.2

/-- What is found does not depend on filled-in patterns. -/
theorem Registry.freshCandidates_withPatterns (r : Registry) (patterns : PatternCache)
    (base : GrammarId) (ref : RuleRef) (kind : CandidateKind) :
    (r.withPatterns patterns).freshCandidates base ref kind = r.freshCandidates base ref kind := by
  have hfrom : ∀ refs,
      (r.withPatterns patterns).candidatesFrom base refs = r.candidatesFrom base refs := by
    intro refs
    rw [candidatesFrom, candidatesFrom, expand_withPatterns]
    rfl
  cases kind with
  | children =>
    show (r.rule ref).bind _ = (r.rule ref).bind _
    congr 1
    funext rule
    exact hfrom _
  | entry => exact hfrom [ref]

theorem Registry.agrees_withPatterns {r : Registry} {patterns : PatternCache} {base : GrammarId}
    {known : CandidateCache} :
    (r.withPatterns patterns).Agrees base known ↔ r.Agrees base known := by
  simp only [Agrees, freshCandidates_withPatterns]

namespace Session

variable {E : Engine} {r : Registry} {base : GrammarId} {s : Session}

theorem memory_agrees (h : r.Agrees s.base s.candidates) (patterns : PatternCache) :
    Memory.Agrees (s.context (r.withPatterns patterns))
      { candidates := s.candidates, patterns := patterns } :=
  Registry.agrees_withPatterns.2 h

/-- **What a session remembers would be found again.** -/
theorem Reachable.agrees (hs : Reachable E r base s) : r.Agrees s.base s.candidates := by
  induction hs with
  | start lines h =>
    obtain ⟨g, injections, hg, hinjections, rfl⟩ := exists_of_ofLines h
    intro ref kind refs hrefs
    simp at hrefs
  | traced _ _ ih => exact ih
  | taken _ ih => exact ih
  | @line s hs patterns text fuel h ih =>
    rw [tokenizeLine_session hs.lost_eq]
    have hkept : Memory.Agrees (s.context (r.withPatterns patterns))
        (s.scanNext (r.withPatterns patterns) (.ofLine text) fuel).memory :=
      scanLine_memory (agrees_invariant _) _ _ (memory_agrees ih patterns)
    exact Registry.agrees_withPatterns.1 hkept

end Session

/-! ### A rule in its own capture -/

/-- The selector of all scopes. -/
def ScopeSelector.everywhere : ScopeSelector :=
  ⟨".", [⟨.default, .path [.ofString "."]⟩]⟩

theorem ScopeSelector.parse_everywhere : parse "." = .ok everywhere := by
  have hread : SelectorToken.read? ['.'] = some (.name ['.'], []) := by decide +kernel
  have htokens : SelectorToken.tokenize 0 ".".toList = .ok [(0, .name ['.'])] := by
    show SelectorToken.tokenize 0 ['.'] = _
    rw [SelectorToken.tokenize]
    split
    · rename_i heq
      obtain ⟨rfl, rfl⟩ := Prod.mk.inj (Option.some.inj (hread.symm.trans heq))
      rw [SelectorToken.tokenize]
    · rename_i heq
      cases hread.symm.trans heq
  rw [ScopeSelector.parse, htokens]
  rfl

/-- A grammar whose only rule is injected everywhere, into its own capture too. -/
def GrammarDefinition.recapture : GrammarDefinition where
  scopeName := "text"
  injections :=
    [(".", { matchPattern := some "a", captures := some [("0", { patterns := [{}] })] })]

/-- That grammar, compiled. -/
def Grammar.recapture : Grammar where
  name := ""
  scopeName := "text"
  scope := .ofString "text"
  rules :=
    #[⟨0, none, false, .group ⟨[], []⟩⟩,
      ⟨1, some 0, false, .single ⟨none, 0, ⟨[(0, ⟨none, some 2⟩)]⟩⟩⟩,
      ⟨2, some 1, false, .group ⟨[3], []⟩⟩,
      ⟨3, some 2, false, .group ⟨[], []⟩⟩]
  regexes := #[.ofPattern "a" "injections...match"]
  injections := [⟨.everywhere, 1⟩]
  exported := none
  injectTo := []

theorem Grammar.compile_recapture (matcher : List Char → Matcher) :
    (compile .recapture (.ofMatcher matcher)).result = .ok .recapture := by
  have hread : Loading.readSelector "." = pure .everywhere := by
    rw [Loading.readSelector, ScopeSelector.parse_everywhere]
  have hadd : ∀ E r, Loading.addInjections E [(".", r)] =
      Loading.addRule E (some rootRule) "injections.." r >>= fun rule ↦
        pure [⟨.everywhere, rule⟩] := by
    intro E r
    rw [Loading.addInjections, hread]
    rfl
  rw [compile, Loading.addGrammar]
  dsimp only [GrammarDefinition.recapture]
  rw [hadd]
  rfl

namespace Registry

/-- The registry of that grammar. -/
def recapture : Registry where
  grammars := #[.recapture]
  byScopeName := Std.HashMap.insert {} "text" 0

theorem add_recapture : add {} .recapture = .ok (0, recapture) :=
  rfl

theorem freshCandidates_recapture :
    (∃ log, recapture.freshCandidates 0 (.root 0) .children = .ok ([], log)) ∧
    (∃ log, recapture.freshCandidates 0 ⟨0, 2⟩ .children = .ok ([], log)) ∧
    ∃ log, recapture.freshCandidates 0 ⟨0, 1⟩ .entry = .ok ([⟨0, 1⟩], log) := by
  refine ⟨⟨_, rfl⟩, ⟨#[], ?_⟩, #[], candidatesFrom_of_matching (r := recapture) (by decide) rfl⟩
  show (recapture.expand 0 4 {} [⟨0, 3⟩]).bind _ = _
  rw [expand_of_new Std.HashSet.not_mem_empty rfl]
  rfl

end Registry

namespace Session

/-- The session at the start of a document. -/
def recapture : Session where
  base := 0
  injections := [(0, ⟨.everywhere, 1⟩)]
  stack := .ofGrammar 0 (.ofString "text")
  lines := #[]
  engine := .literal

theorem recapture_reachable : Reachable .literal .recapture 0 recapture :=
  .start [] rfl

/-- What it is tokenized with. -/
def recaptureContext : Context :=
  recapture.context (Registry.recapture.withPatterns {})

/-- The match of the rule. -/
def recaptureMatch : Match :=
  ⟨⟨0, 1⟩, []⟩

/-- The text `a` in the scope of the grammar, with captures to come and some rules. -/
def recaptureText (patterns : Option RuleRef) (pending : List (CaptureTree CapturedScopes)) :
    CapturedText :=
  ⟨patterns, .ofRoot (.ofString "text"), pending, 0, 1⟩

/-- The capture of the rule. -/
def recaptureTree : CaptureTree CapturedScopes :=
  ⟨0, ⟨0, 1⟩, ⟨[], some ⟨0, 2⟩⟩, []⟩

/-- A state at the start of the line. -/
def recaptureState (frames : List Frame) (atTextStart : Bool) : LineState :=
  ⟨⟨0, .ofString "text", frames⟩, 0, none, atTextStart, .empty 1⟩

/-- The injection is tried in the grammar itself and in the capture, whatever is remembered. -/
theorem exists_orderedCandidates_recapture {memory : Memory}
    (hmemory : memory.Agrees recaptureContext) (s : Stack) {owner : RuleRef}
    (howner : owner = .root 0 ∨ owner = ⟨0, 2⟩) (hexit : ∀ last, exitCandidate s last = [])
    (hscopes : s.scopes = .ofRoot (.ofString "text")) :
    ∃ memory', memory'.Agrees recaptureContext ∧
      orderedCandidates recaptureContext s owner memory = .ok [.rule ⟨0, 1⟩] memory' := by
  obtain ⟨⟨_, hroot⟩, ⟨_, hcapture⟩, ⟨_, hentry⟩⟩ := Registry.freshCandidates_recapture
  have hchildren : ∃ log, recaptureContext.registry.freshCandidates recaptureContext.base owner
      .children = .ok ([], log) := by
    rcases howner with rfl | rfl
    · exact ⟨_, hroot⟩
    · exact ⟨_, hcapture⟩
  obtain ⟨log, hchildren⟩ := hchildren
  have hactive : activeInjections recaptureContext s.scopes = [(.default, ⟨0, 1⟩)] := by
    rw [hscopes]
    decide +kernel
  obtain ⟨m₁, h₁, -, heq₁⟩ := exists_candidates_eq hmemory hchildren
  obtain ⟨m₂, h₂, -, heq₂⟩ := exists_candidates_eq h₁ hentry
  have hentries : injectedCandidates recaptureContext [(.default, ⟨0, 1⟩)] m₁ =
      .ok [.rule ⟨0, 1⟩] m₂ := (bind_eq_of_eq_ok heq₂).trans rfl
  refine ⟨m₂, h₂, ?_⟩
  rw [orderedCandidates, hactive, hexit, hexit]
  exact (bind_eq_of_eq_ok heq₁).trans ((bind_eq_of_eq_ok hentries).trans rfl)

/-- The rule matches the text. -/
theorem search_recapture {bound : Nat} (hbound : bound = 1 ∨ bound = 2) (frames : List Frame)
    (atTextStart : Bool) :
    (Regex.ofPattern "a" "injections...match").search (LineText.ofLine "a").indexed ⟨0, bound⟩
      (recaptureState frames atTextStart).liveAnchors .literal = .ok (some recaptureMatch) := by
  have hfound : ∀ live : Bool, (Regex.ofPattern "a" "injections...match").search
      (LineText.ofLine "a").indexed ⟨0, bound⟩ ⟨live, false⟩ .literal =
        .ok (some recaptureMatch) := by
    rcases hbound with rfl | rfl <;> decide +kernel
  have hlive : (recaptureState frames atTextStart).liveAnchors = ⟨atTextStart, false⟩ := by
    cases atTextStart <;> rfl
  rw [hlive]
  exact hfound atTextStart

/-- It is found in the grammar itself and in the capture, whatever is remembered. -/
theorem exists_nextMatch_recapture {memory : Memory} (hmemory : memory.Agrees recaptureContext)
    {frames : List Frame} (atTextStart : Bool) {bound : Nat}
    (h : frames = [] ∧ bound = 2 ∨
      ∃ below, frames = .captured (recaptureText (some ⟨0, 2⟩) []) :: below ∧ bound = 1) :
    ∃ memory', memory'.Agrees recaptureContext ∧
      nextMatch recaptureContext (.ofLine "a") (recaptureState frames atTextStart) bound memory =
        .ok (some (recaptureMatch, .rule ⟨0, 1⟩)) memory' := by
  rcases h with ⟨rfl, rfl⟩ | ⟨below, rfl, rfl⟩
  · obtain ⟨memory', hmemory', hordered⟩ := exists_orderedCandidates_recapture hmemory
      (recaptureState [] atTextStart).stack (.inl rfl) (fun _ ↦ rfl) rfl
    exact ⟨memory', hmemory', nextMatch_of_singleton rfl rfl rfl hordered rfl
      (search_recapture (.inr rfl) _ _)⟩
  · obtain ⟨memory', hmemory', hordered⟩ := exists_orderedCandidates_recapture hmemory
      (recaptureState (.captured (recaptureText (some ⟨0, 2⟩) []) :: below) atTextStart).stack
      (.inr rfl) (fun _ ↦ rfl) rfl
    exact ⟨memory', hmemory', nextMatch_of_singleton rfl rfl rfl hordered rfl
      (search_recapture (.inl rfl) _ _)⟩

/-- The capture of the whole match, with the rules of a group. -/
def wholeCapture (group : RuleId) : CaptureTree CapturedScopes :=
  ⟨0, ⟨0, 1⟩, ⟨[], some ⟨0, group⟩⟩, []⟩

/-- A frame is opened for the match, with its capture ahead. -/
theorem enterCaptures_recapture (s : LineState) (group : RuleId) :
    enterCaptures (.ofLine "a") s recaptureMatch (.ofRoot (.ofString "text")) 0
        ⟨[(0, ⟨none, some group⟩)]⟩ =
      pure ({ s with stack := s.stack.push (.captured (recaptureText none [wholeCapture group])) },
        true) := by
  have hlabels : capturedScopes (.ofLine "a") recaptureMatch 0 [(0, ⟨none, some group⟩)] =
      pure [(0, ⟨[], some ⟨0, group⟩⟩)] := rfl
  have hforest : CaptureTree.forest recaptureMatch.clipped
      [(0, (⟨[], some ⟨0, group⟩⟩ : CapturedScopes))] = [wholeCapture group] := by
    simp [CaptureTree.forest, CaptureTree.items, CaptureTree.insert, CaptureTree.settle,
      Match.clipped, recaptureMatch, wholeCapture, Span.isEmpty]
  have hsome : (⟨[(0, ⟨none, some group⟩)]⟩ : Captures).isEmpty = false := rfl
  rw [enterCaptures, if_neg (by decide), hsome, if_neg Bool.false_ne_true, hlabels, pure_bind,
    hforest]
  rfl

/-- A rule that tokenizes its own capture opens such a frame, in any grammar. -/
theorem applySingle_recapture (ctx : Context) (htrace : ctx.trace = false) (group : RuleId)
    {frames : List Frame} {atTextStart : Bool}
    (hscopes : (recaptureState frames atTextStart).stack.scopes = .ofRoot (.ofString "text")) :
    applySingle ctx (.ofLine "a") (recaptureState frames atTextStart) ⟨0, 1⟩
        ⟨none, 0, ⟨[(0, ⟨none, some group⟩)]⟩⟩ recaptureMatch =
      pure (some (recaptureState (.captured (recaptureText none [wholeCapture group]) :: frames)
        false)) := by
  have hlog : ∀ e, Tokenizing.trace ctx ⟨0, 1⟩ e = pure () := by
    intro e
    rw [Tokenizing.trace, htrace, if_neg Bool.false_ne_true]
  have hname : resolve (.ofLine "a") recaptureMatch none = pure [] := rfl
  have hstop : ¬ recaptureMatch.stop ≤ (recaptureState frames atTextStart).position :=
    Nat.not_succ_le_zero 0
  rw [applySingle, if_neg hstop, hlog, pure_bind, hname, pure_bind, hscopes]
  dsimp only
  rw [ScopePath.append_nil, enterCaptures_recapture, pure_bind]
  cases atTextStart <;> rfl

/-- The rule that is injected opens such a frame. -/
theorem applyMatch_recapture {frames : List Frame} {atTextStart : Bool}
    (hscopes : (recaptureState frames atTextStart).stack.scopes = .ofRoot (.ofString "text")) :
    applyMatch recaptureContext (.ofLine "a") (recaptureState frames atTextStart) recaptureMatch
      (.rule ⟨0, 1⟩) =
        pure (some (recaptureState (.captured (recaptureText none [recaptureTree]) :: frames)
          false)) :=
  applySingle_recapture recaptureContext rfl 2 hscopes

/-- What a step leads to from the start of the line and from the capture. -/
theorem exists_step_recapture {memory : Memory} (hmemory : memory.Agrees recaptureContext)
    {frames : List Frame} (atTextStart : Bool)
    (h : frames = [] ∨ ∃ below, frames = .captured (recaptureText (some ⟨0, 2⟩) []) :: below) :
    ∃ memory', memory'.Agrees recaptureContext ∧
      step recaptureContext (.ofLine "a") none (recaptureState frames atTextStart) memory =
        .ok
          (.goOn (recaptureState (.captured (recaptureText none [recaptureTree]) :: frames) false))
          memory' := by
  obtain ⟨bound, hbound, hdrop, hscopes, hlimit⟩ : ∃ bound,
      (frames = [] ∧ bound = 2 ∨
        ∃ below, frames = .captured (recaptureText (some ⟨0, 2⟩) []) :: below ∧ bound = 1) ∧
      (recaptureState frames atTextStart).dropPassed = recaptureState frames atTextStart ∧
      (recaptureState frames atTextStart).stack.scopes = .ofRoot (.ofString "text") ∧
      (recaptureState frames atTextStart).limit (.ofLine "a") = bound := by
    rcases h with rfl | ⟨below, rfl⟩
    · exact ⟨2, .inl ⟨rfl, rfl⟩, rfl, rfl, rfl⟩
    · exact ⟨1, .inr ⟨below, rfl, rfl⟩, rfl, rfl, rfl⟩
  obtain ⟨memory', hmemory', hnext⟩ :=
    exists_nextMatch_recapture hmemory atTextStart hbound
  refine ⟨memory', hmemory', ?_⟩
  rw [step, hdrop]
  show (nextMatch _ _ (recaptureState frames atTextStart)
    ((recaptureState frames atTextStart).limit (.ofLine "a")) >>= _) memory = _
  rw [hlimit, bind_eq_of_eq_ok hnext]
  dsimp only
  have hextend : (recaptureState frames atTextStart).extendContent 0 =
      recaptureState frames atTextStart := rfl
  show (applyMatch _ _ ((recaptureState frames atTextStart).extendContent 0) _ _ >>= _) memory' = _
  rw [hextend, applyMatch_recapture hscopes]
  rfl

/-- The capture is opened again. -/
theorem step_recapture_captured (below : List Frame) (memory : Memory) :
    step recaptureContext (.ofLine "a") none
      (recaptureState (.captured (recaptureText none [recaptureTree]) :: below) false) memory =
        .ok (.goOn (recaptureState (.captured (recaptureText (some ⟨0, 2⟩) []) ::
          .captured (recaptureText none []) :: below) false)) memory :=
  rfl

end Session

end ScopeGrammar
