import ScopeGrammar.Proofs.Grammar.Lexical
import ScopeGrammar.Proofs.Tokenizer.Faults

/-!
# Patterns that are refused late

A pattern has to compile when its grammar is loaded, so that a broken one is found then and not in
the middle of a document. What is compiled then has both anchors live. While a line is tokenized the
anchors that cannot match are masked, and the masked pattern is another text, which may be refused
although the pattern was not: a range in a class that begins with `\G` begins with the character of
the mask, which is above all others.

That is all that can go wrong (`Session.tokenizeLine_refusesMasked`). Without references to
captures, which make patterns that no grammar has, every pattern that is searched is one of a loaded
grammar, and masking it must have changed it for the engine to refuse it.
-/

namespace ScopeGrammar

open Tokenizing

/-! ### Patterns that have compiled -/

/-- All patterns that rules of the grammar are searched with have compiled, but for those to be
filled in. -/
structure Grammar.IsValid (E : Engine) (g : Grammar) : Prop where
  entry : ∀ (id : RuleId) (rule : Rule) (i : RegexId), g.rules[id]? = some rule →
    rule.entry? = some i → ∃ regex, g.regexes[i]? = some regex ∧ regex.validate E = .ok ()
  exit : ∀ (id : RuleId) (rule : Rule) (region : RegionRule), g.rules[id]? = some rule →
    rule.body = .region region → ∃ regex, g.regexes[region.exit]? = some regex ∧
      region.exitHasReferences = regex.hasReferences ∧
      (regex.hasReferences = false → regex.validate E = .ok ())

/-- **The patterns of a compiled grammar have compiled.** -/
theorem Grammar.compile_isValid {d : GrammarDefinition} {E : Engine} {g : Grammar}
    (h : (compile d E).result = .ok g) : g.IsValid E := by
  -- every rule was compiled from some definition in the grammar
  have hbody : ∀ (id : RuleId) (rule : Rule), g.rules[id]? = some rule →
      ∃ location r hi,
        CompiledBody E g.rules g.regexes id location r (id + 1) hi rule.body := by
    intro id rule hrule
    obtain ⟨s, outer, rfl, hline⟩ :=
      (compile_isLexical h).written id (Array.getElem?_eq_some_iff.1 hrule).1
    obtain ⟨hi, ⟨hrule', hbody⟩⟩ := hline.compiles
    obtain rfl := Option.some.inj (hrule.symm.trans hrule')
    exact ⟨_, _, _, hbody⟩
  refine ⟨fun id rule i hrule hi ↦ ?_, fun id rule region hrule hregion ↦ ?_⟩
  · obtain ⟨location, r, hi', hcompiled⟩ := hbody id rule hrule
    rw [Rule.entry?] at hi
    cases hcompiled' : rule.body with
    | includes target =>
      rw [hcompiled'] at hi
      cases hi
    | group group =>
      rw [hcompiled'] at hi
      cases hi
    | single single =>
      rw [hcompiled'] at hi hcompiled
      cases hi
      obtain _ | ⟨_, _, hregex, hvalid, _⟩ := hcompiled
      exact ⟨_, hregex, hvalid⟩
    | region region =>
      rw [hcompiled'] at hi hcompiled
      cases hi
      cases hcompiled with
      | region _ _ _ _ hbegin hvalid => exact ⟨_, hbegin, hvalid⟩
  · obtain ⟨location, r, hi', hcompiled⟩ := hbody id rule hrule
    rw [hregion] at hcompiled
    cases hcompiled with
    | region _ _ _ _ _ _ _ hexit hexitValid =>
      refine ⟨_, hexit, rfl, fun hreferences ↦ ?_⟩
      rw [hreferences] at hexitValid
      exact hexitValid

namespace Registry

variable {E : Engine} {r : Registry}

theorem Loaded.isValid (h : r.Loaded E) {id : GrammarId} {g : Grammar}
    (hg : r.grammars[id]? = some g) : g.IsValid E := by
  induction h generalizing id g with
  | empty => simp at hg
  | add hr hcompile h ih =>
    rw [Registry.add] at h
    split at h
    · obtain ⟨rfl, rfl⟩ := Prod.mk.inj (Except.ok.inj h)
      rw [Array.getElem?_push] at hg
      split at hg
      · rw [← Option.some.inj hg]
        exact Grammar.compile_isValid hcompile
      · exact ih hg
    · contradiction
  | injection hr scopeName ih =>
    rw [addInjectionScope] at hg
    split at hg
    · exact ih hg
    · exact ih hg
  | filled hr patterns ih => exact ih hg

/-- No end or while pattern refers to captures of the begin pattern. -/
def HasNoReferences (r : Registry) : Prop :=
  ∀ (id : GrammarId) (g : Grammar), r.grammars[id]? = some g →
    ∀ (i : RuleId) (rule : Rule) (region : RegionRule), g.rules[i]? = some rule →
      rule.body = .region region → ∀ regex, g.regexes[region.exit]? = some regex →
        regex.hasReferences = false

/-- The pattern is one of a grammar and has compiled as it stands. -/
def HasValid (E : Engine) (r : Registry) (regex : Regex) : Prop :=
  ∃ (id : GrammarId) (g : Grammar), r.grammars[id]? = some g ∧ regex ∈ g.regexes ∧
    regex.validate E = .ok ()

/-- **The error is that of a pattern that compiles as it stands, but not with the anchors masked
that are not live.** -/
def RefusesMasked (E : Engine) (r : Registry) (e : GrammarError) : Prop :=
  ∃ (regex : Regex) (live : LiveAnchors) (cause : PatternError), r.HasValid E regex ∧
    live.mask regex.pattern.toList ≠ regex.pattern.toList ∧
    compileWith E.compile (live.mask regex.pattern.toList) = .error cause ∧
    e = .regex (regex.error cause)

end Registry

/-! ### Searches -/

/-- A pattern that compiles as it stands also does when masking does not change it. -/
theorem Regex.mask_ne_of_refused {E : Engine} {regex : Regex} {live : LiveAnchors}
    {e : RegexError} (hvalid : regex.validate E = .ok ()) (h : regex.compiled live E = .error e) :
    live.mask regex.pattern.toList ≠ regex.pattern.toList ∧
      ∃ cause, compileWith E.compile (live.mask regex.pattern.toList) = .error cause ∧
        e = regex.error cause := by
  rw [compiled, E.compiled_eq] at h
  rw [validate, compiled, E.compiled_eq, LiveAnchors.mask_both] at hvalid
  cases hmasked : compileWith E.compile (live.mask regex.pattern.toList) with
  | ok matcher =>
    rw [hmasked] at h
    cases h
  | error cause =>
    rw [hmasked] at h
    refine ⟨fun hsame ↦ ?_, cause, rfl, (Except.error.inj h).symm⟩
    rw [← hsame, hmasked] at hvalid
    cases hvalid

/-- The failures that a registry of grammars that have compiled leaves possible. -/
def Failure.IsOfMasking (E : Engine) (r : Registry) (e : Failure) : Prop :=
  ∀ cause, e = .error cause → r.RefusesMasked E cause

namespace Tokenizing

variable {ctx : Context} {line : LineText}

theorem confined_search_of_hasValid {regex : Regex}
    (hvalid : ctx.registry.HasValid ctx.engine regex) (range : Span) (live : LiveAnchors) :
    Confined (Failure.IsOfMasking ctx.engine ctx.registry) (fun _ ↦ True)
      (search ctx line regex range live) := by
  rw [search]
  split
  · exact confined_pure _
  · rename_i e hrefused
    refine confined_throw fun e' he ↦ ?_
    obtain rfl := Failure.error.inj he
    -- a search refuses nothing but what does not compile
    have hcompiled : regex.compiled live ctx.engine = .error e := by
      rw [Regex.search] at hrefused
      cases hcompiled : regex.compiled live ctx.engine with
      | error e' =>
        rw [hcompiled] at hrefused
        rw [Regex.SearchFailure.refused.inj (Except.error.inj hrefused)]
      | ok matcher =>
        rw [hcompiled] at hrefused
        dsimp only at hrefused
        split at hrefused
        · split at hrefused
          · split at hrefused <;> cases hrefused
          · cases hrefused
        · cases hrefused
    obtain ⟨id, g, hg, hmem, hvalid⟩ := hvalid
    obtain ⟨hne, cause, hcause, rfl⟩ := Regex.mask_ne_of_refused hvalid hcompiled
    exact ⟨regex, live, cause, ⟨id, g, hg, hmem, hvalid⟩, hne, hcause, rfl⟩
  · exact confined_throw fun cause hcause ↦ by cases hcause
  · exact confined_throw fun cause hcause ↦ by cases hcause

section

variable (hvalid : ∀ (id : GrammarId) (g : Grammar), ctx.registry.grammars[id]? = some g →
  g.IsValid ctx.engine) (hreferences : ctx.registry.HasNoReferences)

include hvalid hreferences

/-- The exit pattern of an open region is one of a grammar. -/
theorem hasValid_of_exit {s : Stack} {region : Region} (hfits : region.FitsOn ctx.registry s)
    {regex : Regex} (h : region.exit.regex ctx.registry = .ok regex) :
    ctx.registry.HasValid ctx.engine regex := by
  obtain ⟨rule, body, hrule, hbody, -, hexit⟩ := hfits.ruled
  obtain ⟨g, hg, hrule⟩ := Registry.rule_eq_ok_iff.1 hrule
  obtain ⟨regex', hregex', hflag, hvalid'⟩ := (hvalid _ g hg).exit _ rule body hrule hbody
  have hnone := hreferences _ g hg _ rule body hrule hbody regex' hregex'
  cases hcase : region.exit with
  | filled filled =>
    rw [hcase] at hexit
    have htrue : body.exitHasReferences = true := hexit
    rw [hflag, hnone] at htrue
    cases htrue
  | fixed grammar i =>
    rw [hcase] at hexit h
    obtain ⟨rfl, rfl⟩ := hexit
    rw [ExitPattern.regex, Registry.grammar_eq_ok_iff.2 hg] at h
    have hregex : g.regexes[body.exit]? = some regex := Grammar.regex_eq_ok_iff.1 h
    obtain rfl := Option.some.inj (hregex.symm.trans hregex')
    exact ⟨_, g, hg, Array.mem_of_getElem? hregex, hvalid' hnone⟩

/-- Whatever is searched in a line is a pattern of a grammar. -/
theorem searchInvariant_of_isValid :
    SearchInvariant (Failure.IsOfMasking ctx.engine ctx.registry) (fun _ ↦ True) ctx line
      fun s ↦ s.stack.Layered fun s f ↦ f.FitsOn ctx.registry s where
  states := (fitsOn_invariant ctx line).lineInvariant
  searches := by
    intro s hs c regex hregex bound
    refine confined_search_of_hasValid ?_ _ _
    cases c with
    | exit =>
      obtain ⟨region, below, hf, hexit⟩ := exists_region_of_candidateRegex hregex
      exact hasValid_of_exit hvalid hreferences ((Stack.layered_iff_of_cons hf).1 hs).1 hexit
    | rule ref =>
      obtain ⟨g, rule, i, hg, hrule, hi, hentry⟩ := exists_entry_of_candidateRegex hregex
      have hg := Registry.grammar_eq_ok_iff.1 hg
      obtain ⟨regex', hregex', hvalid'⟩ :=
        (hvalid _ g hg).entry _ rule i (Grammar.rule_eq_ok_iff.1 hrule) hi
      have hentry := Grammar.regex_eq_ok_iff.1 hentry
      obtain rfl := Option.some.inj (hentry.symm.trans hregex')
      exact ⟨_, g, hg, Array.mem_of_getElem? hentry, hvalid'⟩
  whileSearches hs hframes hregex :=
    confined_search_of_hasValid (hasValid_of_exit hvalid hreferences (hs _ _ hframes) hregex) _ _

end

end Tokenizing

namespace Session

variable {E : Engine} {r : Registry} {base : GrammarId} {s : Session}

/-- **Tokenizing a line ends in an error only if masking spoils a pattern that was accepted.** -/
theorem tokenizeLine_refusesMasked (hr : r.Loaded E) (hreferences : r.HasNoReferences)
    (hs : Reachable E r base s) (patterns : PatternCache) (line : String) (fuel : Nat)
    {e : GrammarError}
    (h : (s.tokenizeLine (r.withPatterns patterns) line fuel).result = .error (.error e)) :
    r.RefusesMasked E e := by
  have hfailure := (tokenizeLine_eq_error_iff hs.lost_eq).1 h
  have hengine := hs.engine_context (r.withPatterns patterns)
  have hinvariant := @searchInvariant_of_isValid (s.context (r.withPatterns patterns))
    (.ofLine line) (fun id g hg ↦ hengine.symm ▸ hr.isValid hg) hreferences
  have hfits := (hs.isSound_start patterns (.ofLine line)).fits
  have hmasked := (hinvariant.scanLine_confined
    ⟨nofun, memoryInvariant_true _⟩ nofun fuel hfits True.intro).2 _ hfailure
  have hrefuses := hmasked e rfl
  rw [hengine] at hrefuses
  exact hrefuses

end Session

/-! ### A range that begins with an anchor -/

/-- A grammar whose pattern is a class with a range from `\G` on, which stands for the letter. -/
def GrammarDefinition.anchorRange : GrammarDefinition where
  scopeName := "text"
  patterns := [{ matchPattern := some "[\\G-Z]" }]

/-- That pattern. -/
def Regex.anchorRange : Regex :=
  .ofPattern "[\\G-Z]" "patterns[0].match"

/-- The grammar, compiled. -/
def Grammar.anchorRange : Grammar where
  name := ""
  scopeName := "text"
  scope := .ofString "text"
  rules :=
    #[⟨0, none, false, .group ⟨[1], []⟩⟩, ⟨1, some 0, false, .single ⟨none, 0, {}⟩⟩]
  regexes := #[.anchorRange]
  injections := []
  exported := none
  injectTo := []

/-- The pattern compiles as it stands. -/
theorem Regex.validate_anchorRange : anchorRange.validate .machine = .ok () := by
  decide +kernel

theorem Grammar.compile_anchorRange : (compile .anchorRange).result = .ok .anchorRange := by
  have hregex : ∀ rules, Loading.addRegex .machine "[\\G-Z]" (joinLocation "patterns[0]" "match")
      ⟨rules, #[], #[]⟩ = .ok 0 ⟨rules, #[.anchorRange], #[]⟩ := by
    intro rules
    have hvalid :
        (Regex.ofPattern "[\\G-Z]" (joinLocation "patterns[0]" "match")).validate .machine =
          .ok () := Regex.validate_anchorRange
    rw [Loading.addRegex]
    simp only [hvalid]
    rfl
  have hrule : Loading.addRule .machine (some 0) "patterns[0]"
      { matchPattern := some "[\\G-Z]" } ⟨#[⟨0, none, false, .group ⟨[], []⟩⟩], #[], #[]⟩ =
      .ok 1 ⟨#[⟨0, none, false, .group ⟨[], []⟩⟩, ⟨1, some 0, false, .single ⟨none, 0, {}⟩⟩],
        #[.anchorRange], #[]⟩ := by
    rw [Loading.addRule]
    exact (Loading.bind_eq_of_eq_ok rfl).trans ((Loading.bind_eq_of_eq_ok (hregex _)).trans rfl)
  have hgroup : Loading.addGroup none false "" (Loading.addRepository .machine · "" [])
      (Loading.addPatterns .machine · "" 0 [{ matchPattern := some "[\\G-Z]" }]) {} =
      .ok 0 ⟨Grammar.anchorRange.rules, #[.anchorRange], #[]⟩ := by
    rw [Loading.addGroup, Loading.bind_eq_of_eq_ok (rfl : Loading.reserve _ _ _ _ = .ok _ _),
      Loading.bind_eq_of_eq_ok (rfl : Loading.addRepository .machine _ _ [] _ = .ok _ _)]
    show ((Loading.addRule .machine (some 0) "patterns[0]" _ >>= _) >>= _) _ = _
    rw [bind_assoc]
    exact (Loading.bind_eq_of_eq_ok hrule).trans rfl
  have hroot : Loading.addRoot .machine .anchorRange {} =
      .ok () ⟨Grammar.anchorRange.rules, #[.anchorRange], #[]⟩ :=
    (Loading.bind_eq_of_eq_ok hgroup).trans rfl
  have hgrammar : (Loading.addGrammar .machine .anchorRange).run {} =
      .ok ([], none) ⟨Grammar.anchorRange.rules, #[.anchorRange], #[]⟩ :=
    (Loading.bind_eq_of_eq_ok hroot).trans rfl
  rw [compile, hgrammar]
  rfl

namespace Registry

/-- The registry of that grammar. -/
def anchorRange : Registry where
  grammars := #[.anchorRange]
  byScopeName := Std.HashMap.insert {} "text" 0

theorem add_anchorRange : add {} .anchorRange = .ok (0, anchorRange) :=
  rfl

theorem anchorRange_loaded : anchorRange.Loaded .machine :=
  .add .empty Grammar.compile_anchorRange add_anchorRange

theorem anchorRange_hasNoReferences : anchorRange.HasNoReferences := by
  intro id g hg i rule region hrule hregion
  obtain rfl : g = .anchorRange := by simpa [anchorRange] using Array.mem_of_getElem? hg
  rcases (by simpa [Grammar.anchorRange] using Array.mem_of_getElem? hrule) with rfl | rfl
  · cases hregion
  · cases hregion

theorem childCandidates_anchorRange :
    anchorRange.childCandidates 0 (.root 0) = .ok ([⟨0, 1⟩], #[]) :=
  candidatesFrom_of_matching (r := anchorRange) (by decide) rfl

end Registry

namespace Session

/-- The session at the start of a document. -/
def anchorRange : Session where
  base := 0
  injections := []
  stack := .ofGrammar 0 (.ofString "text")
  lines := #[]

theorem anchorRange_reachable : Reachable .machine .anchorRange 0 anchorRange :=
  .start [] rfl

/-- What it is tokenized with. -/
def anchorRangeContext : Context :=
  anchorRange.context (Registry.anchorRange.withPatterns {})

/-- The state at the start of the line. -/
def anchorRangeStart : LineState :=
  .start (.ofGrammar 0 (.ofString "text")) true (.ofLine "H")

/-- The range is refused at the first search of the line, where `\G` cannot match. -/
theorem tokenizeLine_anchorRange :
    (anchorRange.tokenizeLine (Registry.anchorRange.withPatterns {}) "H" 1).result =
      .error (.error (.regex (Regex.anchorRange.error .backwardRange))) := by
  have hordered : orderedCandidates anchorRangeContext anchorRange.stack (.root 0) {} =
      .ok [.rule ⟨0, 1⟩] { candidates := rootCandidates } :=
    (bind_eq_of_eq_ok
      (candidates_of_new Std.HashMap.getElem?_empty Registry.childCandidates_anchorRange)).trans rfl
  have hrefused : Regex.anchorRange.search (LineText.ofLine "H").indexed ⟨0, 2⟩ ⟨true, false⟩ =
      .error (.refused (Regex.anchorRange.error .backwardRange)) := by
    decide +kernel
  have hsearch : search anchorRangeContext (.ofLine "H") .anchorRange
      ⟨anchorRangeStart.position, 2⟩ anchorRangeStart.liveAnchors =
      throw (.error (.regex (Regex.anchorRange.error .backwardRange))) :=
    search_of_refused hrefused
  have hbest : bestOf anchorRangeContext (.ofLine "H") anchorRangeStart 2 none [.rule ⟨0, 1⟩] =
      throw (.error (.regex (Regex.anchorRange.error .backwardRange))) := by
    have hregex : candidateRegex anchorRangeContext anchorRangeStart.stack (.rule ⟨0, 1⟩) =
        pure (some .anchorRange) :=
      rfl
    rw [bestOf, hregex, pure_bind]
    dsimp only
    rw [hsearch]
    rfl
  have hstep : step anchorRangeContext (.ofLine "H") none anchorRangeStart {} =
      .error (.error (.regex (Regex.anchorRange.error .backwardRange)))
        { candidates := rootCandidates } := by
    show (((orderedCandidates anchorRangeContext anchorRange.stack (.root 0) >>=
      fun cs ↦ bestOf anchorRangeContext (.ofLine "H") anchorRangeStart 2 none cs) >>= _) >>= _)
      {} = _
    rw [bind_assoc, bind_assoc, bind_eq_of_eq_ok hordered, hbest]
    rfl
  rw [tokenizeLine_eq_error_iff rfl]
  show (checkEnded
    (runScan anchorRangeContext (.ofLine "H") none (0 + 1) anchorRangeStart {})).failure = _
  rw [runScan, hstep]
  rfl

/-- **A pattern that was accepted can be refused later**: the grammar is loaded, and the first line
fails. -/
theorem tokenizeLine_refuses_anchorRange :
    Registry.anchorRange.Loaded .machine ∧ Registry.anchorRange.HasNoReferences ∧
      Reachable .machine .anchorRange 0 anchorRange ∧
      (anchorRange.tokenizeLine (Registry.anchorRange.withPatterns {}) "H" 1).result =
        .error (.error (.regex (Regex.anchorRange.error .backwardRange))) :=
  ⟨Registry.anchorRange_loaded, Registry.anchorRange_hasNoReferences, anchorRange_reachable,
    tokenizeLine_anchorRange⟩

/-- The mask is what the engine refuses there. -/
theorem refusesMasked_anchorRange :
    Registry.anchorRange.RefusesMasked .machine
      (.regex (Regex.anchorRange.error .backwardRange)) :=
  tokenizeLine_refusesMasked Registry.anchorRange_loaded Registry.anchorRange_hasNoReferences
    anchorRange_reachable {} "H" 1 tokenizeLine_anchorRange

end Session

end ScopeGrammar
