import ScopeGrammar.Proofs.Tokenizer.Enlarged

/-!
# Sessions that an unrelated grammar does not disturb

A session goes on in a larger registry like in the smaller one, line by line
(`answer_withRegistry`): what it is tokenized with is seen from there as before, and what a line
hands over is once more a stack of rules of the smaller registry. So adding an unrelated grammar
changes nothing for the documents of another one (`alone_add_isUnrelated`).
-/

namespace ScopeGrammar

open Tokenizing

theorem Registry.Sees.withPatterns {r r' : Registry} {base : GrammarId} (h : r.Sees r' base)
    (patterns patterns' : PatternCache) :
    (r.withPatterns patterns).Sees (r'.withPatterns patterns') base where
  grammar_eq := h.grammar_eq
  fresh_eq ref href kind := by
    rw [freshCandidates_withPatterns, freshCandidates_withPatterns]
    exact h.fresh_eq ref href kind
  leads := h.leads

/-- Registries in use record their grammars. -/
theorem Registry.Arises.exists_records {r : Registry} (hr : r.Arises) : ∃ gs, r.Records gs := by
  induction hr with
  | empty => exact ⟨[], records_empty⟩
  | @add _ _ g _ _ hadd ih =>
    obtain ⟨gs, hgs⟩ := ih
    exact ⟨gs ++ [g], hgs.add hadd⟩
  | injection _ scopeName ih =>
    obtain ⟨gs, hgs⟩ := ih
    exact ⟨gs, hgs.addInjectionScope scopeName⟩
  | line _ _ line fuel ih =>
    obtain ⟨gs, hgs⟩ := ih
    rw [Session.tokenizeLine]
    split
    · exact ⟨gs, hgs⟩
    · exact ⟨gs, hgs.grammars, hgs.byScopeName, hgs.byName⟩

namespace Stack.IsOf

variable {ctx : Context} {s : Stack}

theorem forNextLine (h : s.IsOf ctx) : s.forNextLine.IsOf ctx := by
  refine ⟨h.base_eq, fun f hmem ↦ ?_⟩
  obtain ⟨f', hmem', rfl⟩ := List.mem_map.1 hmem
  have hf' := h.frames f' hmem'
  cases f' with
  | region r => exact hf'
  | captured c => exact hf'

theorem withoutBounded (h : s.IsOf ctx) : s.withoutBounded.IsOf ctx :=
  ⟨h.base_eq, fun f hmem ↦ h.frames f (List.mem_filter.1 hmem).1⟩

/-- What a line hands over are rules of the registry. -/
theorem stackAfter {report : ScanReport} (h : report.state.stack.IsOf ctx) :
    (Session.stackAfter report).IsOf ctx := by
  rw [Session.stackAfter]
  split
  · exact h.withoutBounded.forNextLine
  · exact h.forNextLine

end Stack.IsOf

/-- What tokenizing a line comes to, but for another registry with the same filled-in patterns. -/
def LineReport.withRegistry (report : LineReport) (r : Registry) : LineReport :=
  { report with registry := r.withPatterns report.registry.patterns }

namespace Session

variable {r r' : Registry} {base : GrammarId} {s s' : Session} {patterns patterns' : PatternCache}

/-- A session of documents of a grammar, with rules of the registry only. -/
structure IsOf (r : Registry) (base : GrammarId) (s : Session) : Prop where
  base_eq : s.base = base
  base_lt : base < r.grammars.size
  injections : ∀ i ∈ s.injections, i.1 < r.grammars.size
  stack : s.stack.IsOf (s.context r)

/-! ### Lines -/

/-- **A line of a session comes to the same in a registry that sees the same.** -/
theorem tokenizeLine_withRegistry (hsees : r.Sees r' base) (hs : s.IsOf r base)
    (hagrees : r.Agrees s.base s.candidates) (line : String) (fuel : Nat) :
    s.tokenizeLine (r'.withPatterns patterns) line fuel =
        (s.tokenizeLine (r.withPatterns patterns) line fuel).withRegistry r' ∧
      (s.tokenizeLine (r.withPatterns patterns) line fuel).session.IsOf r base := by
  obtain ⟨rfl, hbase, hinjections, hstack⟩ := hs
  have hseen : (s.context (r.withPatterns patterns)).IsSeenBy (r'.withPatterns patterns) :=
    ⟨hsees.withPatterns patterns patterns, hbase, hinjections⟩
  have hstart : (LineState.start s.stack s.firstLine (.ofLine line)).stack.IsOf
      (s.context (r.withPatterns patterns)) := ⟨hstack.base_eq, hstack.frames⟩
  have hscan : s.scanNext (r'.withPatterns patterns) (.ofLine line) fuel =
      s.scanNext (r.withPatterns patterns) (.ofLine line) fuel :=
    scanLine_withRegistry hseen fuel hstart (memory_agrees hagrees patterns)
  have hleft : (stackAfter (s.scanNext (r.withPatterns patterns) (.ofLine line) fuel)).IsOf
      (s.context (r.withPatterns patterns)) :=
    (scanNext_state (isOf_invariant _ _) hstart fuel).stackAfter
  rw [tokenizeLine, tokenizeLine, hscan]
  split
  · exact ⟨rfl, rfl, hbase, hinjections, hstack⟩
  · exact ⟨rfl, rfl, hbase, hinjections, ⟨hleft.base_eq, hleft.frames⟩⟩

/-- So does any call. -/
theorem answer_withRegistry (hsees : r.Sees r' base) (hs : s.IsOf r base)
    (hagrees : r.Agrees s.base s.candidates) (patterns : PatternCache) (c : Call) :
    s.answer (r'.withPatterns patterns) c =
        (s.answer (r.withPatterns patterns) c).withRegistry r' ∧
      (s.answer (r.withPatterns patterns) c).session.IsOf r base := by
  rw [answer, answer]
  cases c.line with
  | some line => exact tokenizeLine_withRegistry hsees hs hagrees line c.fuel
  | none =>
    dsimp only
    rw [tokenizeNext, tokenizeNext]
    split
    · exact ⟨rfl, hs⟩
    · have hnext : IsOf r base { s with nextLine := s.nextLine + 1 } :=
        ⟨hs.base_eq, hs.base_lt, hs.injections, hs.stack⟩
      exact tokenizeLine_withRegistry hsees hnext hagrees _ _

/-- **A session comes to the same in a registry that sees the same**, line after line. -/
theorem alone_withRegistry (hsees : r.Sees r' base) (hs : s.IsOf r base)
    (hagrees : r.Agrees s.base s.candidates) (hp : patterns.IsFaithful) (calls : List Call) :
    alone (r'.withPatterns patterns) s calls =
      (alone (r.withPatterns patterns) s calls).map (·.withRegistry r') := by
  induction calls generalizing s patterns with
  | nil => rfl
  | cons c calls ih =>
    obtain ⟨hanswer, hs'⟩ := answer_withRegistry hsees hs hagrees patterns c
    -- the patterns that the call fills in are faithful, and the same in both registries
    obtain ⟨-, hsessions, ⟨p, hp', hregistry⟩, -⟩ := answer_alike (.refl hagrees) hp hp c
    have hnext := ih hs' hsessions.candidates hp'
    rw [alone, alone, List.map_cons, hanswer, hregistry, ← hnext]
    congr 1
    show alone (r'.withPatterns _) _ calls = _
    rw [hregistry]
    rfl

/-- A session does not show what patterns other sessions have filled in. -/
theorem alone_alike (h : s.Alike r s') (hp : patterns.IsFaithful) (hp' : patterns'.IsFaithful)
    (calls : List Call) :
    List.Forall₂ LineReport.Alike (alone (r.withPatterns patterns) s calls)
      (alone (r.withPatterns patterns') s' calls) := by
  induction calls generalizing s s' patterns patterns' with
  | nil => exact .nil
  | cons c calls ih =>
    obtain ⟨halike, hsessions, ⟨p, hp₁, hregistry⟩, ⟨p', hp₁', hregistry'⟩⟩ :=
      answer_alike h hp hp' c
    rw [alone, alone, hregistry, hregistry']
    exact .cons halike (ih hsessions hp₁ hp₁')

/-! ### Adding a grammar -/

/-- A session at the start of a document has rules of the registry only. -/
theorem isOf_of_ofLines {gs : List Grammar} (hr : r.Records gs) {lines : List String} {E : Engine}
    (h : ofLines r base lines E = .ok s) : s.IsOf r base := by
  obtain ⟨g, injections, hg, hinjections, rfl⟩ := exists_of_ofLines h
  have hlt : ∀ {id : GrammarId} {g : Grammar}, gs[id]? = some g → id < r.grammars.size :=
    fun hg ↦ hr.length_eq ▸ (List.getElem?_eq_some_iff.1 hg).1
  have hbase : base < r.grammars.size := hlt (hr.grammar_eq_ok_iff.1 hg)
  refine ⟨rfl, hbase, fun q hq ↦ ?_, rfl, fun f hmem ↦ by cases hmem⟩
  rcases hr.of_mem_injectionsFor hinjections hq with ⟨hbase', -⟩ | ⟨-, g', hg', -⟩
  · rw [hbase']
    exact hbase
  · exact hlt hg'

/-- **An unrelated grammar disturbs nothing.** A document of a grammar is tokenized with the
registry to which an unrelated one was added as it was before, by sessions that start in the same
state: the same calls come to the same tokens, the same failures and the same stacks, and to the
same in all else but the grammars of the registry. If sessions have filled in other patterns
meanwhile, the locations of refused patterns may differ, but nothing else. -/
theorem alone_add_isUnrelated {g h : Grammar} {id : GrammarId} (hr : r.Arises)
    (hg : r.grammar base = .ok g) (hunrelated : r.IsUnrelated g h) (hadd : r.add h = .ok (id, r'))
    (lines : List String) (E : Engine) :
    ∃ s, ofLines r base lines E = .ok s ∧ ofLines r' base lines E = .ok s ∧
      ∀ (trace : Bool) (calls : List Call),
        alone r' { s with trace := trace } calls =
          (alone r { s with trace := trace } calls).map (·.withRegistry r') ∧
        ∀ patterns : PatternCache, patterns.IsFaithful →
          List.Forall₂ LineReport.Alike (alone r { s with trace := trace } calls)
            (alone (r'.withPatterns patterns) { s with trace := trace } calls) := by
  obtain ⟨gs, hgs⟩ := hr.exists_records
  have hbase : base < r.grammars.size :=
    (Array.getElem?_eq_some_iff.1 (Registry.grammar_eq_ok_iff.1 hg)).1
  have hsees : r.Sees r' base := Registry.sees_add hadd hgs hunrelated.unincluded hbase
  have hinjections : r'.injectionsFor base = r.injectionsFor base :=
    Registry.injectionsFor_add hadd hgs hg hunrelated
  have hsame : ofLines r' base lines E = ofLines r base lines E := by
    rw [ofLines, ofLines, hinjections, hsees.grammar_eq base hbase]
  have hpatterns : r'.withPatterns r.patterns = r' := by
    obtain ⟨-, -, rfl⟩ := Registry.add_eq_ok_iff.1 hadd
    rfl
  obtain ⟨s, hs⟩ : ∃ s, ofLines r base lines E = .ok s := by
    rw [ofLines, Registry.injectionsFor, hg]
    exact ⟨_, rfl⟩
  refine ⟨s, hs, hsame.trans hs, fun trace calls ↦ ?_⟩
  have hstart : Starts r { s with trace := trace } := ⟨base, lines, E, s, trace, hs, rfl⟩
  obtain ⟨hof, hbaseLt, hinjected, hstack⟩ := isOf_of_ofLines hgs hs
  have hof : IsOf r base { s with trace := trace } :=
    ⟨hof, hbaseLt, hinjected, hstack.base_eq, hstack.frames⟩
  have hexact : ∀ patterns : PatternCache, patterns.IsFaithful →
      alone (r'.withPatterns patterns) { s with trace := trace } calls =
        (alone (r.withPatterns patterns) { s with trace := trace } calls).map
          (·.withRegistry r') := fun patterns hp ↦
    alone_withRegistry hsees hof hstart.agrees hp calls
  refine ⟨?_, fun patterns hp ↦ ?_⟩
  · have hown := hexact r.patterns hr.isFaithful
    rwa [hpatterns] at hown
  · rw [hexact patterns hp, List.forall₂_map_right_iff]
    have halike := alone_alike (.refl hstart.agrees) hr.isFaithful hp calls
    exact halike.imp fun _ _ h ↦ ⟨h.result, h.stack, h.described, h.lost⟩

end Session

/-! ### A grammar beside another -/

/-- A grammar that includes the one of parentheses and is injected elsewhere. -/
def Grammar.beside : Grammar where
  name := "Beside"
  scopeName := "beside"
  scope := .ofString "beside"
  rules :=
    #[⟨0, none, false, .group ⟨[1], []⟩⟩,
      ⟨1, some 0, false, .includes (.grammar "text" none)⟩]
  regexes := #[]
  injections := []
  exported := some ⟨.everywhere, 0⟩
  injectTo := ["elsewhere"]

theorem Registry.isUnrelated_beside : parens.IsUnrelated .parens .beside where
  unregistered := by
    rw [idByScopeName?, parens, Std.HashMap.getElem?_insert, if_neg (by decide)]
    exact Std.HashMap.getElem?_empty
  unincluded := by
    intro ref rule hrule entry
    obtain ⟨g, hg, hrule⟩ := rule_eq_ok_iff.1 hrule
    obtain rfl : g = .parens := by simpa [parens] using Array.mem_of_getElem? hg
    rcases (by simpa [Grammar.parens] using Array.mem_of_getElem? hrule) with rfl | rfl
    · simp
    · simp
  inactive := .inr (by decide)

namespace Session

/-- A line of parentheses is not disturbed. -/
theorem alone_add_beside : Registry.parens.Arises ∧ Registry.parens.IsUnrelated .parens .beside ∧
    ∃ r', Registry.parens.add .beside = .ok (1, r') ∧
      (alone r' (parens .literal) [⟨0, some "a(", 2⟩]).map (·.result) =
        [.ok [⟨⟨0, 1⟩, .ofRoot (.ofString "text")⟩, ⟨⟨1, 2⟩, .ofRoot (.ofString "text")⟩]] := by
  have hr : Registry.parens.Arises := .add .empty Registry.add_parens
  obtain ⟨r', hadd⟩ : ∃ r', Registry.parens.add .beside = .ok (1, r') := ⟨_, rfl⟩
  refine ⟨hr, Registry.isUnrelated_beside, r', hadd, ?_⟩
  have hg : Registry.parens.grammar 0 = .ok .parens := rfl
  obtain ⟨s, hs, -, halone⟩ :=
    alone_add_isUnrelated hr hg Registry.isUnrelated_beside hadd [] .literal
  obtain rfl : parens .literal = s := Except.ok.inj hs
  have hsame : alone r' (parens .literal) [⟨0, some "a(", 2⟩] = _ :=
    (halone false [⟨0, some "a(", 2⟩]).1
  have hline : (alone .parens (parens .literal) [⟨0, some "a(", 2⟩]).map (·.result) =
      [.ok [⟨⟨0, 1⟩, .ofRoot (.ofString "text")⟩, ⟨⟨1, 2⟩, .ofRoot (.ofString "text")⟩]] :=
    congrArg ([·]) tokenizeLine_parens
  rw [hsame, List.map_map]
  exact hline

end Session

end ScopeGrammar
