import Mathlib.Data.List.Forall2
import ScopeGrammar.Proofs.Tokenizer.Returns

/-!
# Transitions

What one step of a scan can do, said once: `transition_of_step` lists the outcomes of `step`, and
`CapturesEntered`, `Applied` and `Transition` say of each outcome what the next state is and under
which condition it arises. Invariants are proved from these relations; the functions themselves are
not opened again.

The relations speak of states only. What a step does to the memory is left to `Safety`.
-/

namespace ScopeGrammar

open Tokenizing

variable {ctx : Context} {line : LineText}

/-! ### Names -/

/-- A template can give some names to what is matched; without a template there are none. -/
def NamesOf : Option ScopeTemplate → List ScopeName → Prop
  | none, names => names = []
  | some t, names => ∃ text m, t.resolve text m = .ok names

/-- The names that are made of a match are names that the template can give. -/
theorem namesOf_of_resolve {m : Match} {t : Option ScopeTemplate} {names : List ScopeName}
    (h : Returns (resolve line m t) names) : NamesOf t names := by
  cases t with
  | none => exact h.eq_of_pure
  | some t => exact ⟨line.chars, m, h.eq_ok_of_resolve⟩

/-! ### Captures -/

/-- What entering the captures of a match leads to: a state, and whether a frame was opened. -/
inductive CapturesEntered (line : LineText) (s : LineState) (m : Match) (path : ScopePath)
    (grammar : GrammarId) (captures : Captures) : LineState × Bool → Prop
  /-- A match without text has no text to give scopes to. -/
  | empty (hm : m.stop ≤ m.start) : CapturesEntered line s m path grammar captures (s, false)
  /-- Nothing is done with the captures. -/
  | plain (hm : m.start < m.stop) :
      CapturesEntered line s m path grammar captures (s.extend m.stop path, false)
  /-- A capture has rules: a frame is opened for the match. -/
  | opened (labels : List (Nat × CapturedScopes)) (hm : m.start < m.stop)
      (hp : captures.hasPatterns = true)
      (hl : Returns (capturedScopes line m grammar captures.entries) labels) :
      CapturesEntered line s m path grammar captures
        ({ s with
            stack := s.stack.push (.captured
              ⟨none, path, CaptureTree.forest m.clipped labels, m.start, m.stop⟩) }, true)
  /-- The captures have nothing but scopes. -/
  | flattened (labels : List (Nat × CapturedScopes)) (spans : List (Span × List ScopeName))
      (hm : m.start < m.stop) (hp : captures.hasPatterns = false)
      (hl : Returns (capturedScopes line m grammar captures.entries) labels)
      (hspans : ScopedRange.flatten
        (scopedRangesOfAll (CaptureTree.forest m.clipped labels)) = .ok spans) :
      CapturesEntered line s m path grammar captures
        ({ s with row := (s.row.extendSpans path spans).extend m.stop path }, false)

/-- What entering captures returns is what one of the ways in which it can go leads to. -/
theorem capturesEntered_of_enterCaptures {s : LineState} {m : Match} {path : ScopePath}
    {grammar : GrammarId} {captures : Captures} {e : LineState × Bool}
    (h : Returns (enterCaptures line s m path grammar captures) e) :
    CapturesEntered line s m path grammar captures e := by
  rw [enterCaptures] at h
  split at h
  · rename_i hempty
    rw [h.eq_of_pure]
    exact .empty (Span.isEmpty_eq_true.1 hempty)
  · rename_i hempty
    have hm : m.start < m.stop := Span.isEmpty_eq_false.1 (Bool.eq_false_iff.2 hempty)
    split at h
    · rw [h.eq_of_pure]
      exact .plain hm
    · obtain ⟨labels, hl, h⟩ := h.exists_of_bind
      dsimp only at h
      split at h
      · rename_i hp
        rw [h.eq_of_pure]
        exact .opened labels hm hp hl
      · rename_i hp
        obtain ⟨spans, hspans, h⟩ := h.exists_of_bind
        rw [h.eq_of_pure]
        exact .flattened labels spans hm (Bool.eq_false_iff.2 hp) hl hspans.eq_ok_of_ofFault

/-- Entering the captures of a match opens a frame for the match, or none. -/
theorem CapturesEntered.stack_cases {s : LineState} {m : Match} {path : ScopePath}
    {grammar : GrammarId} {captures : Captures} {e : LineState × Bool}
    (he : CapturesEntered line s m path grammar captures e) :
    e.1.stack = s.stack ∧ e.2 = false ∨
      ∃ c, e.1.stack = s.stack.push (.captured c) ∧ c.start = m.start ∧ e.2 = true := by
  cases he with
  | empty => exact .inl ⟨rfl, rfl⟩
  | plain => exact .inl ⟨rfl, rfl⟩
  | opened => exact .inr ⟨_, rfl, rfl, rfl⟩
  | flattened => exact .inl ⟨rfl, rfl⟩

/-- Entering captures does not move the position, which the match moves afterwards. -/
theorem CapturesEntered.position_eq {s : LineState} {m : Match} {path : ScopePath}
    {grammar : GrammarId} {captures : Captures} {e : LineState × Bool}
    (he : CapturesEntered line s m path grammar captures e) : e.1.position = s.position := by
  cases he <;> rfl

/-- Entering captures does not leave the start of the text. -/
theorem CapturesEntered.atTextStart_eq {s : LineState} {m : Match} {path : ScopePath}
    {grammar : GrammarId} {captures : Captures} {e : LineState × Bool}
    (he : CapturesEntered line s m path grammar captures e) : e.1.atTextStart = s.atTextStart := by
  cases he <;> rfl

/-- A match that takes text moves on from the start of the document. -/
theorem CapturesEntered.atTextStart_of_advance {s : LineState} {m : Match} {path : ScopePath}
    {grammar : GrammarId} {captures : Captures} {e : LineState × Bool} {p : Nat}
    (he : CapturesEntered line s m path grammar captures e)
    (h : (advance m p e).atTextStart = true) : s.atTextStart = true ∧ m.stop ≤ p := by
  obtain ⟨hstart, hadvanced⟩ := Bool.and_eq_true_iff.1 h
  exact ⟨he.atTextStart_eq ▸ hstart, by simpa using hadvanced⟩

/-- A match that is applied takes the position to its end, or to its start if a frame is opened for
it. -/
theorem CapturesEntered.position_advance {s : LineState} {m : Match} {path : ScopePath}
    {grammar : GrammarId} {captures : Captures} {e : LineState × Bool}
    (he : CapturesEntered line s m path grammar captures e) (hstart : s.position ≤ m.start)
    (hm : m.start ≤ m.stop) :
    (advance m s.position e).position = if e.2 then m.start else m.stop := by
  simp only [advance, decide_eq_true_eq, he.position_eq]
  split
  · rfl
  · split
    · rfl
    · omega

/-- A label is what an entry makes of a capture: its names, and its rules. -/
structure CapturedScopes.IsFor (grammar : GrammarId) (l : Nat × CapturedScopes)
    (entry : Nat × CaptureRule) : Prop where
  index_eq : l.1 = entry.1
  names : NamesOf entry.2.name l.2.scopes
  patterns_eq : l.2.patterns = entry.2.patterns.map (⟨grammar, ·⟩)

/-- Every label is for an entry of its own. -/
theorem exists_sublist_of_capturedScopes {m : Match} {grammar : GrammarId}
    {entries : List (Nat × CaptureRule)} {labels : List (Nat × CapturedScopes)}
    (h : Returns (capturedScopes line m grammar entries) labels) :
    ∃ taken, taken.Sublist entries ∧ List.Forall₂ (CapturedScopes.IsFor grammar) labels taken := by
  induction entries generalizing labels with
  | nil =>
    rw [capturedScopes] at h
    rw [h.eq_of_pure]
    exact ⟨[], .slnil, .nil⟩
  | cons entry rest ih =>
    obtain ⟨index, r⟩ := entry
    rw [capturedScopes] at h
    -- an entry that takes no part in the match has no label
    split at h
    · obtain ⟨taken, hsublist, htaken⟩ := ih h
      exact ⟨taken, hsublist.cons _, htaken⟩
    · split at h
      · obtain ⟨taken, hsublist, htaken⟩ := ih h
        exact ⟨taken, hsublist.cons _, htaken⟩
      · obtain ⟨scopes, hscopes, h⟩ := h.exists_of_bind
        obtain ⟨others, hothers, h⟩ := h.exists_of_bind
        rw [h.eq_of_pure]
        obtain ⟨taken, hsublist, htaken⟩ := ih hothers
        exact ⟨(index, r) :: taken, hsublist.cons_cons _,
          .cons ⟨rfl, namesOf_of_resolve hscopes, rfl⟩ htaken⟩

/-- Every label is for some entry. -/
theorem exists_isFor_of_capturedScopes {m : Match} {grammar : GrammarId}
    {entries : List (Nat × CaptureRule)} {labels : List (Nat × CapturedScopes)}
    (h : Returns (capturedScopes line m grammar entries) labels) :
    ∀ l ∈ labels, ∃ entry ∈ entries, CapturedScopes.IsFor grammar l entry := by
  obtain ⟨taken, hsublist, htaken⟩ := exists_sublist_of_capturedScopes h
  have hmem : ∀ l ∈ labels, ∃ entry ∈ taken, CapturedScopes.IsFor grammar l entry := by
    clear h hsublist
    induction htaken with
    | nil => simp
    | cons hfor _ ih =>
      intro l hl
      rcases List.mem_cons.1 hl with rfl | hl
      · exact ⟨_, List.mem_cons_self, hfor⟩
      · obtain ⟨entry, hentry, hfor⟩ := ih l hl
        exact ⟨entry, List.mem_cons_of_mem _ hentry, hfor⟩
  intro l hl
  obtain ⟨entry, hentry, hfor⟩ := hmem l hl
  exact ⟨entry, hsublist.mem hentry, hfor⟩

/-- The label of a capture is for an entry, and has the rules that the entry names. -/
theorem exists_entry_of_capturedScopes {m : Match} {grammar : GrammarId}
    {entries : List (Nat × CaptureRule)} {labels : List (Nat × CapturedScopes)}
    (h : Returns (capturedScopes line m grammar entries) labels) :
    ∀ l ∈ labels, ∃ r, (l.1, r) ∈ entries ∧ l.2.patterns = r.patterns.map (⟨grammar, ·⟩) := by
  intro l hl
  obtain ⟨⟨index, r⟩, hentry, hfor⟩ := exists_isFor_of_capturedScopes h l hl
  refine ⟨r, ?_, hfor.patterns_eq⟩
  rw [hfor.index_eq]
  exact hentry

/-! ### Applying a match -/

/-- A region that a match opened is what its rule, the match and the state make of it. -/
structure RegionOpened (ctx : Context) (line : LineText) (s : LineState) (ref : RuleRef)
    (r : RegionRule) (m : Match) (region : Region) : Prop where
  kind_eq : region.kind = r.kind
  rule_eq : region.rule = ref
  name_scopes : ∃ names, NamesOf r.name names ∧ region.nameScopes = s.stack.scopes.append names
  content_scopes : ∃ names, NamesOf r.contentName names ∧
    region.contentScopes = region.nameScopes.append names
  exit_returned : Returns (exitPattern ctx line ref r m) region.exit
  exitLast_eq : region.exitLast = r.endLast
  bound_eq : region.bound = s.stack.bound?
  tookLineEnd_eq : region.tookLineEnd = (m.stop == line.stop)
  anchorBefore_eq : region.anchorBefore = s.anchor
  enteredAt_eq : region.enteredAt = some s.position

/-- The frame that is made for a region has what the rule, the match and the state say. -/
theorem regionOpened_of_regionFrame {s : LineState} {ref : RuleRef} {r : RegionRule} {m : Match}
    {region : Region} (h : Returns (regionFrame ctx line s ref r m) region) :
    RegionOpened ctx line s ref r m region := by
  obtain ⟨exit, hexit, h⟩ := h.exists_of_bind
  obtain ⟨names, hnames, h⟩ := h.exists_of_bind
  obtain ⟨contents, hcontents, h⟩ := h.exists_of_bind
  obtain ⟨_, -, h⟩ := h.exists_of_bind
  rw [h.eq_of_pure]
  exact ⟨rfl, rfl, ⟨names, namesOf_of_resolve hnames, rfl⟩,
    ⟨contents, namesOf_of_resolve hcontents, rfl⟩, hexit, rfl, rfl, rfl, rfl, rfl⟩

/-- What applying a match leads to; `none` says that the rules are stuck. -/
inductive Applied (ctx : Context) (line : LineText) (s : LineState) (m : Match) :
    Candidate → Option LineState → Prop
  /-- A region would end where it began. -/
  | endedInPlace (r : Region) (below : List Frame) (hf : s.stack.frames = .region r :: below)
      (hm : m.stop ≤ s.position) (hr : r.enteredAt = some s.position) :
      Applied ctx line s m .exit none
  /-- The innermost region ends. -/
  | ended (r : Region) (below : List Frame) (rule : Rule) (e : LineState × Bool)
      (hf : s.stack.frames = .region r :: below)
      (hm : ¬ (m.stop ≤ s.position ∧ r.enteredAt = some s.position))
      (hrule : ctx.registry.rule r.rule = .ok rule)
      (he : CapturesEntered line
        { s with stack := { s.stack with frames := below }, anchor := r.anchorBefore } m
        r.nameScopes r.rule.grammar (rule.exitCaptures?.getD {}) e) :
      Applied ctx line s m .exit (some (advance m s.position e))
  /-- A rule would match no text. -/
  | matchedNothing (ref : RuleRef) (hm : m.stop ≤ s.position) :
      Applied ctx line s m (.rule ref) none
  /-- A rule of a single pattern gives scopes to its text. -/
  | matched (ref : RuleRef) (rule : Rule) (r : SingleRule) (names : List ScopeName)
      (e : LineState × Bool) (hrule : ctx.registry.rule ref = .ok rule)
      (hbody : rule.body = .single r) (hm : s.position < m.stop) (hnames : NamesOf r.name names)
      (he : CapturesEntered line s m (s.stack.scopes.append names) ref.grammar r.captures e) :
      Applied ctx line s m (.rule ref) (some (advance m s.position e))
  /-- A region would begin again where it began. -/
  | begunTwice (ref : RuleRef) (hm : m.stop ≤ s.position)
      (hr : s.stack.hasEnteredAt ref s.position = true) : Applied ctx line s m (.rule ref) none
  /-- A region begins. -/
  | began (ref : RuleRef) (rule : Rule) (r : RegionRule) (region : Region) (e : LineState × Bool)
      (hrule : ctx.registry.rule ref = .ok rule) (hbody : rule.body = .region r)
      (hm : ¬ (m.stop ≤ s.position ∧ s.stack.hasEnteredAt ref s.position = true))
      (hregion : RegionOpened ctx line s ref r m region)
      (he : CapturesEntered line
        { s with stack := s.stack.push (.region region), anchor := some m.stop } m
        region.nameScopes ref.grammar r.beginCaptures e) :
      Applied ctx line s m (.rule ref) (some (advance m s.position e))

/-- A region is closed in one of the ways in which a match of its end pattern can go. -/
theorem applied_of_applyExit {s : LineState} {m : Match} {next : Option LineState}
    (h : Returns (applyExit ctx line s m) next) : Applied ctx line s m .exit next := by
  rw [applyExit] at h
  split at h
  · rename_i r below hf
    split at h
    · rename_i hm
      obtain ⟨_, -, h⟩ := h.exists_of_bind
      rw [h.eq_of_pure]
      exact .endedInPlace r below hf hm.1 hm.2
    · rename_i hm
      obtain ⟨_, -, h⟩ := h.exists_of_bind
      obtain ⟨rule, hrule, h⟩ := h.exists_of_bind
      obtain ⟨e, he, h⟩ := h.exists_of_bind
      rw [h.eq_of_pure]
      exact .ended r below rule e hf hm hrule.eq_ok_of_ofFault (capturesEntered_of_enterCaptures he)
  · exact (Returns.not_throw h).elim

/-- A rule of a single pattern is applied, or the line is stopped since the match does not move
on. -/
theorem applied_of_applySingle {s : LineState} {m : Match} {ref : RuleRef} {rule : Rule}
    {r : SingleRule} {next : Option LineState} (hrule : ctx.registry.rule ref = .ok rule)
    (hbody : rule.body = .single r) (h : Returns (applySingle ctx line s ref r m) next) :
    Applied ctx line s m (.rule ref) next := by
  rw [applySingle] at h
  split at h
  · rename_i hm
    obtain ⟨_, -, h⟩ := h.exists_of_bind
    rw [h.eq_of_pure]
    exact .matchedNothing ref hm
  · rename_i hm
    obtain ⟨_, -, h⟩ := h.exists_of_bind
    obtain ⟨names, hnames, h⟩ := h.exists_of_bind
    obtain ⟨e, he, h⟩ := h.exists_of_bind
    rw [h.eq_of_pure]
    exact .matched ref rule r names e hrule hbody (Nat.lt_of_not_le hm) (namesOf_of_resolve hnames)
      (capturesEntered_of_enterCaptures he)

/-- A region is opened, or the line is stopped since it was opened at this position before. -/
theorem applied_of_applyRegion {s : LineState} {m : Match} {ref : RuleRef} {rule : Rule}
    {r : RegionRule} {next : Option LineState} (hrule : ctx.registry.rule ref = .ok rule)
    (hbody : rule.body = .region r) (h : Returns (applyRegion ctx line s ref r m) next) :
    Applied ctx line s m (.rule ref) next := by
  rw [applyRegion] at h
  split at h
  · rename_i hm
    obtain ⟨_, -, h⟩ := h.exists_of_bind
    rw [h.eq_of_pure]
    exact .begunTwice ref hm.1 hm.2
  · rename_i hm
    obtain ⟨region, hregion, h⟩ := h.exists_of_bind
    obtain ⟨e, he, h⟩ := h.exists_of_bind
    rw [h.eq_of_pure]
    exact .began ref rule r region e hrule hbody hm (regionOpened_of_regionFrame hregion)
      (capturesEntered_of_enterCaptures he)

/-- **All that applying a match can do.** -/
theorem applied_of_applyMatch {s : LineState} {m : Match} {c : Candidate}
    {next : Option LineState} (h : Returns (applyMatch ctx line s m c) next) :
    Applied ctx line s m c next := by
  cases c with
  | exit => exact applied_of_applyExit h
  | rule ref =>
    rw [applyMatch] at h
    obtain ⟨rule, hrule, h⟩ := h.exists_of_bind
    have hrule := hrule.eq_ok_of_ofFault
    split at h
    · rename_i r hbody
      exact applied_of_applySingle hrule hbody h
    · rename_i r hbody
      exact applied_of_applyRegion hrule hbody h
    · exact (Returns.not_throw h).elim
    · exact (Returns.not_throw h).elim

/-! ### Finding a match -/

/-- The end pattern is only a candidate for the innermost frame, and only if that is a region with
an end pattern. -/
theorem exists_region_of_exit_mem {stack : Stack} {last : Bool}
    (h : Candidate.exit ∈ exitCandidate stack last) :
    ∃ r below, stack.frames = .region r :: below ∧ r.kind = .beginEnd := by
  rw [exitCandidate] at h
  split at h
  · rename_i r below hf
    split at h
    · rename_i hr
      exact ⟨r, below, hf, hr.1⟩
    · simp at h
  · simp at h

/-- Injections do not offer end patterns. -/
theorem exit_not_mem_of_injectedCandidates {injected : List (Precedence × RuleRef)}
    {cs : List Candidate} (h : Returns (injectedCandidates ctx injected) cs) :
    Candidate.exit ∉ cs := by
  induction injected generalizing cs with
  | nil =>
    rw [injectedCandidates] at h
    rw [h.eq_of_pure]
    simp
  | cons i rest ih =>
    obtain ⟨refs, -, h⟩ := h.exists_of_bind
    obtain ⟨others, hothers, h⟩ := h.exists_of_bind
    rw [h.eq_of_pure]
    simpa using ih hothers

/-- An end pattern is only tried in a region that has one. -/
theorem exists_region_of_exit_candidate {stack : Stack} {owner : RuleRef} {cs : List Candidate}
    (h : Returns (orderedCandidates ctx stack owner) cs) (hc : Candidate.exit ∈ cs) :
    ∃ r below, stack.frames = .region r :: below ∧ r.kind = .beginEnd := by
  obtain ⟨left, hleft, h⟩ := h.exists_of_bind
  obtain ⟨rules, -, h⟩ := h.exists_of_bind
  obtain ⟨others, hothers, h⟩ := h.exists_of_bind
  rw [h.eq_of_pure] at hc
  -- injections bring in no end pattern, so that it is that of the innermost frame
  simp only [List.mem_append, exit_not_mem_of_injectedCandidates hleft,
    exit_not_mem_of_injectedCandidates hothers, List.mem_map, reduceCtorEq, and_false,
    exists_false, false_or, or_false] at hc
  rcases hc with hc | hc
  · exact exists_region_of_exit_mem hc
  · exact exists_region_of_exit_mem hc

/-- The pattern that an end is searched with is that of the innermost frame. -/
theorem exists_region_of_candidateRegex {stack : Stack} {regex : Regex}
    (h : Returns (candidateRegex ctx stack .exit) (some regex)) :
    ∃ r below, stack.frames = .region r :: below ∧ r.exit.regex ctx.registry = .ok regex := by
  rw [candidateRegex] at h
  split at h
  · rename_i r below hf
    obtain ⟨regex', hregex, heq⟩ := h.exists_of_map
    obtain rfl := Option.some.inj heq
    exact ⟨r, below, hf, hregex.eq_ok_of_ofFault⟩
  · cases h.eq_of_pure

/-- The pattern that a rule is searched with is one of its grammar. -/
theorem exists_entry_of_candidateRegex {stack : Stack} {ref : RuleRef} {regex : Regex}
    (h : Returns (candidateRegex ctx stack (.rule ref)) (some regex)) :
    ∃ g rule i, ctx.registry.grammar ref.grammar = .ok g ∧ g.rule ref.rule = .ok rule ∧
      rule.entry? = some i ∧ g.regex i = .ok regex := by
  obtain ⟨g, hg, h⟩ := h.exists_of_bind
  obtain ⟨rule, hrule, h⟩ := h.exists_of_bind
  split at h
  · rename_i i hi
    obtain ⟨regex', hregex, heq⟩ := h.exists_of_map
    obtain rfl := Option.some.inj heq
    exact ⟨g, rule, i, hg.eq_ok_of_ofFault, hrule.eq_ok_of_ofFault, hi, hregex.eq_ok_of_ofFault⟩
  · cases h.eq_of_pure

/-- The best of some candidates is the best so far, or a candidate with a pattern of which the
engine reports the match. -/
theorem mem_of_bestOf {s : LineState} {bound : Nat} {best : Option (Match × Candidate)}
    {cs : List Candidate} {m : Match} {c : Candidate}
    (h : Returns (bestOf ctx line s bound best cs) (some (m, c))) :
    best = some (m, c) ∨ c ∈ cs ∧ ctx.engine.ReportsIn line.chars ⟨s.position, bound⟩ m ∧
      ∃ r, Returns (candidateRegex ctx s.stack c) (some r) := by
  induction cs generalizing best with
  | nil =>
    rw [bestOf] at h
    exact .inl h.eq_of_pure.symm
  | cons c' cs ih =>
    have hrest : ∀ {best}, Returns (bestOf ctx line s bound best cs) (some (m, c)) →
        best = some (m, c) ∨ c ∈ c' :: cs ∧
          ctx.engine.ReportsIn line.chars ⟨s.position, bound⟩ m ∧
            ∃ r, Returns (candidateRegex ctx s.stack c) (some r) := by
      intro best h
      rcases ih h with h | ⟨hmem, h⟩
      · exact .inl h
      · exact .inr ⟨List.mem_cons_of_mem _ hmem, h⟩
    rw [bestOf] at h
    obtain ⟨regex, hregex, h⟩ := h.exists_of_bind
    split at h
    · exact hrest h
    · rename_i r
      obtain ⟨found, hfound, h⟩ := h.exists_of_bind
      split at h
      · exact hrest h
      · rename_i m'
        -- there is a match, which becomes the best one if it starts before the best so far
        have hthis : c' ∈ c' :: cs ∧ ctx.engine.ReportsIn line.chars ⟨s.position, bound⟩ m' ∧
            ∃ r, Returns (candidateRegex ctx s.stack c') (some r) :=
          ⟨List.mem_cons_self, reportsIn_of_search hfound, r, hregex⟩
        split at h
        · split at h
          · obtain ⟨rfl, rfl⟩ := Prod.mk.inj (Option.some.inj h.eq_of_pure)
            exact .inr hthis
          · rcases hrest h with heq | h
            · obtain ⟨rfl, rfl⟩ := Prod.mk.inj (Option.some.inj heq)
              exact .inr hthis
            · exact .inr h
        · exact hrest h

/-- A match was found in the innermost frame up to its bound. If it is one of a rule, then of one
that is tried on the stack. -/
structure SelectedOf (ctx : Context) (line : LineText) (T : Stack → RuleRef → Prop) (s : LineState)
    (bound : Nat) (m : Match) (c : Candidate) : Prop where
  /-- The frame has no bound, or there is text left before it. -/
  not_exhausted : ¬ (s.stack.bound?.isSome = true ∧ bound ≤ s.position)
  reported : ctx.engine.ReportsIn line.chars ⟨s.position, bound⟩ m
  regex_returned : ∃ r, Returns (candidateRegex ctx s.stack c) (some r)
  exit_region : c = .exit → ∃ r below, s.stack.frames = .region r :: below ∧ r.kind = .beginEnd
  before_capture : ∀ t, s.nextCapture? = some t → m.start < t.span.start
  tried : ∀ ref, c = .rule ref → T s.stack ref

/-- A match was found, whatever is tried. -/
abbrev Selected (ctx : Context) (line : LineText) (s : LineState) (bound : Nat) (m : Match)
    (c : Candidate) : Prop :=
  SelectedOf ctx line (fun _ _ ↦ True) s bound m c

/-- With what is remembered, no other rules are tried on a stack. -/
def Tries (ctx : Context) (I : Memory → Prop) (T : Stack → RuleRef → Prop) : Prop :=
  ∀ stack owner cs ref, stack.owner? = some owner →
    ReturnsFrom I (orderedCandidates ctx stack owner) cs → .rule ref ∈ cs → T stack ref

/-- If all rules will do, those that are tried do. -/
theorem tries_true (ctx : Context) (I : Memory → Prop) : Tries ctx I fun _ _ ↦ True :=
  fun _ _ _ _ _ _ _ ↦ True.intro

/-- The next match was reported by the engine for one of the candidates, within the bound and before
the next capture. -/
theorem selectedOf_of_nextMatch {I : Memory → Prop} {T : Stack → RuleRef → Prop}
    (hT : Tries ctx I T) {s : LineState} {bound : Nat} {m : Match} {c : Candidate}
    (h : ReturnsFrom I (nextMatch ctx line s bound) (some (m, c))) :
    SelectedOf ctx line T s bound m c := by
  rw [nextMatch] at h
  split at h
  · cases h.returns.eq_of_pure
  · rename_i hexhausted
    obtain ⟨found, hfound, h⟩ := h.exists_first
    -- a match counts only if it starts before the next capture
    have hbest : found = some (m, c) ∧ ∀ t, s.nextCapture? = some t → m.start < t.span.start := by
      split at h
      · rename_i m' c' t ht
        have h := h.eq_of_pure
        split at h
        · rename_i hlt
          obtain ⟨rfl, rfl⟩ := Prod.mk.inj (Option.some.inj h)
          refine ⟨rfl, fun t' ht' ↦ ?_⟩
          obtain rfl : t = t' := Option.some.inj (ht.symm.trans ht')
          exact hlt
        · cases h
      · rename_i hnone
        have h := h.eq_of_pure
        refine ⟨h.symm, fun t ht ↦ (hnone m c t h.symm ht).elim⟩
    obtain ⟨rfl, hbefore⟩ := hbest
    rw [findBest] at hfound
    split at hfound
    · cases hfound.returns.eq_of_pure
    · rename_i owner howner
      obtain ⟨cs, hcs, hfound⟩ := hfound.exists_first
      rcases mem_of_bestOf hfound with h | ⟨hmem, hreported, hregex⟩
      · cases h
      · refine ⟨by simpa using hexhausted, hreported, hregex, ?_, hbefore, ?_⟩
        · rintro rfl
          exact exists_region_of_exit_candidate hcs.returns hmem
        · rintro ref rfl
          exact hT s.stack owner cs ref howner hcs hmem

/-- The next match is one that was found, whatever is tried. -/
theorem selected_of_nextMatch {s : LineState} {bound : Nat} {m : Match} {c : Candidate}
    (h : Returns (nextMatch ctx line s bound) (some (m, c))) : Selected ctx line s bound m c :=
  selectedOf_of_nextMatch (tries_true ctx _) h.returnsFrom

/-! ### Steps -/

/-- The state that a step ends in. -/
def Step.state : Step → LineState
  | .goOn s => s
  | .done s => s

/-- Where the innermost frame stops, or else the line. -/
def LineState.limit (s : LineState) (line : LineText) : Nat :=
  s.stack.bound?.getD line.stop

/-- The state in which the innermost frame has got its text up to its bound. -/
def LineState.atLimit (s : LineState) (line : LineText) : LineState :=
  { s.extendContent (s.limit line) with position := max s.position (s.limit line) }

/-- The state without its innermost frame, of which those given are left. A region takes the anchor
back to where it was. -/
def LineState.leave (s : LineState) (f : Frame) (below : List Frame) : LineState :=
  { s with
    stack := { s.stack with frames := below }
    anchor := match f with
      | .region r => r.anchorBefore
      | .captured _ => s.anchor }

theorem LineState.position_dropPassed (s : LineState) : s.dropPassed.position = s.position := by
  rw [dropPassed]
  split <;> rfl

theorem LineState.row_dropPassed (s : LineState) : s.dropPassed.row = s.row := by
  rw [dropPassed]
  split <;> rfl

/-- What a step leads to from a state of which the passed captures are forgotten, if no other rules
are tried on a stack. -/
inductive TransitionOf (ctx : Context) (line : LineText) (T : Stack → RuleRef → Prop)
    (stopDepth : Option Nat) (s : LineState) : Step → Prop
  /-- A match is applied. -/
  | applied (m : Match) (c : Candidate) (s' : LineState)
      (hfound : SelectedOf ctx line T s (s.limit line) m c)
      (happlied : Applied ctx line (s.extendContent m.start) m c (some s')) :
      TransitionOf ctx line T stopDepth s (.goOn s')
  /-- The rules are stuck, and the line is closed. -/
  | stuck (m : Match) (c : Candidate) (hfound : SelectedOf ctx line T s (s.limit line) m c)
      (happlied : Applied ctx line (s.extendContent m.start) m c none) :
      TransitionOf ctx line T stopDepth s
        (.done (stopLine line (s.extendContent m.start) s.stack.frames))
  /-- The next capture is opened. -/
  | openedCapture (t : CaptureTree CapturedScopes) (ht : s.nextCapture? = some t) :
      TransitionOf ctx line T stopDepth s (.goOn (s.openCapture t))
  /-- The scan comes to the end of a frame that may go on in the next line. -/
  | ended (hnext : s.nextCapture? = none) (hbound : s.stack.bound? = none) :
      TransitionOf ctx line T stopDepth s (.done (s.atLimit line))
  /-- The innermost frame is closed at its bound. -/
  | closed (f : Frame) (below : List Frame) (b : Nat) (hnext : s.nextCapture? = none)
      (hf : s.stack.frames = f :: below) (hb : f.bound? = some b) :
      TransitionOf ctx line T stopDepth s
        (if stopDepth = some (below.length + 1) then .done ((s.atLimit line).leave f below)
          else .goOn ((s.atLimit line).leave f below))

/-- What a step leads to, whatever is tried. -/
abbrev Transition (ctx : Context) (line : LineText) (stopDepth : Option Nat) (s : LineState)
    (next : Step) : Prop :=
  TransitionOf ctx line (fun _ _ ↦ True) stopDepth s next

/-- Without a match or a capture the innermost frame is closed at its bound, if it has one. -/
theorem closeAtBound_cases {stopDepth : Option Nat} {s : LineState} {next : Step}
    (h : Returns (closeAtBound ctx stopDepth (s.limit line) s) next) :
    s.stack.bound? = none ∧ next = .done (s.atLimit line) ∨
      ∃ f below b, s.stack.frames = f :: below ∧ f.bound? = some b ∧
        next = if stopDepth = some (below.length + 1) then .done ((s.atLimit line).leave f below)
          else .goOn ((s.atLimit line).leave f below) := by
  rw [closeAtBound] at h
  dsimp only at h
  split at h
  · rename_i hf
    change s.stack.frames = [] at hf
    refine .inl ⟨?_, h.eq_of_pure⟩
    rw [Stack.bound?, hf]
    rfl
  · rename_i f below hf
    change s.stack.frames = f :: below at hf
    split at h
    · rename_i hb
      refine .inl ⟨?_, h.eq_of_pure⟩
      rw [Stack.bound?, hf]
      simpa using hb
    · rename_i hb
      obtain ⟨b, hb⟩ : ∃ b, f.bound? = some b :=
        Option.ne_none_iff_exists'.1 fun hnone ↦ hb (by rw [hnone]; rfl)
      refine .inr ⟨f, below, b, hf, hb, ?_⟩
      -- regions and captures differ in what is traced, not in what is left
      cases f with
      | region r =>
        obtain ⟨_, -, h⟩ := h.exists_of_bind
        obtain ⟨left, hleft, h⟩ := h.exists_of_bind
        rw [h.eq_of_pure, hleft.eq_of_pure]
        rfl
      | captured c =>
        obtain ⟨left, hleft, h⟩ := h.exists_of_bind
        rw [h.eq_of_pure, hleft.eq_of_pure]
        rfl

/-- Without a match or a capture a step closes the innermost frame at its bound or ends the line. -/
theorem transition_of_closeAtBound {T : Stack → RuleRef → Prop} {stopDepth : Option Nat}
    {s : LineState} {next : Step} (hnext : s.nextCapture? = none)
    (h : Returns (closeAtBound ctx stopDepth (s.limit line) s) next) :
    TransitionOf ctx line T stopDepth s next := by
  rcases closeAtBound_cases h with ⟨hbound, rfl⟩ | ⟨f, below, b, hf, hb, rfl⟩
  · exact .ended hnext hbound
  · exact .closed f below b hnext hf hb

/-- A frame that is closed while the scan goes on has a bound, and is not the one to stop at. -/
theorem closed_of_closeAtBound {stopDepth : Option Nat} {s s' : LineState} {f : Frame}
    {below : List Frame} (hf : s.stack.frames = f :: below)
    (h : Returns (closeAtBound ctx stopDepth (s.limit line) s) (.goOn s')) :
    (∃ b, f.bound? = some b) ∧ stopDepth ≠ some (below.length + 1) ∧
      s' = (s.atLimit line).leave f below := by
  rcases closeAtBound_cases h with ⟨-, hdone⟩ | ⟨f', below', b, hf', hb, hgo⟩
  · cases hdone
  · obtain ⟨rfl, rfl⟩ := List.cons.inj (hf.symm.trans hf')
    split at hgo
    · cases hgo
    · rename_i hdepth
      exact ⟨⟨b, hb⟩, hdepth, Step.goOn.inj hgo⟩

/-- **All that a step can do**, from what is remembered. -/
theorem transitionOf_of_step {I : Memory → Prop} {T : Stack → RuleRef → Prop} (hT : Tries ctx I T)
    {stopDepth : Option Nat} {s : LineState} {next : Step}
    (h : ReturnsFrom I (step ctx line stopDepth s) next) :
    TransitionOf ctx line T stopDepth s.dropPassed next := by
  rw [step] at h
  obtain ⟨found, hfound, h⟩ := h.exists_first
  split at h
  · rename_i m c
    obtain ⟨s', hs', h⟩ := h.exists_of_bind
    have hfound := selectedOf_of_nextMatch hT hfound
    split at h
    · rw [h.eq_of_pure]
      exact .applied m c _ hfound (applied_of_applyMatch hs')
    · rw [h.eq_of_pure]
      exact .stuck m c hfound (applied_of_applyMatch hs')
  · split at h
    · rename_i t ht
      rw [h.eq_of_pure]
      exact .openedCapture t ht
    · rename_i hnext
      exact transition_of_closeAtBound hnext h

/-- **All that a step can do.** -/
theorem transition_of_step {stopDepth : Option Nat} {s : LineState} {next : Step}
    (h : Returns (step ctx line stopDepth s) next) :
    Transition ctx line stopDepth s.dropPassed next :=
  transitionOf_of_step (tries_true ctx _) h.returnsFrom

/-- The last step of a scan that has no depth to stop at closes the line, or comes to its end. -/
theorem Transition.last_cases {s s' : LineState} (h : Transition ctx line none s (.done s')) :
    (∃ m c, Selected ctx line s (s.limit line) m c ∧
      s' = stopLine line (s.extendContent m.start) s.stack.frames) ∨
      s.stack.bound? = none ∧ s' = s.atLimit line := by
  generalize hnext : Step.done s' = next at h
  cases h with
  | applied => cases hnext
  | stuck m c hfound => exact .inl ⟨m, c, hfound, Step.done.inj hnext⟩
  | openedCapture => cases hnext
  | ended _ hbound => exact .inr ⟨hbound, Step.done.inj hnext⟩
  | closed =>
    rw [if_neg (by simp)] at hnext
    cases hnext

end ScopeGrammar
