import ScopeGrammar.Proofs.Scope.Room
import ScopeGrammar.Proofs.Tokenizer.Safety
import ScopeGrammar.Tokenizer.Process

/-!
# Documents are tokenized without faults

Whatever lines a document has had, and whatever they came to, the next one is tokenized from a sound
state: what is handed over from line to line are regions without bounds, and what is remembered are
candidates. So a line finds no fault of its own. It can end in that of a search that goes back too
often, and it is the engine that reports it (`Session.tokenizeLine_faults_of_engine`).

In a process with a table of atoms there is one fault more: the line makes a name of captured text,
and all atoms have been given. That takes more segments than there are numbers of 32 bits
(`Session.tokenizeLineIn_faults`).
-/

namespace ScopeGrammar

open Tokenizing

variable {r : Registry} {base : GrammarId} {E : Engine} {s : Session} {patterns : PatternCache}

/-- Filled-in patterns refer to no rules. -/
theorem Registry.IsClosed.withPatterns (h : r.IsClosed) (patterns : PatternCache) :
    (r.withPatterns patterns).IsClosed :=
  ⟨h.grammars, h.named⟩

namespace Stack.IsCarried

/-- What a line carries over does not depend on the patterns that are remembered. -/
theorem withPatterns {stack : Stack} (h : stack.IsCarried r base) (patterns : PatternCache) :
    stack.IsCarried (r.withPatterns patterns) base :=
  ⟨h.root, h.layered_of_region fun _ region hf ↦
    ⟨(@Frame.fitsOn_withPatterns _ _ _ (.region region)).2 hf.1, hf.2⟩⟩

/-- What is handed over has no captures, and so no rules of captures. -/
theorem layered_hasRules {stack : Stack} (h : stack.IsCarried r base) :
    stack.Layered fun _ f ↦ f.HasRules r :=
  h.layered_of_region fun _ _ _ ↦ True.intro

/-- **A line starts in a sound state.** -/
theorem isSound_start {ctx : Context} (h : s.stack.IsCarried ctx.registry ctx.base)
    (line : LineText) : LineState.IsSound ctx line (.start s.stack s.firstLine line) where
  base_eq := by
    obtain ⟨g, -, hroot⟩ := h.root
    exact congrArg Stack.grammar hroot
  fits := h.layered
  lies := ⟨h.layered_liesIn, isBoundary_zero _⟩
  ruled := h.layered_hasRules

end Stack.IsCarried

namespace Session

namespace Reachable

/-- What a line of a session is tokenized with is sound. -/
theorem isSound_context (hr : r.IsClosed) (hs : Reachable E r base s) (patterns : PatternCache) :
    (s.context (r.withPatterns patterns)).IsSound where
  registry := hr.withPatterns patterns
  base_lt := by
    obtain ⟨g, hg, -⟩ := hs.isCarried.root
    rw [context, hs.fixed_eq.2.1]
    exact (Array.getElem?_eq_some_iff.1 (Registry.grammar_eq_ok_iff.1 hg)).1
  injections := fun _ hi ↦ hr.hasRule_of_mem_injectionsFor hs.fixed_eq.2.2 hi

/-- A line of a session starts in a sound state. -/
theorem isSound_start (hs : Reachable E r base s) (patterns : PatternCache) (line : LineText) :
    LineState.IsSound (s.context (r.withPatterns patterns)) line
      (.start s.stack s.firstLine line) := by
  have hcarried := hs.isCarried.withPatterns patterns
  rw [← hs.fixed_eq.2.1] at hcarried
  exact hcarried.isSound_start line

variable (hr : r.IsClosed) (hbounds : E.KeepsBoundaries) (hforward : E.CapturesForward)

include hr hbounds hforward

/-- **The scan of the next line finds no fault**, given a sound memory. -/
theorem scanNext_isOfEngine (hs : Reachable E r base s) (patterns : PatternCache)
    (hmemory : Memory.IsSound r { candidates := s.candidates, patterns := patterns })
    (line : LineText) (fuel : Nat) :
    Memory.IsSound r (s.scanNext (r.withPatterns patterns) line fuel).memory ∧
      ∀ e, (s.scanNext (r.withPatterns patterns) line fuel).failure = some e → e.IsOfEngine := by
  have hengine := hs.engine_context (r.withPatterns patterns)
  exact scanLine_isOfEngine (hs.isSound_context hr patterns) (hengine ▸ hbounds)
    (hengine ▸ hforward) (hs.isSound_start patterns line) hmemory fuel

/-- The candidates that a session remembers are candidates. -/
theorem isSound_memory (hs : Reachable E r base s) (patterns : PatternCache) :
    Memory.IsSound r { candidates := s.candidates, patterns := patterns } := by
  induction hs generalizing patterns with
  | start lines h =>
    obtain ⟨g, injections, -, -, rfl⟩ := exists_of_ofLines h
    intro key refs hrefs
    rw [Std.HashMap.getElem?_empty] at hrefs
    contradiction
  | traced _ _ ih => exact ih patterns
  | taken _ ih => exact ih patterns
  | line hs patterns' line fuel _ ih =>
    rw [tokenizeLine_session hs.lost_eq]
    exact
      (hs.scanNext_isOfEngine hr hbounds hforward patterns' (ih patterns') (.ofLine line) fuel).1

end Reachable

/-- **The only fault that tokenizing a line finds is one that the engine reports**, a search that
goes back too often, whichever lines came before and whatever they came to. -/
theorem tokenizeLine_faults_of_engine (hbounds : E.KeepsBoundaries) (hforward : E.CapturesForward)
    (hr : r.Loaded E) (hs : Reachable E r base s) (patterns : PatternCache) (line : String)
    (fuel : Nat) {f : Fault}
    (h : (s.tokenizeLine (r.withPatterns patterns) line fuel).result = .error (.fault f)) :
    f = .searchExhausted := by
  have hfailure := (tokenizeLine_eq_error_iff hs.lost_eq).1 h
  have hmemory := hs.isSound_memory hr.isClosed hbounds hforward patterns
  exact (hs.scanNext_isOfEngine hr.isClosed hbounds hforward patterns hmemory _ fuel).2 _
    hfailure f rfl

/-! ### Lines of a process -/

/-- **A line ends in the fault of the table just if there are not atoms enough** for the segments
that the table holds and those of the names that the line makes. In all other cases it comes to what
it comes to without a table, and it leaves the table exact in any case. -/
theorem tokenizeLineIn_of_isExact (s : Session) {t : AtomTable} (ht : t.IsExact) (r : Registry)
    (line : String) (fuel : Nat) :
    (s.tokenizeLineIn t r line fuel).2.IsExact ∧
      (s.tokenizeLineIn t r line fuel).1 =
        if UInt32.size <
            (t.held ∪ segmentsOf (s.tokenizeLine r line fuel).names.toList).card then
          .error (.fault .atomsExhausted)
        else (s.tokenizeLine r line fuel).result := by
  have hroom := Interning.internAll_eq_error_iff ht (s.tokenizeLine r line fuel).names.toList
  obtain ⟨t', ht', ⟨names, hrun, -⟩ | ⟨hrun, hfull⟩⟩ :=
    Interning.holds_internAll ht (s.tokenizeLine r line fuel).names.toList
  · have hfits : ¬ UInt32.size <
        (t.held ∪ segmentsOf (s.tokenizeLine r line fuel).names.toList).card := by
      rw [← hroom, hrun]
      rintro ⟨_, _, h⟩
      cases h
    rw [tokenizeLineIn, hrun, if_neg hfits]
    exact ⟨ht', rfl⟩
  · rw [tokenizeLineIn, hrun, if_pos hfull]
    exact ⟨ht', rfl⟩

/-- **A line of a process ends in one of two faults if in any**: the engine gives up a search, or
all atoms have been given when a name is made of captured text. The second takes more segments,
those that the table held and those of the names that the line made, than there are atoms. -/
theorem tokenizeLineIn_faults (hbounds : E.KeepsBoundaries) (hforward : E.CapturesForward)
    (hr : r.Loaded E) (hs : Reachable E r base s) (patterns : PatternCache) {t : AtomTable}
    (ht : t.IsExact) (line : String) (fuel : Nat) {f : Fault}
    (h : (s.tokenizeLineIn t (r.withPatterns patterns) line fuel).1 = .error (.fault f)) :
    f = .searchExhausted ∨
      f = .atomsExhausted ∧
        UInt32.size < (t.held ∪ segmentsOf
          (s.tokenizeLine (r.withPatterns patterns) line fuel).names.toList).card := by
  rw [(s.tokenizeLineIn_of_isExact ht _ line fuel).2] at h
  split at h
  · rename_i hfull
    exact .inr ⟨(Failure.fault.inj (Except.error.inj h)).symm, hfull⟩
  · exact .inl (tokenizeLine_faults_of_engine hbounds hforward hr hs patterns line fuel h)

end Session

/-! ### Searches that go back too often -/

/-- The engine whose searches all go back too often. -/
def Engine.exhausted : Engine :=
  .ofMatcher fun _ _ ↦ .exhausted

/-- An engine that gives up reports nothing, so that what it reports is as it should be. -/
theorem Engine.not_exhausted_reports {w : Window} {m : Match} : ¬ exhausted.Reports w m := by
  rintro ⟨pattern, matcher, hcompile, h⟩
  rw [← Except.ok.inj hcompile] at h
  contradiction

theorem Engine.exhausted_staysInRange : exhausted.StaysInRange :=
  fun _ _ _ _ h ↦ (not_exhausted_reports h).elim

theorem Engine.exhausted_keepsBoundaries : exhausted.KeepsBoundaries :=
  fun _ _ _ _ h ↦ (not_exhausted_reports h).elim

theorem Engine.exhausted_capturesForward : exhausted.CapturesForward :=
  fun _ _ _ _ h ↦ (not_exhausted_reports h).elim

namespace Session

/-- The first search of the line gives up. -/
theorem scanNext_exhausted :
    (parens .exhausted).scanNext (Registry.parens.withPatterns {}) (.ofLine "a(") 1 =
      ⟨parensStart, { candidates := rootCandidates }, some (.fault .searchExhausted)⟩ := by
  have hfound : (Regex.ofPattern "(" "patterns[0].begin").search (LineText.ofLine "a(").indexed
      ⟨0, 3⟩ ⟨true, false⟩ .exhausted = .error .exhausted := by decide +kernel
  have hsearch : search (parensContext .exhausted) (.ofLine "a(")
      (.ofPattern "(" "patterns[0].begin") ⟨0, 3⟩ ⟨true, false⟩ =
        throw (.fault .searchExhausted) :=
    search_of_exhausted hfound
  have hbest : bestOf (parensContext .exhausted) (.ofLine "a(") parensStart 3 none
      [.rule ⟨0, 1⟩] = throw (.fault .searchExhausted) := by
    rw [bestOf]
    show (search _ _ (.ofPattern "(" "patterns[0].begin") ⟨0, 3⟩ ⟨true, false⟩ >>= _) = _
    rw [hsearch]
    rfl
  have hstep : step (parensContext .exhausted) (.ofLine "a(") none parensStart {} =
      .error (.fault .searchExhausted) { candidates := rootCandidates } := by
    show (((orderedCandidates (parensContext .exhausted) (parens .exhausted).stack (.root 0) >>=
      fun cs ↦ bestOf _ _ parensStart 3 none cs) >>= _) >>= _) {} = _
    rw [bind_assoc, bind_assoc, bind_eq_of_eq_ok (orderedCandidates_parens _), hbest]
    rfl
  show checkEnded
    (runScan (parensContext .exhausted) (.ofLine "a(") none (0 + 1) parensStart {}) = _
  rw [runScan, hstep]
  rfl

theorem tokenizeLine_exhausted_result :
    ((parens .exhausted).tokenizeLine (Registry.parens.withPatterns {}) "a(" 1).result =
      .error (.fault .searchExhausted) := by
  rw [tokenizeLine_eq_error_iff rfl, scanNext_exhausted]

/-- **An engine that reports nothing amiss can still give up**, and then the line ends in the fault
that says so. -/
theorem tokenizeLine_exhausted_parens :
    Engine.exhausted.StaysInRange ∧ Engine.exhausted.KeepsBoundaries ∧
      Engine.exhausted.CapturesForward ∧ Registry.parens.Loaded .exhausted ∧
      Reachable .exhausted .parens 0 (parens .exhausted) ∧
      ((parens .exhausted).tokenizeLine (Registry.parens.withPatterns {}) "a(" 1).result =
        .error (.fault .searchExhausted) :=
  ⟨Engine.exhausted_staysInRange, Engine.exhausted_keepsBoundaries,
    Engine.exhausted_capturesForward, .add .empty (Grammar.compile_parens _) Registry.add_parens,
    parens_reachable _, tokenizeLine_exhausted_result⟩

/-- The same line in a process that has made no name yet: the fault is that of the engine. -/
theorem tokenizeLineIn_faults_parens :
    ((parens .exhausted).tokenizeLineIn {} (Registry.parens.withPatterns {}) "a(" 1).1 =
        .error (.fault .searchExhausted) ∧
      (Fault.searchExhausted = .searchExhausted ∨
        Fault.searchExhausted = .atomsExhausted ∧
          UInt32.size < (AtomTable.held {} ∪ segmentsOf ((parens .exhausted).tokenizeLine
            (Registry.parens.withPatterns {}) "a(" 1).names.toList).card) := by
  have hnames : ((parens .exhausted).tokenizeLine (Registry.parens.withPatterns {}) "a(" 1).names =
      #[] := by
    rw [tokenizeLine_names rfl, scanNext_exhausted]
  have hresult : ((parens .exhausted).tokenizeLineIn {} (Registry.parens.withPatterns {}) "a("
      1).1 = .error (.fault .searchExhausted) := by
    rw [tokenizeLineIn, hnames, tokenizeLine_exhausted_result]
    rfl
  exact ⟨hresult, tokenizeLineIn_faults Engine.exhausted_keepsBoundaries
    Engine.exhausted_capturesForward (.add .empty (Grammar.compile_parens _) Registry.add_parens)
    (parens_reachable _) {} AtomTable.isExact_empty "a(" 1 hresult⟩

end Session

end ScopeGrammar
