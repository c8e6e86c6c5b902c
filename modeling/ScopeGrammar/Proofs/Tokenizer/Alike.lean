import ScopeGrammar.Proofs.Tokenizer.Remembered

/-!
# Tokenizing alike

Two runs of the same tokenizing differ when other things are remembered: candidates may be known or
found again, and a filled-in pattern may be the one that another place of a grammar made, with the
same text and another location. `Alike` says that two computations cannot be told apart but for that
location, whatever is remembered, as long as what is remembered is faithful (`Memory.IsFaithful`):
known candidates are those that would be found again, and patterns are known by their own texts.

Like `Confined` it goes along the computation. What may differ on the way are the exit patterns of
open regions (`Frame.Alike`), which are searched alike as their texts are the same, and in the end
the location that an error reports (`Failure.Alike`).
-/

namespace ScopeGrammar

open Tokenizing

/-! ### Faithful memories -/

/-- Patterns are known by their own texts, and there are not too many of them. -/
structure PatternCache.IsFaithful (c : PatternCache) : Prop where
  pattern_eq : ∀ (text : String) (regex : Regex), c.entries[text]? = some regex →
    regex.pattern = text
  size_le : c.entries.size ≤ capacity

/-- Patterns are remembered faithfully if none are. -/
theorem PatternCache.isFaithful_empty : IsFaithful {} where
  pattern_eq text regex h := by simp at h
  size_le := Nat.zero_le _

/-- What is compiled has the text that was asked for, and the patterns stay faithful. -/
theorem PatternCache.IsFaithful.compile {c : PatternCache} (h : c.IsFaithful)
    (pattern location : String) :
    (c.compile pattern location).1.pattern = pattern ∧
      (c.compile pattern location).2.IsFaithful := by
  rw [PatternCache.compile]
  split
  · rename_i regex hknown
    exact ⟨h.pattern_eq pattern regex hknown, h⟩
  · dsimp only
    -- a full cache is emptied first
    have hkept : ∀ kept : Std.HashMap String Regex,
        (∀ (text : String) (regex : Regex), kept[text]? = some regex → regex.pattern = text) →
        kept.size < capacity →
        IsFaithful ⟨kept.insert pattern (.ofPattern pattern location)⟩ := by
      intro kept heq hsize
      refine ⟨fun text regex hregex ↦ ?_, ?_⟩
      · rw [Std.HashMap.getElem?_insert] at hregex
        split at hregex
        · rename_i htext
          rw [← Option.some.inj hregex]
          exact eq_of_beq htext
        · exact heq text regex hregex
      · exact Nat.le_trans Std.HashMap.size_insert_le hsize
    refine ⟨rfl, hkept _ ?_ ?_⟩
    · split
      · exact fun text regex hregex ↦ by simp at hregex
      · exact h.pattern_eq
    · split
      · exact Nat.lt_of_lt_of_eq (Nat.two_pow_pos 9) rfl
      · rename_i hfull
        exact Nat.lt_of_not_le hfull

/-- What is remembered is what would be found again. -/
structure Memory.IsFaithful (ctx : Context) (memory : Memory) : Prop where
  candidates : memory.Agrees ctx
  patterns : memory.patterns.IsFaithful

/-! ### What may differ -/

/-- Exit patterns with the same text. -/
inductive ExitPattern.Alike : ExitPattern → ExitPattern → Prop
  | fixed (grammar : GrammarId) (regex : RegexId) :
      Alike (.fixed grammar regex) (.fixed grammar regex)
  | filled {regex regex' : Regex} (h : regex'.pattern = regex.pattern) :
      Alike (.filled regex) (.filled regex')

/-- Frames that are the same but for the exit patterns of regions. -/
inductive Frame.Alike : Frame → Frame → Prop
  | region (r : Region) {exit : ExitPattern} (h : r.exit.Alike exit) :
      Alike (.region r) (.region { r with exit := exit })
  | captured (c : CapturedText) : Alike (.captured c) (.captured c)

/-- The frames are alike one by one. -/
abbrev FramesAlike : List Frame → List Frame → Prop :=
  List.Forall₂ Frame.Alike

/-- Stacks with frames that are alike. -/
def Stack.Alike (s s' : Stack) : Prop :=
  ∃ frames, FramesAlike s.frames frames ∧ s' = s.withFrames frames

/-- States that are the same but for frames that are alike. -/
def LineState.Alike (s s' : LineState) : Prop :=
  ∃ frames, FramesAlike s.stack.frames frames ∧ s' = s.withFrames frames

/-- Steps to states that are alike. -/
inductive Step.Alike : Step → Step → Prop
  | goOn {s s' : LineState} (h : s.Alike s') : Alike (.goOn s) (.goOn s')
  | done {s s' : LineState} (h : s.Alike s') : Alike (.done s) (.done s')

/-- Failures that are the same but for the location of a refused pattern. -/
inductive Failure.Alike : Failure → Failure → Prop
  | refl (e : Failure) : Alike e e
  | regex {e e' : RegexError} (hpattern : e'.pattern = e.pattern) (hcause : e'.cause = e.cause) :
      Alike (.error (.regex e)) (.error (.regex e'))

/-- What a line is tokenized with, but for other filled-in patterns. -/
def Context.withPatterns (ctx : Context) (patterns : PatternCache) : Context :=
  { ctx with registry := ctx.registry.withPatterns patterns }

namespace Tokenizing

variable {α β γ δ : Type}

/-- The computations return results that are related or fail alike, whatever is remembered, and what
they remember is faithful again. -/
def Alike (ctx : Context) (R : α → β → Prop) (x : Tokenizing α) (y : Tokenizing β) : Prop :=
  ∀ memory memory', memory.IsFaithful ctx → memory'.IsFaithful ctx →
    match x memory, y memory' with
    | .ok a m, .ok b m' => R a b ∧ m.IsFaithful ctx ∧ m'.IsFaithful ctx
    | .error e m, .error e' m' => e.Alike e' ∧ m.IsFaithful ctx ∧ m'.IsFaithful ctx
    | _, _ => False

variable {ctx : Context} {R : α → β → Prop} {S : γ → δ → Prop}

/-! ### Rules -/

/-- Both computations return, or both fail. -/
theorem Alike.results {x : Tokenizing α} {y : Tokenizing β} (h : Alike ctx R x y)
    {memory memory' : Memory} (hm : memory.IsFaithful ctx) (hm' : memory'.IsFaithful ctx) :
    (∃ a b m m', x memory = .ok a m ∧ y memory' = .ok b m' ∧
      R a b ∧ m.IsFaithful ctx ∧ m'.IsFaithful ctx) ∨
    ∃ e e' m m', x memory = .error e m ∧ y memory' = .error e' m' ∧
      e.Alike e' ∧ m.IsFaithful ctx ∧ m'.IsFaithful ctx := by
  have h := h memory memory' hm hm'
  cases hx : x memory with
  | ok a m =>
    cases hy : y memory' with
    | ok b m' =>
      rw [hx, hy] at h
      exact .inl ⟨a, b, m, m', rfl, rfl, h⟩
    | error e' m' =>
      rw [hx, hy] at h
      exact h.elim
  | error e m =>
    cases hy : y memory' with
    | ok b m' =>
      rw [hx, hy] at h
      exact h.elim
    | error e' m' =>
      rw [hx, hy] at h
      exact .inr ⟨e, e', m, m', rfl, rfl, h⟩

/-- Results may be said to be less alike. -/
theorem Alike.mono {R' : α → β → Prop} {x : Tokenizing α} {y : Tokenizing β}
    (h : Alike ctx R x y) (hR : ∀ a b, R a b → R' a b) : Alike ctx R' x y := by
  intro m m' hm hm'
  obtain ⟨a, b, _, _, hx, hy, hab, hkept⟩ | ⟨_, _, _, _, hx, hy, hfailed⟩ := h.results hm hm'
  · rw [hx, hy]
    exact ⟨hR a b hab, hkept⟩
  · rw [hx, hy]
    exact hfailed

theorem alike_pure {a : α} {b : β} (h : R a b) :
    Alike ctx R (pure a : Tokenizing α) (pure b : Tokenizing β) :=
  fun _ _ hm hm' ↦ ⟨h, hm, hm'⟩

theorem alike_throw {e e' : Failure} (h : e.Alike e') :
    Alike ctx R (throw e : Tokenizing α) (throw e' : Tokenizing β) :=
  fun _ _ hm hm' ↦ ⟨h, hm, hm'⟩

/-- A computation without memory depends on nothing that is remembered. -/
theorem alike_ofFault (x : Except Fault α) : Alike ctx Eq (ofFault x) (ofFault x) := by
  cases x with
  | ok a => exact alike_pure rfl
  | error f => exact alike_throw (.refl _)

/-- **Sequences are alike if their first parts are, and the second ones for all results that are
related.** -/
theorem Alike.bind {x : Tokenizing α} {y : Tokenizing β} {f : α → Tokenizing γ}
    {g : β → Tokenizing δ} (h : Alike ctx R x y) (hfg : ∀ a b, R a b → Alike ctx S (f a) (g b)) :
    Alike ctx S (x >>= f) (y >>= g) := by
  intro m m' hm hm'
  obtain ⟨a, b, m₁, m₁', hx, hy, hab, hm₁, hm₁'⟩ | ⟨_, _, _, _, hx, hy, hfailed⟩ :=
    h.results hm hm'
  · rw [bind_eq_of_eq_ok hx, bind_eq_of_eq_ok hy]
    exact hfg a b hab m₁ m₁' hm₁ hm₁'
  · rw [bind_eq_of_eq_error hx, bind_eq_of_eq_error hy]
    exact hfailed

/-- Sequences with the same results in between. -/
theorem Alike.bind_eq {x y : Tokenizing α} {f : α → Tokenizing γ} {g : α → Tokenizing δ}
    (h : Alike ctx Eq x y) (hfg : ∀ a, Alike ctx S (f a) (g a)) :
    Alike ctx S (x >>= f) (y >>= g) :=
  h.bind fun a _ hab ↦ hab ▸ hfg a

/-- Results that are changed alike stay alike. -/
theorem Alike.map {x : Tokenizing α} {y : Tokenizing β} {f : α → γ} {g : β → δ}
    (h : Alike ctx R x y) (hfg : ∀ a b, R a b → S (f a) (g b)) :
    Alike ctx S (f <$> x) (g <$> y) := by
  rw [map_eq_pure_bind, map_eq_pure_bind]
  exact h.bind fun a b hab ↦ alike_pure (hfg a b hab)

theorem alike_log (e e' : Event) : Alike ctx Eq (log e) (log e') :=
  fun _ _ hm hm' ↦ ⟨rfl, ⟨hm.candidates, hm.patterns⟩, ⟨hm'.candidates, hm'.patterns⟩⟩

/-- A loop that always goes on. -/
theorem alike_forIn {items : List α} {f : α → Tokenizing Unit}
    (hf : ∀ a, Alike ctx Eq (f a) (f a)) :
    Alike ctx Eq
      (forIn items PUnit.unit fun a _ ↦ do
        f a
        pure (ForInStep.yield PUnit.unit) : Tokenizing PUnit)
      (forIn items PUnit.unit fun a _ ↦ do
        f a
        pure (ForInStep.yield PUnit.unit) : Tokenizing PUnit) := by
  induction items with
  | nil => exact alike_pure rfl
  | cons a items ih =>
    rw [List.forIn_cons, bind_assoc]
    exact (hf a).bind_eq fun _ ↦ ih

/-! ### What has no memory but the log and the names that are noted -/

variable {line : LineText} {patterns : PatternCache}

/-- What is logged does not count. -/
theorem alike_trace (rule : RuleRef) (e : String → Event) :
    Alike ctx Eq (trace ctx rule e) (trace (ctx.withPatterns patterns) rule e) := by
  have hsame : trace (ctx.withPatterns patterns) rule e = trace ctx rule e := rfl
  rw [hsame, trace]
  split
  · exact (alike_ofFault _).bind_eq fun _ ↦ alike_log _ _
  · exact alike_pure rfl

/-- Names are noted the same way. -/
theorem alike_noteNames (t : ScopeTemplate) (names : List ScopeName) :
    Alike ctx Eq (noteNames t names) (noteNames t names) := by
  rw [noteNames]
  split
  · exact fun _ _ hm hm' ↦ ⟨rfl, ⟨hm.candidates, hm.patterns⟩, ⟨hm'.candidates, hm'.patterns⟩⟩
  · exact alike_pure rfl

/-- The names of a match do not depend on what is remembered. -/
theorem alike_resolve (m : Match) (t : Option ScopeTemplate) :
    Alike ctx Eq (resolve line m t) (resolve line m t) := by
  cases t with
  | none => exact alike_pure rfl
  | some t =>
    exact (alike_forIn fun _ ↦ alike_log _ _).bind_eq fun _ ↦ (alike_ofFault _).bind_eq fun names ↦
      (alike_noteNames t names).bind_eq fun _ ↦ alike_pure rfl

/-- The scopes of captures do not depend on what is remembered. -/
theorem alike_capturedScopes (m : Match) (grammar : GrammarId)
    (entries : List (Nat × CaptureRule)) :
    Alike ctx Eq (capturedScopes line m grammar entries)
      (capturedScopes line m grammar entries) := by
  induction entries with
  | nil => exact alike_pure rfl
  | cons entry rest ih =>
    rw [capturedScopes]
    split
    · exact ih
    · split
      · exact ih
      · exact (alike_resolve _ _).bind_eq fun _ ↦ ih.bind_eq fun _ ↦ alike_pure rfl

/-! ### Candidates and patterns -/

/-- **Candidates are the same whatever is remembered.** -/
theorem alike_candidates (ref : RuleRef) (kind : CandidateKind) :
    Alike ctx Eq (candidates ctx ref kind) (candidates (ctx.withPatterns patterns) ref kind) := by
  intro m m' hm hm'
  have hagrees : m'.Agrees (ctx.withPatterns patterns) :=
    Registry.agrees_withPatterns.mpr hm'.candidates
  have hsame : (ctx.withPatterns patterns).registry.freshCandidates
      (ctx.withPatterns patterns).base ref kind =
        ctx.registry.freshCandidates ctx.base ref kind :=
    Registry.freshCandidates_withPatterns ..
  cases hfresh : ctx.registry.freshCandidates ctx.base ref kind with
  | ok found =>
    obtain ⟨refs, events⟩ := found
    obtain ⟨m₁, hm₁, hpatterns, h⟩ := exists_candidates_eq hm.candidates hfresh
    obtain ⟨m₁', hm₁', hpatterns', h'⟩ := exists_candidates_eq hagrees (hsame.trans hfresh)
    rw [h, h']
    exact ⟨rfl, ⟨hm₁, hpatterns ▸ hm.patterns⟩,
      ⟨Registry.agrees_withPatterns.mp hm₁', hpatterns' ▸ hm'.patterns⟩⟩
  | error f =>
    rw [candidates_eq_error hm.candidates hfresh,
      candidates_eq_error hagrees (hsame.trans hfresh)]
    exact ⟨.refl _, hm, hm'⟩

/-- **A filled-in pattern has its text whatever is remembered.** -/
theorem alike_compilePattern (pattern location : String) :
    Alike ctx (fun regex regex' ↦ regex'.pattern = regex.pattern)
      (compilePattern pattern location) (compilePattern pattern location) := by
  intro m m' hm hm'
  obtain ⟨hpattern, hsound⟩ := hm.patterns.compile pattern location
  obtain ⟨hpattern', hsound'⟩ := hm'.patterns.compile pattern location
  exact ⟨hpattern'.trans hpattern.symm, ⟨hm.candidates, hsound⟩, ⟨hm'.candidates, hsound'⟩⟩

end Tokenizing

/-- Patterns with the same text are searched alike. -/
theorem Regex.search_of_pattern_eq {regex regex' : Regex} (h : regex'.pattern = regex.pattern)
    (t : IndexedText) (range : Span) (a : LiveAnchors) (E : Engine) :
    regex'.search t range a E = regex.search t range a E ∨
      ∃ cause, regex.search t range a E = .error (.refused (regex.error cause)) ∧
        regex'.search t range a E = .error (.refused (regex'.error cause)) := by
  have hcompiled : E.compiled regex' a = E.compiled regex a := by
    rw [E.compiled_eq, E.compiled_eq, h]
  cases hc : E.compiled regex a with
  | ok matcher =>
    have hmatcher : regex'.compiled a E = .ok matcher ∧ regex.compiled a E = .ok matcher := by
      rw [compiled, compiled, hcompiled, hc]
      exact ⟨rfl, rfl⟩
    rw [search, search, hmatcher.1, hmatcher.2]
    exact .inl rfl
  | error cause =>
    have herror : regex'.compiled a E = .error (regex'.error cause) ∧
        regex.compiled a E = .error (regex.error cause) := by
      rw [compiled, compiled, hcompiled, hc]
      exact ⟨rfl, rfl⟩
    rw [search, search, herror.1, herror.2]
    exact .inr ⟨cause, rfl, rfl⟩

namespace Tokenizing

variable {ctx : Context} {line : LineText} {patterns : PatternCache}

/-- Patterns of the same text are searched alike: if they are refused, only the location differs. -/
theorem alike_search {regex regex' : Regex} (h : regex'.pattern = regex.pattern) (range : Span)
    (live : LiveAnchors) :
    Alike ctx Eq (search ctx line regex range live)
      (search (ctx.withPatterns patterns) line regex' range live) := by
  have hengine : search (ctx.withPatterns patterns) line regex' range live =
      search ctx line regex' range live := rfl
  rw [hengine, search, search]
  obtain heq | ⟨cause, hrefused, hrefused'⟩ :=
    Regex.search_of_pattern_eq h line.indexed range live ctx.engine
  · rw [heq]
    split
    · exact alike_pure rfl
    all_goals exact alike_throw (.refl _)
  · rw [hrefused, hrefused']
    exact alike_throw (.regex h rfl)

end Tokenizing

end ScopeGrammar
