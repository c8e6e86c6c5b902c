import Mathlib.Logic.Function.Basic
import ScopeGrammar.Proofs.Tokenizer.AlikeLines

/-!
# Sessions of one registry

Any number of sessions go through their documents with one registry, a line of this one and a line
of that one. What they share are the filled-in patterns, and each remembers the candidates that it
found. None of it shows (`Session.interleave_alike`): every line of a session comes to the same as
if the session were the only one and nothing had been remembered, but for the location that an error
gives for a refused pattern.

The step is one call (`Session.answer_alike`): sessions that are alike answer it alike in any two
registries with faithful patterns, and are alike again. A call of another session changes the shared
patterns at most, and leaves them faithful. What a pattern compiles to under each choice of live
anchors is kept with the pattern and a function of its text (`Engine.compiled_eq`), so that it is
the same for all patterns of one text.
-/

namespace ScopeGrammar

open Tokenizing

/-! ### Calls -/

/-- A call of one of some sessions. -/
structure Call where
  /-- Which session tokenizes a line. -/
  session : Nat
  /-- The line, if it is not the next one of the document. -/
  line : Option String
  fuel : Nat

namespace Session

/-- What a call of a session comes to. -/
def answer (s : Session) (r : Registry) (c : Call) : LineReport :=
  match c.line with
  | some line => s.tokenizeLine r line c.fuel
  | none => s.tokenizeNext r c.fuel

/-- What calls of some sessions come to, with the numbers of the sessions. -/
def interleave (r : Registry) (pool : Nat → Session) : List Call → List (Nat × LineReport)
  | [] => []
  | c :: cs =>
    let report := (pool c.session).answer r c
    (c.session, report) ::
      interleave report.registry (Function.update pool c.session report.session) cs

/-- What calls come to if all of them are of one session. -/
def alone (r : Registry) (s : Session) : List Call → List LineReport
  | [] => []
  | c :: cs =>
    let report := s.answer r c
    report :: alone report.registry report.session cs

/-- The calls of a session. -/
def callsOf (k : Nat) (calls : List Call) : List Call :=
  calls.filter (·.session = k)

/-- What the calls of a session come to. -/
def reportsOf (k : Nat) (reports : List (Nat × LineReport)) : List LineReport :=
  (reports.filter (·.1 = k)).map (·.2)

/-- The session is at the start of a document. -/
def Starts (r : Registry) (s : Session) : Prop :=
  ∃ base lines E s₀ trace, ofLines r base lines E = .ok s₀ ∧ s = { s₀ with trace := trace }

end Session

/-! ### What may differ -/

/-- The same tokens, or failures that are alike. -/
inductive TokensAlike : Except Failure (List Token) → Except Failure (List Token) → Prop
  | ok (tokens : List Token) : TokensAlike (.ok tokens) (.ok tokens)
  | error {e e' : Failure} (h : e.Alike e') : TokensAlike (.error e) (.error e')

/-- What tokenizing a line comes to is the same but for the locations of patterns. -/
structure LineReport.Alike (report report' : LineReport) : Prop where
  result : TokensAlike report.result report'.result
  stack : report.session.stack.Alike report'.session.stack
  /-- The stacks look the same. -/
  described : report'.session.describeStack = report.session.describeStack
  lost : report'.session.lost = report.session.lost

/-- Sessions that are the same but for the locations of patterns and for the candidates that they
know, which would be found again. -/
structure Session.Alike (r : Registry) (s s' : Session) : Prop where
  stack : s.stack.Alike s'.stack
  same : s' = { s with stack := s'.stack, candidates := s'.candidates }
  candidates : r.Agrees s.base s.candidates
  candidates' : r.Agrees s.base s'.candidates

theorem Frame.Alike.refl (f : Frame) : f.Alike f := by
  cases f with
  | region r =>
    have hexit : r.exit.Alike r.exit := by
      cases r.exit with
      | fixed grammar regex => exact .fixed grammar regex
      | filled regex => exact .filled rfl
    exact .region r hexit
  | captured c => exact .captured c

/-- Descriptions do not tell where a pattern is written. -/
theorem Frame.Alike.describe_eq {f f' : Frame} (h : f.Alike f') :
    Stack.describeFrame f' = Stack.describeFrame f := by
  cases h with
  | region r hexit =>
    obtain ⟨_, _, _, _, _, _, _, _, _, _⟩ := r
    cases hexit with
    | fixed => rfl
    | filled h => simp only [Stack.describeFrame, h]
  | captured c => rfl

/-- Frames that are alike are described alike: of an exit pattern that was filled in, a description
shows the text only. -/
theorem FramesAlike.map_describe {frames frames' : List Frame} (h : FramesAlike frames frames') :
    frames'.map Stack.describeFrame = frames.map Stack.describeFrame := by
  induction h with
  | nil => rfl
  | cons hf _ ih => rw [List.map_cons, List.map_cons, ih, hf.describe_eq]

namespace Stack

variable {s s' : Stack}

theorem Alike.refl (s : Stack) : s.Alike s :=
  ⟨s.frames, List.forall₂_same.mpr fun f _ ↦ .refl f, rfl⟩

/-- Whether the text that began the innermost region took in the end of its line is the same. -/
theorem Alike.tookLineEnd_eq (h : s.Alike s') : s'.tookLineEnd = s.tookLineEnd := by
  obtain ⟨frames, hframes, rfl⟩ := h
  exact tookLineEnd_withFrames hframes

/-- Stacks that are alike go to the next line alike. -/
theorem Alike.forNextLine (h : s.Alike s') : s.forNextLine.Alike s'.forNextLine := by
  obtain ⟨frames, hframes, rfl⟩ := h
  exact ⟨_, hframes.forNextLine, rfl⟩

/-- Stacks that are alike stay alike without the frames that end at a bound. -/
theorem Alike.withoutBounded (h : s.Alike s') : s.withoutBounded.Alike s'.withoutBounded := by
  obtain ⟨frames, hframes, rfl⟩ := h
  exact ⟨_, hframes.filter_bound, rfl⟩

/-- Stacks that are alike are described alike. -/
theorem Alike.describe_eq (h : s.Alike s') : s'.describe = s.describe := by
  obtain ⟨frames, hframes, rfl⟩ := h
  rw [describe, describe]
  dsimp only [withFrames]
  rw [List.map_reverse, hframes.map_describe, ← List.map_reverse]

end Stack

/-- Lines that begin with stacks that are alike begin in states that are alike. -/
theorem LineState.Alike.start {s s' : Stack} (h : s.Alike s') (firstLine : Bool)
    (line : LineText) :
    LineState.Alike (.start s firstLine line) (.start s' firstLine line) := by
  have htook : s'.tookLineEnd = s.tookLineEnd := h.tookLineEnd_eq
  obtain ⟨frames, hframes, rfl⟩ := h
  refine ⟨frames, hframes, ?_⟩
  rw [LineState.start, htook]
  rfl

/-- A failure is a fault just if the one that it is alike to is. -/
theorem Failure.Alike.isFault_eq {e e' : Failure} (h : e.Alike e') : e'.isFault = e.isFault := by
  cases h <;> rfl

namespace Tokenizing.ReportsAlike

variable {ctx : Context} {report report' : ScanReport}

/-- One line ends in a fault just if the other does. -/
theorem any_isFault_eq (h : ReportsAlike ctx report report') :
    report'.failure.any Failure.isFault = report.failure.any Failure.isFault := by
  have hrel := h.failure
  generalize report.failure = failure at hrel ⊢
  generalize report'.failure = failure' at hrel ⊢
  cases hrel with
  | none => rfl
  | some he => exact he.isFault_eq

/-- The stacks that two lines leave are alike. -/
theorem stackAfter (h : ReportsAlike ctx report report') :
    (Session.stackAfter report).Alike (Session.stackAfter report') := by
  rw [Session.stackAfter, Session.stackAfter, h.isSome_eq]
  split
  · exact h.state.stack.withoutBounded.forNextLine
  · exact h.state.stack.forNextLine

/-- The results of two lines are alike: the same tokens, or failures that are alike. -/
theorem result (h : ReportsAlike ctx report report') :
    TokensAlike
      (match report.failure with
        | none => .ok report.state.row.tokens
        | some failure => .error failure)
      (match report'.failure with
        | none => .ok report'.state.row.tokens
        | some failure => .error failure) := by
  have hrel := h.failure
  have hrow := h.state.row_eq
  obtain ⟨state, memory, failure⟩ := report
  obtain ⟨state', memory', failure'⟩ := report'
  cases hrel with
  | none =>
    dsimp only at hrow ⊢
    rw [hrow]
    exact .ok _
  | some he => exact .error he

end Tokenizing.ReportsAlike

/-! ### Lines of sessions -/

namespace Session

variable {r : Registry} {s s' : Session} {patterns patterns' : PatternCache}

theorem Alike.refl (h : r.Agrees s.base s.candidates) : s.Alike r s :=
  ⟨.refl s.stack, rfl, h, h⟩

/-- A session begins with nothing remembered that would not be found again. -/
theorem Starts.agrees (h : s.Starts r) : r.Agrees s.base s.candidates := by
  obtain ⟨base, lines, E, s₀, trace, hs₀, rfl⟩ := h
  exact (Reachable.start lines hs₀).agrees

/-- Sessions with stacks that are alike show the same description. -/
theorem describeStack_alike (hlost : s'.lost = s.lost) (h : s.stack.Alike s'.stack) :
    s'.describeStack = s.describeStack := by
  rw [describeStack, describeStack, hlost, h.describe_eq]

/-- What a call comes to in a registry with faithful patterns, with all that is promised of it. -/
structure AnswersAlike (r : Registry) (report report' : LineReport) : Prop where
  alike : report.Alike report'
  sessions : report.session.Alike r report'.session
  registry : ∃ patterns, patterns.IsFaithful ∧ report.registry = r.withPatterns patterns
  registry' : ∃ patterns, patterns.IsFaithful ∧ report'.registry = r.withPatterns patterns

/-- **A line of a session is tokenized alike whatever is remembered.** -/
theorem tokenizeLine_alike (h : s.Alike r s') (hp : patterns.IsFaithful)
    (hp' : patterns'.IsFaithful) (line : String) (fuel : Nat) :
    AnswersAlike r (s.tokenizeLine (r.withPatterns patterns) line fuel)
      (s'.tokenizeLine (r.withPatterns patterns') line fuel) := by
  obtain ⟨hstack, hsame, hagrees, hagrees'⟩ := h
  have hlost : s'.lost = s.lost := by rw [hsame]
  rw [tokenizeLine, tokenizeLine, hlost]
  split
  · exact ⟨⟨.error (.refl _), hstack, describeStack_alike hlost hstack, hlost⟩,
      ⟨hstack, hsame, hagrees, hagrees'⟩, ⟨patterns, hp, rfl⟩, ⟨patterns', hp', rfl⟩⟩
  · have hm : Memory.IsFaithful (s.context (r.withPatterns patterns))
        { candidates := s.candidates, patterns := patterns } :=
      ⟨memory_agrees hagrees patterns, hp⟩
    have hm' : Memory.IsFaithful (s.context (r.withPatterns patterns))
        { candidates := s'.candidates, patterns := patterns' } :=
      ⟨Registry.agrees_withPatterns.mpr hagrees', hp'⟩
    have hstart : LineState.Alike (.start s.stack s.firstLine (.ofLine line))
        (.start s'.stack s'.firstLine (.ofLine line)) := by
      have hfirst : s'.firstLine = s.firstLine := by rw [hsame]
      rw [hfirst]
      exact .start hstack _ _
    have hcontext : s'.context (r.withPatterns patterns') =
        (s.context (r.withPatterns patterns)).withPatterns patterns' := by
      rw [hsame]
      rfl
    have hreport : ReportsAlike (s.context (r.withPatterns patterns))
        (s.scanNext (r.withPatterns patterns) (.ofLine line) fuel)
        (s'.scanNext (r.withPatterns patterns') (.ofLine line) fuel) := by
      rw [scanNext, scanNext, hcontext]
      exact scanLine_alike fuel hstart hm hm'
    generalize s.scanNext (r.withPatterns patterns) (.ofLine line) fuel = report at hreport ⊢
    generalize s'.scanNext (r.withPatterns patterns') (.ofLine line) fuel = report' at hreport ⊢
    have hafter := hreport.stackAfter
    have hfault := hreport.any_isFault_eq
    refine ⟨⟨hreport.result, hafter, describeStack_alike hfault hafter, hfault⟩,
      ⟨hafter, ?_, Registry.agrees_withPatterns.mp hreport.memory.candidates,
        Registry.agrees_withPatterns.mp hreport.memory'.candidates⟩,
      ⟨_, hreport.memory.patterns, rfl⟩, ⟨_, hreport.memory'.patterns, rfl⟩⟩
    rw [hsame]
    dsimp only
    rw [hfault]

/-- **Every call of a session is answered alike**, whichever patterns are remembered. -/
theorem answer_alike (h : s.Alike r s') (hp : patterns.IsFaithful) (hp' : patterns'.IsFaithful)
    (c : Call) :
    AnswersAlike r (s.answer (r.withPatterns patterns) c)
      (s'.answer (r.withPatterns patterns') c) := by
  rw [answer, answer]
  cases c.line with
  | some line => exact tokenizeLine_alike h hp hp' line c.fuel
  | none =>
    obtain ⟨hstack, hsame, hagrees, hagrees'⟩ := h
    have hlines : s'.lines[s'.nextLine]? = s.lines[s.nextLine]? := by rw [hsame]
    dsimp only
    rw [tokenizeNext, tokenizeNext, hlines]
    split
    · have hlost : s'.lost = s.lost := by rw [hsame]
      exact ⟨⟨.ok [], hstack, describeStack_alike hlost hstack, hlost⟩,
        ⟨hstack, hsame, hagrees, hagrees'⟩, ⟨patterns, hp, rfl⟩, ⟨patterns', hp', rfl⟩⟩
    · have hnext : Alike r { s with nextLine := s.nextLine + 1 }
          { s' with nextLine := s'.nextLine + 1 } := by
        refine ⟨hstack, ?_, hagrees, hagrees'⟩
        rw [hsame]
      exact tokenizeLine_alike hnext hp hp' _ _

end Session

/-! ### Registries in use -/

/-- The registries that come about by adding grammars and injections and by tokenizing lines. -/
inductive Registry.Arises : Registry → Prop
  | empty : Arises {}
  | add {r r' : Registry} {g : Grammar} {id : GrammarId} (hr : Arises r)
      (h : r.add g = .ok (id, r')) : Arises r'
  | injection {r : Registry} (hr : Arises r) (scopeName : String) :
      Arises (r.addInjectionScope scopeName)
  | line {r : Registry} (hr : Arises r) {E : Engine} {base : GrammarId} {s : Session}
      (hs : Session.Reachable E r base s) (line : String) (fuel : Nat) :
      Arises (s.tokenizeLine r line fuel).registry

/-- The patterns that a registry remembers are known by their own texts. -/
theorem Registry.Arises.isFaithful {r : Registry} (hr : r.Arises) : r.patterns.IsFaithful := by
  induction hr with
  | empty => exact PatternCache.isFaithful_empty
  | add _ h ih =>
    rw [Registry.add] at h
    split at h
    · obtain ⟨-, rfl⟩ := Prod.mk.inj (Except.ok.inj h)
      exact ih
    · contradiction
  | injection _ scopeName ih =>
    rw [addInjectionScope]
    split <;> exact ih
  | line _ hs line fuel ih =>
    obtain ⟨patterns, hp, hregistry⟩ :=
      (Session.tokenizeLine_alike (.refl hs.agrees) ih ih line fuel).registry
    have hpatterns := congrArg Registry.patterns hregistry
    exact hpatterns ▸ hp

/-! ### Lines of several sessions -/

namespace Session

variable {r : Registry} {s' : Session} {patterns patterns' : PatternCache} {pool : Nat → Session}

/-- The sessions remember what would be found again, also after a call. -/
theorem agrees_update (hpool : ∀ k, r.Agrees (pool k).base (pool k).candidates)
    (hp : patterns.IsFaithful) (c : Call) (k : Nat) :
    r.Agrees
      (Function.update pool c.session
        ((pool c.session).answer (r.withPatterns patterns) c).session k).base
      (Function.update pool c.session
        ((pool c.session).answer (r.withPatterns patterns) c).session k).candidates := by
  obtain ⟨-, hsession, -, -⟩ := answer_alike (.refl (hpool c.session)) hp hp c
  by_cases hk : k = c.session
  · rw [hk, Function.update_self]
    exact hsession.candidates
  · rw [Function.update_of_ne hk]
    exact hpool k

/-- A session among others goes on like one that is alone. -/
theorem forall₂_alike_alone (hpool : ∀ k, r.Agrees (pool k).base (pool k).candidates)
    (hp : patterns.IsFaithful) (hp' : patterns'.IsFaithful) {k : Nat} (h : (pool k).Alike r s')
    (calls : List Call) :
    List.Forall₂ LineReport.Alike
      (reportsOf k (interleave (r.withPatterns patterns) pool calls))
      (alone (r.withPatterns patterns') s' (callsOf k calls)) := by
  induction calls generalizing pool patterns patterns' s' with
  | nil => exact .nil
  | cons c calls ih =>
    have hnext := agrees_update hpool hp c
    by_cases hk : c.session = k
    · -- the session itself: both go on
      subst hk
      obtain ⟨halike, hsessions, ⟨p, hp₁, hregistry⟩, ⟨p', hp₁', hregistry'⟩⟩ :=
        answer_alike h hp hp' c
      rw [callsOf, List.filter_cons_of_pos (by simp), alone, interleave, reportsOf,
        List.filter_cons_of_pos (by simp), List.map_cons]
      refine .cons halike ?_
      rw [hregistry, hregistry']
      refine ih hnext hp₁ hp₁' ?_
      rw [Function.update_self]
      exact hsessions
    · -- another session: the patterns change at most
      obtain ⟨-, -, ⟨p, hp₁, hregistry⟩, -⟩ := answer_alike (.refl (hpool c.session)) hp hp c
      rw [callsOf, List.filter_cons_of_neg (by simpa using hk), interleave, reportsOf,
        List.filter_cons_of_neg (by simpa using hk)]
      rw [hregistry]
      refine ih hnext hp₁ hp' ?_
      rw [Function.update_of_ne (Ne.symm hk)]
      exact h

/-- What is remembered stays faithful. -/
theorem faithful_of_mem_interleave (hpool : ∀ k, r.Agrees (pool k).base (pool k).candidates)
    (hp : patterns.IsFaithful) (calls : List Call) :
    ∀ q ∈ interleave (r.withPatterns patterns) pool calls,
      (∃ p, p.IsFaithful ∧ q.2.registry = r.withPatterns p) ∧
        r.Agrees q.2.session.base q.2.session.candidates := by
  induction calls generalizing pool patterns with
  | nil => exact fun q hq ↦ by cases hq
  | cons c calls ih =>
    intro q hq
    obtain ⟨-, hsession, hregistry, -⟩ := answer_alike (.refl (hpool c.session)) hp hp c
    rw [interleave] at hq
    rcases List.mem_cons.mp hq with rfl | hq
    · exact ⟨hregistry, hsession.candidates⟩
    · obtain ⟨p, hp₁, hregistry⟩ := hregistry
      rw [hregistry] at hq
      exact ih (agrees_update hpool hp c) hp₁ q hq

/-- **What is remembered does not show.** When some sessions go through their documents with one
registry, a line of this one and a line of that one, every line of a session comes to the same as if
the session were the only one and no pattern had been filled in before: the same tokens, the same
stack and the same failure, but for the location of a refused pattern. After each line, which may
have been left after any number of steps, the filled-in patterns are known by their own texts and
are no more than their cache holds, and the candidates that are known would be found again. -/
theorem interleave_alike (hr : r.Arises) (hpool : ∀ k, (pool k).Starts r) (calls : List Call) :
    (∀ k, List.Forall₂ LineReport.Alike (reportsOf k (interleave r pool calls))
      (alone (r.withPatterns {}) (pool k) (callsOf k calls))) ∧
    ∀ q ∈ interleave r pool calls,
      (∃ patterns, patterns.IsFaithful ∧ q.2.registry = r.withPatterns patterns) ∧
        r.Agrees q.2.session.base q.2.session.candidates := by
  have hagrees : ∀ k, r.Agrees (pool k).base (pool k).candidates := fun k ↦ (hpool k).agrees
  exact ⟨fun k ↦ forall₂_alike_alone hagrees hr.isFaithful PatternCache.isFaithful_empty
    (.refl (hagrees k)) calls, faithful_of_mem_interleave hagrees hr.isFaithful calls⟩

/-- Two sessions take a line in turn, and the second comes to the same as if it were alone. -/
theorem interleave_alike_parens :
    Registry.parens.Arises ∧ (parens .literal).Starts .parens ∧
      List.Forall₂ LineReport.Alike
        (reportsOf 1 (interleave .parens (fun _ ↦ parens .literal)
          [⟨0, some "a(", 2⟩, ⟨1, some "a(", 2⟩]))
        [(parens .literal).tokenizeLine (Registry.parens.withPatterns {}) "a(" 2] ∧
      ((parens .literal).tokenizeLine (Registry.parens.withPatterns {}) "a(" 2).result =
        .ok [⟨⟨0, 1⟩, .ofRoot (.ofString "text")⟩, ⟨⟨1, 2⟩, .ofRoot (.ofString "text")⟩] := by
  have hr : Registry.parens.Arises := .add .empty Registry.add_parens
  have hstart : (parens .literal).Starts .parens := ⟨0, [], .literal, _, false, rfl, rfl⟩
  have h := (interleave_alike hr (fun _ ↦ hstart) [⟨0, some "a(", 2⟩, ⟨1, some "a(", 2⟩]).1 1
  exact ⟨hr, hstart, h, tokenizeLine_parens⟩

end Session

end ScopeGrammar
