import ScopeGrammar.Proofs.Tokenizer.Alike

/-!
# Lines are tokenized alike

Everything that a line does with frames that are alike is alike: it looks at the rules, scopes and
bounds of frames, which are the same, and searches their exit patterns. So a line that is tokenized
with whatever is remembered gives the same tokens, leaves stacks that are alike and fails alike
(`scanLine_alike`).
-/

namespace ScopeGrammar

open Tokenizing

/-! ### Frames that are alike -/

namespace Stack

variable {s : Stack} {frames : List Frame}

/-- What is seen of a stack is the same with frames that are alike, if only the innermost of them is
looked at and its exit pattern is not. -/
theorem view_withFrames {α : Type} (view : Stack → α) (h : FramesAlike s.frames frames)
    (hregion : ∀ (r : Region) (exit : ExitPattern) (below below' : List Frame),
      view (s.withFrames (.region { r with exit := exit } :: below')) =
        view (s.withFrames (.region r :: below)))
    (hcaptured : ∀ (c : CapturedText) (below below' : List Frame),
      view (s.withFrames (.captured c :: below')) = view (s.withFrames (.captured c :: below))) :
    view (s.withFrames frames) = view s := by
  obtain ⟨grammar, scope, fs⟩ := s
  cases h with
  | nil => rfl
  | @cons _ _ below below' hf =>
    cases hf with
    | @region r exit _ => exact hregion r exit below below'
    | captured c => exact hcaptured c below below'

/-- Frames that are alike have the same scopes. -/
theorem scopes_withFrames (h : FramesAlike s.frames frames) :
    (s.withFrames frames).scopes = s.scopes :=
  view_withFrames scopes h (fun _ _ _ _ ↦ rfl) fun _ _ _ ↦ rfl

/-- The innermost frame has the rules of the same rule. -/
theorem owner?_withFrames (h : FramesAlike s.frames frames) :
    (s.withFrames frames).owner? = s.owner? :=
  view_withFrames owner? h (fun _ _ _ _ ↦ rfl) fun _ _ _ ↦ rfl

/-- The innermost frame ends at the same bound. -/
theorem bound?_withFrames (h : FramesAlike s.frames frames) :
    (s.withFrames frames).bound? = s.bound? :=
  view_withFrames bound? h (fun _ _ _ _ ↦ rfl) fun _ _ _ ↦ rfl

/-- Whether the text that began the innermost region took in the end of its line is the same. -/
theorem tookLineEnd_withFrames (h : FramesAlike s.frames frames) :
    (s.withFrames frames).tookLineEnd = s.tookLineEnd :=
  view_withFrames tookLineEnd h (fun _ _ _ _ ↦ rfl) fun _ _ _ ↦ rfl

/-- The end pattern is tried in the same place; which pattern it is may differ, but not what it
says. -/
theorem exitCandidate_withFrames (h : FramesAlike s.frames frames) (last : Bool) :
    exitCandidate (s.withFrames frames) last = exitCandidate s last :=
  view_withFrames (exitCandidate · last) h (fun _ _ _ _ ↦ rfl) fun _ _ _ ↦ rfl

/-- A rule was entered at a position in one stack just if it was in the other. -/
theorem hasEnteredAt_withFrames (h : FramesAlike s.frames frames) (rule : RuleRef)
    (position : Nat) :
    (s.withFrames frames).hasEnteredAt rule position = s.hasEnteredAt rule position := by
  obtain ⟨grammar, scope, fs⟩ := s
  replace h : FramesAlike fs frames := h
  show (frames.takeWhile _).any _ = (fs.takeWhile _).any _
  induction h with
  | nil => rfl
  | @cons f f' _ _ hf _ ih =>
    have hentered : f'.enteredAt? = f.enteredAt? := by cases hf <;> rfl
    have howner : f'.owner? = f.owner? := by cases hf <;> rfl
    rw [List.takeWhile_cons, List.takeWhile_cons, hentered]
    split
    · rw [List.any_cons, List.any_cons, ih, howner]
    · rfl

end Stack

/-- Frames that end at a bound are left out on both sides. -/
theorem FramesAlike.filter_bound {frames frames' : List Frame} (h : FramesAlike frames frames') :
    FramesAlike (frames.filter fun f ↦ f.bound?.isNone) (frames'.filter fun f ↦ f.bound?.isNone) :=
  List.rel_filter (fun _ _ hf ↦ by cases hf <;> exact Iff.rfl) h

/-- Frames that are alike go to the next line alike. -/
theorem FramesAlike.forNextLine {frames frames' : List Frame} (h : FramesAlike frames frames') :
    FramesAlike (frames.map Frame.forNextLine) (frames'.map Frame.forNextLine) := by
  refine List.rel_map (fun f f' hf ↦ ?_) h
  cases hf with
  | region r hexit => exact .region { r with anchorBefore := none, enteredAt := none } hexit
  | captured c => exact .captured c

/-- There is a frame that ends at a bound on both sides or on neither. -/
theorem FramesAlike.any_bound {frames frames' : List Frame} (h : FramesAlike frames frames') :
    (frames'.any fun f ↦ f.bound?.isSome) = frames.any fun f ↦ f.bound?.isSome := by
  induction h with
  | nil => rfl
  | cons hf _ ih =>
    rw [List.any_cons, List.any_cons, ih]
    cases hf <;> rfl

/-! ### States that are alike -/

namespace LineState.Alike

variable {s s' : LineState}

/-- States that are alike stand at the same position. -/
theorem position_eq (h : s.Alike s') : s'.position = s.position := by
  obtain ⟨frames, -, rfl⟩ := h
  rfl

/-- States that are alike have made the same tokens. -/
theorem row_eq (h : s.Alike s') : s'.row = s.row := by
  obtain ⟨frames, -, rfl⟩ := h
  rfl

theorem stack (h : s.Alike s') : s.stack.Alike s'.stack := by
  obtain ⟨frames, hframes, rfl⟩ := h
  exact ⟨frames, hframes, rfl⟩

theorem frames (h : s.Alike s') : FramesAlike s.stack.frames s'.stack.frames := by
  obtain ⟨frames, hframes, rfl⟩ := h
  exact hframes

/-- Both states look for matches up to the same bound. -/
theorem bound?_eq (h : s.Alike s') : s'.stack.bound? = s.stack.bound? := by
  obtain ⟨frames, hframes, rfl⟩ := h
  exact Stack.bound?_withFrames hframes

/-- The token that is being made is made longer on both sides. -/
theorem extendContent (h : s.Alike s') (position : Nat) :
    (s.extendContent position).Alike (s'.extendContent position) := by
  obtain ⟨frames, hframes, rfl⟩ := h
  refine ⟨frames, hframes, ?_⟩
  show LineState.extend _ position (s.stack.withFrames frames).scopes = _
  rw [Stack.scopes_withFrames hframes]
  rfl

/-- Captures that start before the position are passed over on both sides. -/
theorem dropPassed (h : s.Alike s') : s.dropPassed.Alike s'.dropPassed := by
  obtain ⟨frames, hframes, rfl⟩ := h
  obtain ⟨⟨grammar, scope, fs⟩, position, anchor, atTextStart, row⟩ := s
  cases hframes with
  | nil => exact ⟨[], .nil, rfl⟩
  | cons hf ht =>
    cases hf with
    | region r hexit => exact ⟨_, .cons (.region r hexit) ht, rfl⟩
    | captured c =>
      exact ⟨_, .cons (.captured { c with pending := pendingFrom position c.pending }) ht, rfl⟩

/-- The capture that is entered next is the same. -/
theorem nextCapture?_eq (h : s.Alike s') : s'.nextCapture? = s.nextCapture? := by
  obtain ⟨frames, hframes, rfl⟩ := h
  obtain ⟨⟨grammar, scope, fs⟩, position, anchor, atTextStart, row⟩ := s
  cases hframes with
  | nil => rfl
  | cons hf => cases hf <;> rfl

theorem openCapture (h : s.Alike s') (t : CaptureTree CapturedScopes) :
    (s.openCapture t).Alike (s'.openCapture t) := by
  obtain ⟨frames, hframes, rfl⟩ := h
  obtain ⟨⟨grammar, scope, fs⟩, position, anchor, atTextStart, row⟩ := s
  cases hframes with
  | nil => exact ⟨_, .cons (.captured _) .nil, rfl⟩
  | cons hf ht =>
    cases hf with
    | region r hexit => exact ⟨_, .cons (.captured _) (.cons (.region r hexit) ht), rfl⟩
    | captured c =>
      exact ⟨_, .cons (.captured _)
        (.cons (.captured { c with pending := c.pending.tail }) ht), rfl⟩

/-- A line that is stopped is stopped alike, with any frames that are alike put back. -/
theorem stopLine {line : LineText} {frames frames' : List Frame}
    (hframes : FramesAlike frames frames') (h : s.Alike s') :
    (stopLine line s frames).Alike (stopLine line s' frames') := by
  have hhere : ∀ {s s' : LineState} {frames frames' : List Frame}, s.Alike s' →
      FramesAlike frames frames' →
      (stopLine.stopHere line s frames).Alike (stopLine.stopHere line s' frames') := by
    intro s s' frames frames' hs hframes
    obtain ⟨_, -, rfl⟩ := hs
    have hinner : LineState.Alike { s with stack := { s.stack with frames := frames } }
        { s with stack := { s.stack with frames := frames' } } := ⟨frames', hframes, rfl⟩
    obtain ⟨frames'', hframes'', heq⟩ := hinner.extendContent line.stop
    refine ⟨frames'', hframes'', ?_⟩
    show { LineState.extendContent { s with stack := { s.stack with frames := frames' } } line.stop
      with position := line.stop } = _
    rw [heq]
    rfl
  induction hframes generalizing s s' with
  | nil => exact hhere h .nil
  | cons hf ht ih =>
    obtain ⟨fs, hfs, rfl⟩ := h
    cases hf with
    | region r hexit =>
      rw [Tokenizing.stopLine, Tokenizing.stopLine]
      dsimp only [Frame.bound?]
      split
      · exact ih ⟨fs, hfs, rfl⟩
      · exact hhere ⟨fs, hfs, rfl⟩ (.cons (.region r hexit) ht)
    | captured c => exact ih ⟨fs, hfs, rfl⟩

end LineState.Alike

namespace Tokenizing

variable {ctx : Context} {line : LineText} {patterns : PatternCache}

/-! ### Searching -/

/-- What injections offer does not depend on the patterns that are remembered. -/
theorem alike_injectedCandidates (injected : List (Precedence × RuleRef)) :
    Alike ctx Eq (injectedCandidates ctx injected)
      (injectedCandidates (ctx.withPatterns patterns) injected) := by
  induction injected with
  | nil => exact alike_pure rfl
  | cons i rest ih =>
    exact (alike_candidates _ _).bind_eq fun _ ↦ ih.bind_eq fun _ ↦ alike_pure rfl

/-- All that can match in the innermost frame is the same, in the same order. -/
theorem alike_orderedCandidates {stack : Stack} {frames : List Frame}
    (h : FramesAlike stack.frames frames) (owner : RuleRef) :
    Alike ctx Eq (orderedCandidates ctx stack owner)
      (orderedCandidates (ctx.withPatterns patterns) (stack.withFrames frames) owner) := by
  rw [orderedCandidates, orderedCandidates]
  simp only [Stack.scopes_withFrames h, Stack.exitCandidate_withFrames h]
  exact (alike_injectedCandidates _).bind_eq fun _ ↦ (alike_candidates _ _).bind_eq fun _ ↦
    (alike_injectedCandidates _).bind_eq fun _ ↦ alike_pure rfl

/-- Regular expressions with the same text, if there are any. -/
abbrev RegexesAlike : Option Regex → Option Regex → Prop :=
  Option.Rel fun regex regex' ↦ regex'.pattern = regex.pattern

/-- An end pattern says the same on both sides, though its location may differ. -/
theorem alike_exitRegex {exit exit' : ExitPattern} (h : exit.Alike exit') :
    Alike ctx (fun regex regex' ↦ regex'.pattern = regex.pattern)
      (ofFault (exit.regex ctx.registry))
      (ofFault (exit'.regex (ctx.withPatterns patterns).registry)) := by
  cases h with
  | fixed grammar regex =>
    exact (alike_ofFault _).mono fun _ _ heq ↦ congrArg Regex.pattern heq.symm
  | filled h => exact alike_pure h

/-- The patterns of a candidate say the same on both sides. -/
theorem alike_candidateRegex {stack : Stack} {frames : List Frame}
    (h : FramesAlike stack.frames frames) (c : Candidate) :
    Alike ctx RegexesAlike (candidateRegex ctx stack c)
      (candidateRegex (ctx.withPatterns patterns) (stack.withFrames frames) c) := by
  cases c with
  | exit =>
    obtain ⟨grammar, scope, fs⟩ := stack
    cases h with
    | nil => exact alike_pure .none
    | cons hf =>
      cases hf with
      | region r hexit => exact (alike_exitRegex hexit).map fun _ _ h ↦ .some h
      | captured c => exact alike_pure .none
  | rule ref =>
    refine (alike_ofFault (ctx.registry.grammar ref.grammar)).bind_eq fun g ↦
      (alike_ofFault (g.rule ref.rule)).bind_eq fun rule ↦ ?_
    cases rule.entry? with
    | none => exact alike_pure .none
    | some id => exact (alike_ofFault _).map fun _ _ heq ↦ .some (congrArg Regex.pattern heq.symm)

/-- Patterns that say the same match at the same place, so that the best match is the same. -/
theorem alike_bestOf {s : LineState} {frames : List Frame} (h : FramesAlike s.stack.frames frames)
    (bound : Nat) (best : Option (Match × Candidate)) (cs : List Candidate) :
    Alike ctx Eq (bestOf ctx line s bound best cs)
      (bestOf (ctx.withPatterns patterns) line (s.withFrames frames) bound best cs) := by
  induction cs generalizing best with
  | nil => exact alike_pure rfl
  | cons c cs ih =>
    refine (alike_candidateRegex h c).bind fun regex regex' hregex ↦ ?_
    cases hregex with
    | none => exact ih best
    | some hregex =>
      refine (alike_search hregex _ _).bind_eq fun found ↦ ?_
      cases found with
      | none => exact ih best
      | some m =>
        dsimp only
        split
        · split
          · rename_i hstart
            rw [if_pos (show m.start = (s.withFrames frames).position from hstart)]
            exact alike_pure rfl
          · rename_i hstart
            rw [if_neg (show ¬ m.start = (s.withFrames frames).position from hstart)]
            exact ih _
        · exact ih best

/-- The next match is the same, and it is one of the same candidate. -/
theorem alike_nextMatch {s s' : LineState} (h : s.Alike s') (bound : Nat) :
    Alike ctx Eq (nextMatch ctx line s bound)
      (nextMatch (ctx.withPatterns patterns) line s' bound) := by
  rw [nextMatch, nextMatch, h.bound?_eq, h.position_eq, h.nextCapture?_eq]
  split
  · exact alike_pure rfl
  · obtain ⟨frames, hframes, rfl⟩ := h
    have hbest : Alike ctx Eq (findBest ctx line s bound)
        (findBest (ctx.withPatterns patterns) line (s.withFrames frames) bound) := by
      have howner : (s.withFrames frames).stack.owner? = s.stack.owner? :=
        Stack.owner?_withFrames hframes
      rw [findBest, findBest, howner]
      split
      · exact alike_pure rfl
      · exact (alike_orderedCandidates hframes _).bind_eq fun _ ↦ alike_bestOf hframes _ _ _
    refine hbest.bind_eq fun found ↦ ?_
    split <;> exact alike_pure rfl

/-! ### Applying a match -/

/-- States that are alike, with or without a frame opened for captures. -/
def EnteredAlike (e e' : LineState × Bool) : Prop :=
  e.1.Alike e'.1 ∧ e'.2 = e.2

/-- No state, or states that are alike. -/
abbrev NextAlike : Option LineState → Option LineState → Prop :=
  Option.Rel LineState.Alike

/-- Captures are entered alike: what they hold depends on the match and the line alone. -/
theorem alike_enterCaptures {s s' : LineState} (h : s.Alike s') (m : Match) (path : ScopePath)
    (grammar : GrammarId) (captures : Captures) :
    Alike ctx EnteredAlike (enterCaptures line s m path grammar captures)
      (enterCaptures line s' m path grammar captures) := by
  obtain ⟨frames, hframes, rfl⟩ := h
  rw [enterCaptures, enterCaptures]
  split
  · exact alike_pure ⟨⟨frames, hframes, rfl⟩, rfl⟩
  · split
    · exact alike_pure ⟨⟨frames, hframes, rfl⟩, rfl⟩
    · refine (alike_capturedScopes _ _ _).bind_eq fun labels ↦ ?_
      split
      · exact alike_pure ⟨⟨_, .cons (.captured _) hframes, rfl⟩, rfl⟩
      · exact (alike_ofFault _).bind_eq fun spans ↦ alike_pure ⟨⟨frames, hframes, rfl⟩, rfl⟩

theorem EnteredAlike.advance {e e' : LineState × Bool} (h : EnteredAlike e e') (m : Match)
    (before : Nat) : (advance m before e).Alike (advance m before e') := by
  obtain ⟨⟨frames, hframes, hs⟩, hopened⟩ := h
  obtain ⟨s, opened⟩ := e
  obtain ⟨s', opened'⟩ := e'
  obtain rfl : s' = s.withFrames frames := hs
  obtain rfl : opened' = opened := hopened
  exact ⟨frames, hframes, rfl⟩

/-- The exit pattern of a new region is alike, whatever patterns are remembered. -/
theorem alike_exitPattern (ref : RuleRef) (r : RegionRule) (m : Match) :
    Alike ctx ExitPattern.Alike (exitPattern ctx line ref r m)
      (exitPattern (ctx.withPatterns patterns) line ref r m) := by
  rw [exitPattern, exitPattern]
  split
  · refine (alike_ofFault (ctx.registry.grammar ref.grammar)).bind_eq fun g ↦
      (alike_ofFault (g.regex r.exit)).bind_eq fun template ↦
        (alike_ofFault _).bind_eq fun filled ↦ ?_
    split
    · exact (alike_compilePattern _ _).map fun _ _ ↦ .filled
    · exact alike_pure (.fixed _ _)
  · exact alike_pure (.fixed _ _)

/-- Regions that are the same but for exit patterns with the same text. -/
def RegionAlike (r r' : Region) : Prop :=
  ∃ exit, r.exit.Alike exit ∧ r' = { r with exit := exit }

/-- The frame of a new region is alike. -/
theorem alike_regionFrame {s s' : LineState} (h : s.Alike s') (ref : RuleRef) (r : RegionRule)
    (m : Match) :
    Alike ctx RegionAlike (regionFrame ctx line s ref r m)
      (regionFrame (ctx.withPatterns patterns) line s' ref r m) := by
  obtain ⟨frames, hframes, rfl⟩ := h
  have hscopes : (s.withFrames frames).stack.scopes = s.stack.scopes :=
    Stack.scopes_withFrames hframes
  have hbound : (s.withFrames frames).stack.bound? = s.stack.bound? :=
    Stack.bound?_withFrames hframes
  rw [regionFrame, regionFrame]
  refine (alike_exitPattern ref r m).bind fun exit exit' hexit ↦
    (alike_resolve m r.name).bind_eq fun names ↦
      (alike_resolve m r.contentName).bind_eq fun contents ↦ ?_
  rw [hscopes, hbound]
  exact (alike_trace _ _).bind_eq fun _ ↦ alike_pure ⟨exit', hexit, rfl⟩

/-- A region is closed alike. -/
theorem alike_applyExit {s s' : LineState} (h : s.Alike s') (m : Match) :
    Alike ctx NextAlike (applyExit ctx line s m)
      (applyExit (ctx.withPatterns patterns) line s' m) := by
  obtain ⟨frames, hframes, rfl⟩ := h
  obtain ⟨⟨grammar, scope, fs⟩, position, anchor, atTextStart, row⟩ := s
  cases hframes with
  | nil => exact alike_throw (.refl _)
  | @cons f f' below below' hf ht =>
    cases hf with
    | captured c => exact alike_throw (.refl _)
    | region r hexit =>
      have hclosed : LineState.Alike
          ⟨⟨grammar, scope, below⟩, position, r.anchorBefore, atTextStart, row⟩
          ⟨⟨grammar, scope, below'⟩, position, r.anchorBefore, atTextStart, row⟩ :=
        ⟨below', ht, rfl⟩
      show Alike ctx NextAlike
        (if m.stop ≤ position ∧ r.enteredAt = some position then _ else _)
        (if m.stop ≤ position ∧ r.enteredAt = some position then _ else _)
      by_cases hplace : m.stop ≤ position ∧ r.enteredAt = some position
      · rw [if_pos hplace, if_pos hplace]
        exact (alike_trace _ _).bind_eq fun _ ↦ alike_pure Option.Rel.none
      · rw [if_neg hplace, if_neg hplace]
        exact (alike_trace _ _).bind_eq fun _ ↦
          (alike_ofFault (ctx.registry.rule r.rule)).bind_eq fun rule ↦
            (alike_enterCaptures hclosed _ _ _ _).bind fun e e' he ↦
              alike_pure (.some (he.advance _ _))

/-- A rule that matches at one stroke is applied alike. -/
theorem alike_applySingle {s s' : LineState} (h : s.Alike s') (ref : RuleRef) (r : SingleRule)
    (m : Match) :
    Alike ctx NextAlike (applySingle ctx line s ref r m)
      (applySingle (ctx.withPatterns patterns) line s' ref r m) := by
  have hscopes : s'.stack.scopes = s.stack.scopes := by
    obtain ⟨frames, hframes, rfl⟩ := h
    exact Stack.scopes_withFrames hframes
  rw [applySingle, applySingle, h.position_eq, hscopes]
  split
  · exact (alike_trace _ _).bind_eq fun _ ↦ alike_pure .none
  · exact (alike_trace _ _).bind_eq fun _ ↦ (alike_resolve _ _).bind_eq fun names ↦
      (alike_enterCaptures h _ _ _ _).bind fun e e' he ↦ alike_pure (.some (he.advance _ _))

/-- A region is opened alike, or both lines are stopped by the loop guard. -/
theorem alike_applyRegion {s s' : LineState} (h : s.Alike s') (ref : RuleRef) (r : RegionRule)
    (m : Match) :
    Alike ctx NextAlike (applyRegion ctx line s ref r m)
      (applyRegion (ctx.withPatterns patterns) line s' ref r m) := by
  have hentered : s'.stack.hasEnteredAt ref s.position = s.stack.hasEnteredAt ref s.position := by
    obtain ⟨frames, hframes, rfl⟩ := h
    exact Stack.hasEnteredAt_withFrames hframes ref s.position
  rw [applyRegion, applyRegion, h.position_eq, hentered]
  split
  · exact (alike_trace _ _).bind_eq fun _ ↦ alike_pure .none
  · refine (alike_regionFrame h ref r m).bind fun region region' hregion ↦ ?_
    obtain ⟨exit, hexit, rfl⟩ := hregion
    obtain ⟨frames, hframes, rfl⟩ := h
    refine (alike_enterCaptures ⟨_, .cons (.region region hexit) hframes, rfl⟩ _ _ _ _).bind
      fun e e' he ↦ alike_pure (.some (he.advance _ _))

/-- A match is applied alike, whichever candidate it is of. -/
theorem alike_applyMatch {s s' : LineState} (h : s.Alike s') (m : Match) (c : Candidate) :
    Alike ctx NextAlike (applyMatch ctx line s m c)
      (applyMatch (ctx.withPatterns patterns) line s' m c) := by
  cases c with
  | exit => exact alike_applyExit h m
  | rule ref =>
    refine (alike_ofFault (ctx.registry.rule ref)).bind_eq fun rule ↦ ?_
    cases rule.body with
    | single r => exact alike_applySingle h ref r m
    | region r => exact alike_applyRegion h ref r m
    | includes => exact alike_throw (.refl _)
    | group => exact alike_throw (.refl _)

/-! ### Steps -/

/-- A frame that has come to its bound is closed alike. -/
theorem alike_closeAtBound {s s' : LineState} (h : s.Alike s') (stopDepth : Option Nat)
    (bound : Nat) :
    Alike ctx Step.Alike (closeAtBound ctx stopDepth bound s)
      (closeAtBound (ctx.withPatterns patterns) stopDepth bound s') := by
  obtain ⟨frames, hframes, heq⟩ := h.extendContent bound
  rw [closeAtBound, closeAtBound, heq, h.position_eq]
  generalize s.extendContent bound = t at hframes
  obtain ⟨⟨grammar, scope, fs⟩, position, anchor, atTextStart, row⟩ := t
  cases hframes with
  | nil => exact alike_pure (.done ⟨_, .nil, rfl⟩)
  | @cons f f' below below' hf ht =>
    have hdepth : below'.length = below.length := ht.length_eq.symm
    have hleft : ∀ anchor, LineState.Alike
        ⟨⟨grammar, scope, below⟩, max s.position bound, anchor, atTextStart, row⟩
        ⟨⟨grammar, scope, below'⟩, max s.position bound, anchor, atTextStart, row⟩ :=
      fun _ ↦ ⟨below', ht, rfl⟩
    have hnext : ∀ anchor, Step.Alike
        (if stopDepth = some (below.length + 1) then
          .done ⟨⟨grammar, scope, below⟩, max s.position bound, anchor, atTextStart, row⟩
        else .goOn ⟨⟨grammar, scope, below⟩, max s.position bound, anchor, atTextStart, row⟩)
        (if stopDepth = some (below'.length + 1) then
          .done ⟨⟨grammar, scope, below'⟩, max s.position bound, anchor, atTextStart, row⟩
        else .goOn ⟨⟨grammar, scope, below'⟩, max s.position bound, anchor, atTextStart, row⟩) := by
      intro anchor
      rw [hdepth]
      split
      · exact .done (hleft anchor)
      · exact .goOn (hleft anchor)
    cases hf with
    | region r hexit =>
      show Alike ctx Step.Alike (if r.bound.isNone then _ else _) (if r.bound.isNone then _ else _)
      by_cases hbound : r.bound.isNone
      · rw [if_pos hbound, if_pos hbound]
        exact alike_pure (.done ⟨_, .cons (.region r hexit) ht, rfl⟩)
      · rw [if_neg hbound, if_neg hbound]
        exact (alike_trace _ _).bind_eq fun _ ↦ alike_pure (hnext r.anchorBefore)
    | captured c => exact alike_pure (hnext anchor)

/-- **A step is alike whatever is remembered.** -/
theorem alike_step {s s' : LineState} (h : s.Alike s') (stopDepth : Option Nat) :
    Alike ctx Step.Alike (step ctx line stopDepth s)
      (step (ctx.withPatterns patterns) line stopDepth s') := by
  have hdrop := h.dropPassed
  rw [step, step]
  dsimp only
  rw [hdrop.bound?_eq, hdrop.nextCapture?_eq]
  refine (alike_nextMatch hdrop _).bind_eq fun found ↦ ?_
  split
  · have hbefore := hdrop.extendContent
    refine (alike_applyMatch (hbefore _) _ _).bind fun next next' hnext ↦ ?_
    cases hnext with
    | none => exact alike_pure (.done (.stopLine (hbefore _).frames (hbefore _)))
    | some hs => exact alike_pure (.goOn hs)
  · split
    · exact alike_pure (.goOn (hdrop.openCapture _))
    · exact alike_closeAtBound hdrop stopDepth _

/-! ### Scans -/

/-- Reports of states that are alike, with faithful memories and failures that are alike. -/
structure ReportsAlike (ctx : Context) (report report' : ScanReport) : Prop where
  state : report.state.Alike report'.state
  failure : Option.Rel Failure.Alike report.failure report'.failure
  memory : report.memory.IsFaithful ctx
  memory' : report'.memory.IsFaithful ctx

/-- **A scan is alike whatever is remembered**, however it ends. -/
theorem alike_runScan (stopDepth : Option Nat) (fuel : Nat) {s s' : LineState} (h : s.Alike s')
    {memory memory' : Memory} (hm : memory.IsFaithful ctx) (hm' : memory'.IsFaithful ctx) :
    ReportsAlike ctx (runScan ctx line stopDepth fuel s memory)
      (runScan (ctx.withPatterns patterns) line stopDepth fuel s' memory') := by
  induction fuel generalizing s s' memory memory' with
  | zero => exact ⟨h, .some (.refl _), hm, hm'⟩
  | succ fuel ih =>
    have hstep : Alike ctx Step.Alike (step ctx line stopDepth s)
        (step (ctx.withPatterns patterns) line stopDepth s') := alike_step h stopDepth
    rw [runScan, runScan]
    obtain ⟨_, _, _, _, hx, hy, hnext, hm, hm'⟩ | ⟨_, _, _, _, hx, hy, he, hm, hm'⟩ :=
      hstep.results hm hm'
    · rw [hx, hy]
      cases hnext with
      | goOn hs => exact ih hs hm hm'
      | done hs => exact ⟨hs, .none, hm, hm'⟩
    · rw [hx, hy]
      exact ⟨h, .some he, hm, hm'⟩

/-- A scan that ends leaves states that are alike, and one that fails does so on both sides. -/
theorem alike_scan (stopDepth : Option Nat) (fuel : Nat) {s s' : LineState} (h : s.Alike s') :
    Alike ctx LineState.Alike (scan ctx line stopDepth fuel s)
      (scan (ctx.withPatterns patterns) line stopDepth fuel s') := by
  intro m m' hm hm'
  have hreport : ReportsAlike ctx (runScan ctx line stopDepth fuel s m)
      (runScan (ctx.withPatterns patterns) line stopDepth fuel s' m') :=
    alike_runScan stopDepth fuel h hm hm'
  rw [scan, scan]
  generalize runScan ctx line stopDepth fuel s m = report at hreport ⊢
  generalize runScan (ctx.withPatterns patterns) line stopDepth fuel s' m' = report' at hreport ⊢
  obtain ⟨state, memory, failure⟩ := report
  obtain ⟨state', memory', failure'⟩ := report'
  obtain ⟨hstate, hfailure, hm, hm'⟩ := hreport
  cases hfailure with
  | none => exact ⟨hstate, hm, hm'⟩
  | some he => exact ⟨he, hm, hm'⟩

/-! ### Regions that go on -/

/-- After the captures of a while pattern the states go on from the same position. -/
theorem afterContinuation_alike {before before' scanned scanned' : LineState}
    (h : before.Alike before') (hs : scanned.Alike scanned') (m : Match) :
    (afterContinuation m before scanned).Alike (afterContinuation m before' scanned') := by
  obtain ⟨frames, hframes, rfl⟩ := h
  obtain ⟨_, -, rfl⟩ := hs
  exact ⟨frames, hframes, rfl⟩

/-- A region goes on alike, the scan of the captures of its while pattern included. -/
theorem alike_enterContinuation (fuel : Nat) {s s' : LineState} {frames frames' : List Frame}
    (h : s.Alike s') (hframes : FramesAlike frames frames') (r : Region) (exit : ExitPattern)
    (m : Match) :
    Alike ctx LineState.Alike (enterContinuation ctx line fuel frames r m s)
      (enterContinuation (ctx.withPatterns patterns) line fuel frames' { r with exit := exit } m
        s') := by
  have hlength : frames'.length = frames.length := hframes.length_eq.symm
  have hinner : LineState.Alike { s with stack := { s.stack with frames := frames } }
      { s' with stack := { s'.stack with frames := frames' } } := by
    obtain ⟨_, -, rfl⟩ := h
    exact ⟨frames', hframes, rfl⟩
  refine (alike_trace _ _).bind_eq fun _ ↦
    (alike_ofFault (ctx.registry.rule r.rule)).bind_eq fun rule ↦
      (alike_enterCaptures hinner _ _ _ _).bind fun e e' he ↦ ?_
  obtain ⟨inner, entered⟩ := e
  obtain ⟨inner', entered'⟩ := e'
  obtain ⟨he, hopened⟩ := he
  obtain rfl : entered' = entered := hopened
  have hdone : ∀ scanned scanned' : LineState, scanned.Alike scanned' →
      Alike ctx LineState.Alike (pure (afterContinuation m s scanned))
        (pure (afterContinuation m s' scanned')) :=
    fun _ _ hs ↦ alike_pure (afterContinuation_alike h hs m)
  cases entered' with
  | false => exact (alike_pure he).bind hdone
  | true =>
    rw [hlength]
    exact (alike_scan _ _ he).bind hdone

/-- A region that does not go on is closed alike, with all frames inside of it. -/
theorem alike_discontinue {s s' : LineState} (h : s.Alike s')
    {passed passed' inside inside' : List Frame} (hpassed : FramesAlike passed passed')
    (hinside : FramesAlike inside inside') (r : Region) (exit : ExitPattern) :
    Alike ctx LineState.Alike (continueRegions.discontinue ctx passed r inside s)
      (continueRegions.discontinue (ctx.withPatterns patterns) passed' { r with exit := exit }
        inside' s') := by
  rw [continueRegions.discontinue, continueRegions.discontinue, h.position_eq, hinside.length_eq]
  obtain ⟨_, -, rfl⟩ := h
  exact (alike_trace _ _).bind_eq fun _ ↦ alike_pure ⟨passed', hpassed, rfl⟩

/-- The regions of earlier lines go on alike, by induction on the regions that are left. -/
theorem alike_continueRegions (fuel : Nat) {s s' : LineState}
    {passed passed' inside inside' : List Frame} (h : s.Alike s')
    (hpassed : FramesAlike passed passed') (hinside : FramesAlike inside inside') :
    Alike ctx LineState.Alike (continueRegions ctx line fuel passed inside s)
      (continueRegions (ctx.withPatterns patterns) line fuel passed' inside' s') := by
  induction hinside generalizing passed passed' s s' with
  | nil => exact alike_pure h
  | @cons f f' inside inside' hf ht ih =>
    cases hf with
    | captured c => exact ih h (.cons (.captured c) hpassed)
    | @region r exit hexit =>
      obtain ⟨kind, _, _, _, _, _, _, _, _, _⟩ := r
      cases kind with
      | beginEnd => exact ih h (.cons (.region _ hexit) hpassed)
      | beginWhile =>
        refine (alike_exitRegex hexit).bind fun regex regex' hregex ↦ ?_
        have hlive : s'.liveAnchors = s.liveAnchors := by
          obtain ⟨_, -, rfl⟩ := h
          rfl
        rw [h.position_eq, hlive]
        refine (alike_search hregex _ _).bind_eq fun found ↦ ?_
        cases found with
        | none => exact alike_discontinue h hpassed ht _ exit
        | some m =>
          dsimp only
          split
          · exact (alike_enterContinuation fuel h (.cons (.region _ hexit) hpassed) _ exit m).bind
              fun _ _ hs ↦ ih hs (.cons (.region _ hexit) hpassed)
          · exact alike_discontinue h hpassed ht _ exit

/-! ### Lines -/

/-- One line fails just if the other does. -/
theorem ReportsAlike.isSome_eq {report report' : ScanReport}
    (h : ReportsAlike ctx report report') :
    report'.failure.isSome = report.failure.isSome := by
  have hrel := h.failure
  generalize report.failure = failure at hrel ⊢
  generalize report'.failure = failure' at hrel ⊢
  cases hrel <;> rfl

/-- The check at the end of a line finds the same on both sides. -/
theorem ReportsAlike.checkEnded {report report' : ScanReport}
    (h : ReportsAlike ctx report report') :
    ReportsAlike ctx (Session.checkEnded report) (Session.checkEnded report') := by
  have hfailure : report'.failure.isNone = report.failure.isNone := by
    rw [← Option.not_isSome, ← Option.not_isSome, h.isSome_eq]
  rw [Session.checkEnded, Session.checkEnded, hfailure, h.state.frames.any_bound]
  split
  · exact ⟨h.state, .some (.refl _), h.memory, h.memory'⟩
  · exact h

/-- **A line is tokenized alike whatever is remembered**, however it ends. -/
theorem scanLine_alike (fuel : Nat) {start start' : LineState} (h : start.Alike start')
    {memory memory' : Memory} (hm : memory.IsFaithful ctx) (hm' : memory'.IsFaithful ctx) :
    ReportsAlike ctx (Session.scanLine ctx line fuel start memory)
      (Session.scanLine (ctx.withPatterns patterns) line fuel start' memory') := by
  have hframes : FramesAlike start.stack.frames.reverse start'.stack.frames.reverse :=
    List.rel_reverse h.frames
  have hcontinue : Alike ctx LineState.Alike
      (continueRegions ctx line fuel [] start.stack.frames.reverse start)
      (continueRegions (ctx.withPatterns patterns) line fuel [] start'.stack.frames.reverse
        start') :=
    alike_continueRegions fuel h .nil hframes
  rw [Session.scanLine, Session.scanLine]
  obtain ⟨s, s', _, _, hx, hy, hs, hm, hm'⟩ | ⟨_, _, _, _, hx, hy, he, hm, hm'⟩ :=
    hcontinue.results hm hm'
  · rw [hx, hy]
    exact (alike_runScan none fuel hs hm hm').checkEnded
  · rw [hx, hy]
    exact ⟨h, .some he, hm, hm'⟩

end Tokenizing

end ScopeGrammar
