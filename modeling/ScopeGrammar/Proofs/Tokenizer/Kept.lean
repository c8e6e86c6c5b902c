import ScopeGrammar.Proofs.Grammar.Lexical
import ScopeGrammar.Proofs.Tokenizer.Faults
import ScopeGrammar.Proofs.Tokenizer.Passing
import ScopeGrammar.Proofs.Tokenizer.Recursion

/-!
# Which regions go on in a line

At the start of a line the program keeps what going through the open frames leaves, and nothing else
(`exists_leaves_of_continueRegions`, `Leaves.exists_fuel`). It comes to such an end unless a search
fails, or the scan of the captures of a while pattern never ends (`endless_or_exists_fuel`), which
it does only if some rule is offered in its own captures (`Reachable.not_hasEndlessCaptures`).

In a document this is what becomes of the frames that the line before has left open
(`Session.continueRegions_leaves`). A quotation, which goes on as long as its lines begin with a
mark, shows both ways in which a line can go.

Captures that never end are no mere possibility: if the text of a while pattern is tokenized by a
rule that tokenizes its own capture, a line leaves nothing at all, though no search in it fails
(`Session.continueRegions_never_leaves`).
-/

namespace ScopeGrammar

open Tokenizing

variable {ctx : Context} {line : LineText} {start s : LineState} {memory memory' : Memory}
  {below inside : List Frame} {r : Region} {m : Match}

/-! ### The program goes through the frames -/

variable {fuel : Nat} {found : Option Match}

/-- A frame without a while pattern goes on as it is. -/
theorem continueRegions_of_not_isBeginWhile {f : Frame} (hf : f.isBeginWhile = false) :
    continueRegions ctx line fuel below (f :: inside) s =
      continueRegions ctx line fuel (f :: below) inside s := by
  cases f with
  | captured c => rw [continueRegions]
  | region r =>
    rw [continueRegions]
    cases hr : r.kind with
    | beginEnd => rfl
    | beginWhile => simp [Frame.isBeginWhile, hr] at hf

/-- What a while pattern finds does not depend on what is remembered. -/
theorem Searches.search_eq (h : Searches ctx line s r found) :
    ∃ regex, r.exit.regex ctx.registry = .ok regex ∧
      search ctx line regex ⟨s.position, line.stop⟩ s.liveAnchors = pure found := by
  obtain ⟨regex, hregex, hfound⟩ := h
  refine ⟨regex, hregex, ?_⟩
  rw [search] at hfound ⊢
  split at hfound
  · rw [hfound.eq_of_pure]
  all_goals exact (Returns.not_throw hfound).elim

/-- **What a while pattern finds decides how the line goes on.** -/
theorem continueRegions_of_searches (hr : r.kind = .beginWhile)
    (hsearch : Searches ctx line s r found) :
    continueRegions ctx line fuel below (.region r :: inside) s =
      match found with
      | some m =>
        if m.start = s.position then
          enterContinuation ctx line fuel (.region r :: below) r m s >>=
            continueRegions ctx line fuel (.region r :: below) inside
        else continueRegions.discontinue ctx below r inside s
      | none => continueRegions.discontinue ctx below r inside s := by
  obtain ⟨regex, hregex, hfound⟩ := hsearch.search_eq
  rw [continueRegions, hr]
  dsimp only
  rw [hregex]
  show search ctx line regex ⟨s.position, line.stop⟩ s.liveAnchors >>= _ = _
  rw [hfound, pure_bind]
  cases found <;> rfl

/-- A region with a match at the position goes on. -/
theorem continueRegions_of_goesOn (hr : r.kind = .beginWhile)
    (hsearch : Searches ctx line s r (some m)) (hm : m.start = s.position) :
    continueRegions ctx line fuel below (.region r :: inside) s =
      enterContinuation ctx line fuel (.region r :: below) r m s >>=
        continueRegions ctx line fuel (.region r :: below) inside := by
  rw [continueRegions_of_searches hr hsearch]
  exact if_pos hm

/-- A region without a match at the position is closed. -/
theorem continueRegions_of_stops (hr : r.kind = .beginWhile) (hsearch : Searches ctx line s r found)
    (hm : ∀ m, found = some m → m.start ≠ s.position) :
    continueRegions ctx line fuel below (.region r :: inside) s =
      continueRegions.discontinue ctx below r inside s := by
  rw [continueRegions_of_searches hr hsearch]
  cases found with
  | none => rfl
  | some m => exact if_neg (hm m rfl)

/-- Without a result of the search there is none of the line. -/
theorem continueRegions_of_not_searches (hr : r.kind = .beginWhile)
    (hsearch : ∀ found, ¬ Searches ctx line s r found) (memory : Memory) :
    ∃ e memory', e ≠ .unfinished ∧ ∀ fuel,
      continueRegions ctx line fuel below (.region r :: inside) s memory = .error e memory' := by
  cases hregex : r.exit.regex ctx.registry with
  | error f =>
    refine ⟨.fault f, memory, by simp, fun fuel ↦ ?_⟩
    rw [continueRegions, hr]
    dsimp only
    rw [hregex]
    rfl
  | ok regex =>
    have hfinishes : Finishes (fun _ ↦ True)
        (search ctx line regex ⟨s.position, line.stop⟩ s.liveAnchors) := finishes_search _ _ _
    have hresult := hfinishes memory True.intro
    cases hfound : search ctx line regex ⟨s.position, line.stop⟩ s.liveAnchors memory with
    | ok found memory' => exact (hsearch found ⟨regex, hregex, returns_of_eq hfound⟩).elim
    | error e memory' =>
      rw [hfound] at hresult
      refine ⟨e, memory', hresult.1, fun fuel ↦ ?_⟩
      rw [continueRegions, hr]
      dsimp only
      rw [hregex]
      show (search ctx line regex ⟨s.position, line.stop⟩ s.liveAnchors >>= _) memory = _
      exact bind_eq_of_eq_error hfound

/-- With enough fuel the program comes to the frames that are gone through. -/
theorem GoesThrough.exists_fuel (h : GoesThrough ctx line start memory below s memory')
    (inside : List Frame) (hframes : inside.reverse ++ below = start.stack.frames) :
    ∃ n, ∀ fuel, n ≤ fuel →
      continueRegions ctx line fuel [] start.stack.frames.reverse start memory =
        continueRegions ctx line fuel below inside s memory' := by
  induction h generalizing inside with
  | start =>
    obtain rfl : inside = start.stack.frames.reverse := by
      rw [← hframes]
      simp
    exact ⟨0, fun _ _ ↦ rfl⟩
  | @other below s between f _ hf ih =>
    obtain ⟨n, hn⟩ := ih (f :: inside) (by simpa using hframes)
    refine ⟨n, fun fuel hfuel ↦ ?_⟩
    rw [hn fuel hfuel, continueRegions_of_not_isBeginWhile hf]
  | @goesOn below r m s scanned e _ _ _ _ _ hgoes hdone _ _ ih =>
    obtain ⟨n, hn⟩ := ih (.region r :: inside) (by simpa using hframes)
    obtain ⟨k, hk⟩ := hgoes.exists_fuel hdone
    refine ⟨max n k, fun fuel hfuel ↦ ?_⟩
    rw [hn fuel (Nat.le_trans (Nat.le_max_left n k) hfuel),
      continueRegions_of_goesOn hgoes.kind_eq hgoes.searched hgoes.start_eq]
    exact bind_eq_of_eq_ok (hk fuel (Nat.le_trans (Nat.le_max_right n k) hfuel))

/-- A region that does not go on is closed, with all frames inside of it. -/
theorem exists_discontinue (hr : ctx.registry.IsClosed) (hrule : ctx.registry.HasRule r.rule)
    (below inside : List Frame) (s : LineState) (memory : Memory) :
    ∃ memory', continueRegions.discontinue ctx below r inside s memory =
      .ok (s.withFrames below) memory' := by
  obtain ⟨description, hdescription, -⟩ := hr.faultless_describe hrule
  rw [continueRegions.discontinue, trace]
  split
  · rw [hdescription]
    exact ⟨_, rfl⟩
  · exact ⟨_, rfl⟩

/-- **With enough fuel the program comes to what going through the frames leaves.** -/
theorem Leaves.exists_fuel (hr : ctx.registry.IsClosed)
    (hfits : start.stack.Layered fun s f ↦ f.FitsOn ctx.registry s) {kept : List Frame}
    {s' : LineState} (h : Leaves ctx line start memory kept s') :
    ∃ n, ∀ fuel, n ≤ fuel → ∃ memory',
      continueRegions ctx line fuel [] start.stack.frames.reverse start memory =
        .ok s' memory' := by
  cases h with
  | all h =>
    obtain ⟨n, hn⟩ := h.exists_fuel [] rfl
    exact ⟨n, fun fuel hfuel ↦ ⟨_, hn fuel hfuel⟩⟩
  | @below _ inside region last between found h hframes hkind hsearch hm =>
    obtain ⟨n, hn⟩ := h.exists_fuel (.region region :: inside.reverse) (by simpa)
    have hregion : region.FitsOn ctx.registry (start.stack.withFrames kept) :=
      hfits _ kept ⟨inside, hframes⟩
    obtain ⟨memory', hdiscontinue⟩ := exists_discontinue hr hregion.hasRule kept inside.reverse last
      between
    refine ⟨n, fun fuel hfuel ↦ ⟨memory', ?_⟩⟩
    rw [hn fuel hfuel, continueRegions_of_stops hkind hsearch hm, hdiscontinue]

/-- The ways in which a region comes out of the search of its while pattern. -/
theorem searches_cases (ctx : Context) (line : LineText) (s : LineState) (r : Region) :
    (∃ m, Searches ctx line s r (some m) ∧ m.start = s.position) ∨
      (∃ found, Searches ctx line s r found ∧ ∀ m, found = some m → m.start ≠ s.position) ∨
      ∀ found, ¬ Searches ctx line s r found := by
  by_cases hsearch : ∃ found, Searches ctx line s r found
  · obtain ⟨found, hsearch⟩ := hsearch
    by_cases hm : ∀ m, found = some m → m.start ≠ s.position
    · exact .inr (.inl ⟨found, hsearch, hm⟩)
    · obtain ⟨m, hne⟩ := not_forall.1 hm
      obtain ⟨rfl, hstart⟩ := Classical.not_imp.1 hne
      exact .inl ⟨m, hsearch, not_not.1 hstart⟩
  · exact .inr (.inr fun found h ↦ hsearch ⟨found, h⟩)

/-- A frame with a while pattern is a region. -/
theorem Frame.exists_region_of_isBeginWhile {f : Frame} (h : f.isBeginWhile = true) :
    ∃ r, f = .region r ∧ r.kind = .beginWhile := by
  cases f with
  | region r => exact ⟨r, rfl, by simpa [Frame.isBeginWhile] using h⟩
  | captured c => cases h

section

variable (hE : ctx.engine.StaysInRange) (hnested : start.stack.Layered fun _ f ↦ f.IsNested)
  (hreaches : start.Reaches) (hunbounded : ∀ f ∈ start.stack.frames, f.bound? = none)

include hE hnested hreaches hunbounded

/-- A region goes on if its captures come to an end. -/
theorem GoesThrough.region {e : LineState × Bool} {memory₁ memory₂ memory₃ : Memory}
    {scanned : LineState} {stopped : Bool} (h : GoesThrough ctx line start memory below s memory₁)
    (hframes : (.region r :: inside).reverse ++ below = start.stack.frames)
    (hgoes : GoesOnWith ctx line below r m s memory₁ e memory₂)
    (hdone : CapturesDone ctx line (below.length + 2) e memory₂ scanned stopped memory₃) :
    GoesThrough ctx line start memory (.region r :: below) (afterContinuation m s scanned)
      memory₃ := by
  obtain ⟨happened, hs⟩ := h.exists_visits _ hframes
  have hbound : (Frame.region r).bound? = none := hunbounded _ (by simp [← hframes])
  obtain ⟨hscanned, hposition⟩ := hdone.frames_and_position hE hnested hreaches hs hbound hgoes
  exact .goesOn h hgoes hdone hscanned hposition

/-- **What the program comes to is what going through the frames leaves.** -/
theorem exists_leaves_of_continueRegions {s' : LineState} {between : Memory}
    (h : GoesThrough ctx line start memory below s between)
    (hframes : inside.reverse ++ below = start.stack.frames)
    (hrun : continueRegions ctx line fuel below inside s between = .ok s' memory') :
    ∃ kept, Leaves ctx line start memory kept s' := by
  induction inside generalizing below s between with
  | nil =>
    cases hrun
    obtain rfl : below = start.stack.frames := hframes
    exact ⟨_, .all h⟩
  | cons f inside ih =>
    obtain ⟨hmove, -⟩ := next_of_reverse_append_eq hframes
    cases hf : f.isBeginWhile with
    | false =>
      rw [continueRegions_of_not_isBeginWhile hf] at hrun
      exact ih (h.other hf) hmove hrun
    | true =>
      obtain ⟨r, rfl, hr⟩ := f.exists_region_of_isBeginWhile hf
      rcases searches_cases ctx line s r with ⟨m, hsearch, hm⟩ | ⟨found, hsearch, hm⟩ | hsearch
      · rw [continueRegions_of_goesOn hr hsearch hm] at hrun
        obtain ⟨s₁, memory₁, henter, hrun⟩ := exists_of_bind_eq hrun
        obtain ⟨e, memory₂, scanned, stopped, hopened, hdone, rfl⟩ :=
          exists_of_enterContinuation henter
        exact ih (h.region hE hnested hreaches hunbounded hframes ⟨hr, hsearch, hm, hopened⟩ hdone)
          hmove hrun
      · rw [continueRegions_of_stops hr hsearch hm] at hrun
        obtain ⟨_, -, hrun⟩ := (returns_of_eq hrun).exists_of_bind
        rw [hrun.eq_of_pure]
        exact ⟨below, .below h hmove hr hsearch hm⟩
      · obtain ⟨e, memory₁, -, herror⟩ := continueRegions_of_not_searches hr hsearch between
        cases (herror fuel).symm.trans hrun

/-- **The fuel suffices from some amount on**, unless there are captures whose scan never comes to
its end. -/
theorem endless_or_exists_fuel {between : Memory}
    (h : GoesThrough ctx line start memory below s between)
    (hframes : inside.reverse ++ below = start.stack.frames) :
    HasEndlessCaptures ctx line start memory ∨ ∃ n, ∀ fuel, n ≤ fuel → ∀ memory',
      continueRegions ctx line fuel below inside s between ≠ .error .unfinished memory' := by
  induction inside generalizing below s between with
  | nil => exact .inr ⟨0, fun fuel _ memory' heq ↦ by cases heq⟩
  | cons f inside ih =>
    obtain ⟨hmove, -⟩ := next_of_reverse_append_eq hframes
    cases hf : f.isBeginWhile with
    | false =>
      simp only [continueRegions_of_not_isBeginWhile hf]
      exact ih (h.other hf) hmove
    | true =>
      obtain ⟨r, rfl, hr⟩ := f.exists_region_of_isBeginWhile hf
      rcases searches_cases ctx line s r with ⟨m, hsearch, hm⟩ | ⟨found, hsearch, hm⟩ | hsearch
      · simp only [continueRegions_of_goesOn hr hsearch hm]
        rcases done_or_endless_or_error hr hsearch hm between with
          ⟨e, memory₁, scanned, stopped, memory₂, hgoes, hdone⟩ |
          ⟨inner, memory₁, hgoes, hendless⟩ | ⟨failure, n, hne, hn⟩
        · obtain ⟨k, hk⟩ := hgoes.exists_fuel hdone
          rcases ih (h.region hE hnested hreaches hunbounded hframes hgoes hdone) hmove with
            hendless | ⟨n, hn⟩
          · exact .inl hendless
          · refine .inr ⟨max n k, fun fuel hfuel memory' heq ↦ ?_⟩
            rw [bind_eq_of_eq_ok (hk fuel (Nat.le_trans (Nat.le_max_right n k) hfuel))] at heq
            exact hn fuel (Nat.le_trans (Nat.le_max_left n k) hfuel) memory' heq
        · exact .inl ⟨below, inside.reverse, r, m, s, inner, between, memory₁, h, hmove, hgoes,
            hendless⟩
        · refine .inr ⟨n, fun fuel hfuel memory' heq ↦ hne ?_⟩
          obtain ⟨_, herror⟩ := hn fuel hfuel
          rw [bind_eq_of_eq_error herror] at heq
          cases heq
          rfl
      · simp only [continueRegions_of_stops hr hsearch hm]
        have hfinishes : Finishes (fun _ ↦ True)
            (continueRegions.discontinue ctx below r inside s) :=
          (memoryInvariant_true ctx).finishes.confined_discontinue _ _ _ _
        refine .inr ⟨0, fun fuel _ memory' heq ↦ ?_⟩
        have hresult := hfinishes between True.intro
        rw [heq] at hresult
        exact hresult.1 rfl
      · obtain ⟨e, memory₁, he, herror⟩ := continueRegions_of_not_searches hr hsearch between
        refine .inr ⟨0, fun fuel _ memory' heq ↦ he ?_⟩
        cases (herror fuel).symm.trans heq
        rfl

end

/-! ### How it can fail -/

/-- The failures that searches end in: the engine refuses a pattern, or gives up. -/
def Failure.IsOfSearch (e : Failure) : Prop :=
  e = .fault .searchExhausted ∨ ∃ cause, e = .error (.regex cause)

/-- Nothing but a pattern is ever refused. -/
theorem searchInvariant_regex (ctx : Context) (line : LineText) :
    SearchInvariant (fun e ↦ ∀ cause, e = .error cause → ∃ c, cause = .regex c) (fun _ ↦ True) ctx
      line fun _ ↦ True := by
  have hsearch : ∀ (regex : Regex) (range : Span) (live : LiveAnchors),
      Confined (fun e ↦ ∀ cause, e = .error cause → ∃ c, cause = .regex c) (fun _ ↦ True)
        (search ctx line regex range live) := by
    intro regex range live
    rw [search]
    split
    · exact confined_pure _
    · exact confined_throw fun cause h ↦ ⟨_, (Failure.error.inj h).symm⟩
    · exact confined_throw fun _ h ↦ by cases h
    · exact confined_throw fun _ h ↦ by cases h
  exact
    { states := (searchInvariant_true ctx line fun _ ↦ True).states
      searches := fun _ _ _ _ _ ↦ hsearch _ _ _
      whileSearches := fun _ _ _ ↦ hsearch _ _ _ }

/-- **Going through the regions fails in a search, or for want of fuel.** -/
theorem unfinished_or_isOfSearch (hctx : ctx.IsSound) (hbounds : ctx.engine.KeepsBoundaries)
    (hforward : ctx.engine.CapturesForward) (hstart : start.IsSound ctx line)
    (hmemory : memory.IsSound ctx.registry) {e : Failure}
    (h : continueRegions ctx line fuel [] start.stack.frames.reverse start memory =
      .error e memory') : e = .unfinished ∨ e.IsOfSearch := by
  have hframes : start.stack.frames.reverse.reverse ++ [] = start.stack.frames := by simp
  have hsafe := safe_continueRegions hctx hbounds hforward hstart hframes fuel memory hmemory
  have hregex := (searchInvariant_regex ctx line).confined_continueRegions
    ⟨nofun, memoryInvariant_true ctx⟩ nofun fuel True.intro hframes memory True.intro
  rw [h] at hsafe hregex
  cases e with
  | error cause =>
    obtain ⟨c, rfl⟩ := hregex.1 cause rfl
    exact .inr (.inr ⟨c, rfl⟩)
  | fault f =>
    obtain rfl : f = .searchExhausted := hsafe.1 f rfl
    exact .inr (.inl rfl)
  | unfinished => exact .inl rfl

/-- Captures whose scan never ends take all fuel. -/
theorem HasEndlessCaptures.exists_unfinished
    (h : HasEndlessCaptures ctx line start memory) :
    ∃ n, ∀ fuel, n ≤ fuel → ∃ memory',
      continueRegions ctx line fuel [] start.stack.frames.reverse start memory =
        .error .unfinished memory' := by
  obtain ⟨below, inside, r, m, s, inner, memory₁, memory₂, hthrough, hframes, hgoes, hendless⟩ := h
  obtain ⟨n, hn⟩ := hthrough.exists_fuel (.region r :: inside.reverse) (by simpa)
  refine ⟨n, fun fuel hfuel ↦ ?_⟩
  rw [hn fuel hfuel, continueRegions_of_goesOn hgoes.kind_eq hgoes.searched hgoes.start_eq,
    enterContinuation_eq, bind_assoc, bind_eq_of_eq_ok hgoes.opened, bind_assoc]
  exact ⟨_, bind_eq_of_eq_error (scan_eq_error (hendless fuel))⟩

/-- Where what holds of the states of a line limits the number of open captures, their scans come to
an end. -/
theorem ScanInvariant.not_hasEndlessCaptures {I : Memory → Prop} {P : LineState → Prop}
    {limit : Nat} (hP : ScanInvariant ctx line I P) (hE : ctx.engine.StaysInRange)
    (hlimit : ∀ s, P s → s.stack.capturedCount ≤ limit) (hstart : P start) (hmemory : I memory) :
    ¬ HasEndlessCaptures ctx line start memory := by
  intro hendless
  have hsettles : Settles I P fun fuel ↦
      continueRegions ctx line fuel [] start.stack.frames.reverse start :=
    hP.settles_continueRegions hE hlimit hstart (by simp)
  obtain ⟨result, hresult, n, hn⟩ := hsettles memory hmemory
  obtain ⟨k, hk⟩ := hendless.exists_unfinished
  obtain ⟨memory', herror⟩ := hk (max n k) (Nat.le_max_right n k)
  have hsettled : continueRegions ctx line (max n k) [] start.stack.frames.reverse start memory =
      result := hn (max n k) (Nat.le_max_left n k)
  rw [← hsettled, herror] at hresult
  exact hresult rfl

namespace Session

variable {E : Engine} {r : Registry} {base : GrammarId} {s : Session}

/-- If no rule is offered in its own captures, the scans of captures come to an end. -/
theorem Reachable.not_hasEndlessCaptures (hE : E.StaysInRange) (hs : Reachable E r base s)
    (patterns : PatternCache) (line : LineText)
    (h : (s.context (r.withPatterns patterns)).NeverRecaptures) :
    ¬ HasEndlessCaptures (s.context (r.withPatterns patterns)) line
      (.start s.stack s.firstLine line) { candidates := s.candidates, patterns := patterns } := by
  have hE' : (s.context (r.withPatterns patterns)).engine.StaysInRange :=
    (hs.engine_context _).symm ▸ hE
  obtain ⟨width, hwidth⟩ := (s.context (r.withPatterns patterns)).registry.exists_hasWidth
  have hstart : (LineState.start s.stack s.firstLine line).stack.Layered
      (Frame.IsWithin (s.context (r.withPatterns patterns)) width) := hs.isCarried.layered_isWithin
  have hagrees : r.Agrees s.base s.candidates := hs.agrees
  exact ((frameInvariant_isWithin h hwidth).scanInvariant (agrees_invariant _)
    (tries_of_agrees _)).not_hasEndlessCaptures hE' (fun _ hs ↦ hs.capturedCount_le) hstart
      (memory_agrees hagrees patterns)

/-- **At the start of a line an outer part of the open frames is kept as it is**: all of them, if
every region with a while pattern goes on, and else those below the outermost one that does not
(`Leaves`). A region goes on if the leftmost match of its while pattern starts at the position,
which is where the last such match and its captures have left it: at the end of the match, or at
that of the line if a loop guard stopped the scan of its captures (`GoesThrough`). No other while
pattern is searched, since nothing is asked of the frames inside of a region that does not go on.

The program comes to that and to nothing else, unless a search fails, or a rule is offered in its
own captures and the scan of the captures of a while pattern never ends. -/
theorem continueRegions_leaves (hr : r.Loaded E) (hE : E.StaysInRange) (hbounds : E.KeepsBoundaries)
    (hforward : E.CapturesForward) (hs : Reachable E r base s) (patterns : PatternCache)
    (line : String) :
    let ctx := s.context (r.withPatterns patterns)
    let text := LineText.ofLine line
    let start := LineState.start s.stack s.firstLine text
    let memory : Memory := { candidates := s.candidates, patterns := patterns }
    let run := fun fuel ↦
      continueRegions ctx text fuel [] start.stack.frames.reverse start memory
    (∀ fuel s' memory', run fuel = .ok s' memory' → ∃ kept, Leaves ctx text start memory kept s' ∧
      s'.stack = s.stack.withFrames kept ∧ kept <:+ s.stack.frames) ∧
    (∀ kept s', Leaves ctx text start memory kept s' →
      ∃ n, ∀ fuel, n ≤ fuel → ∃ memory', run fuel = .ok s' memory') ∧
    ((∃ kept s', Leaves ctx text start memory kept s') ∨
      (∃ fuel e memory', run fuel = .error e memory' ∧ e.IsOfSearch) ∨
      HasEndlessCaptures ctx text start memory ∧ ¬ ctx.NeverRecaptures) := by
  intro ctx text start memory run
  have hengine : ctx.engine = E := hs.engine_context _
  have hE' : ctx.engine.StaysInRange := hengine.symm ▸ hE
  have hctx : ctx.IsSound := hs.isSound_context hr.isClosed patterns
  have hstart : start.IsSound ctx text := hs.isSound_start patterns text
  have hmemory : memory.IsSound ctx.registry :=
    hs.isSound_memory hr.isClosed hbounds hforward patterns
  have hnested : start.stack.Layered fun _ f ↦ f.IsNested :=
    hs.isCarried.layered_of_region fun _ _ _ ↦ True.intro
  have hreaches : start.Reaches := Nat.min_le_left 0 _
  have hunbounded : ∀ f ∈ start.stack.frames, f.bound? = none := hs.isCarried.bound?_eq_none
  have hframes : start.stack.frames.reverse.reverse ++ [] = start.stack.frames := by simp
  have hsound : ∀ fuel s' memory', run fuel = .ok s' memory' →
      ∃ kept, Leaves ctx text start memory kept s' := fun fuel s' memory' hrun ↦
    exists_leaves_of_continueRegions hE' hnested hreaches hunbounded .start hframes hrun
  refine ⟨fun fuel s' memory' hrun ↦ ?_, fun kept s' hleaves ↦ ?_, ?_⟩
  · obtain ⟨kept, hleaves⟩ := hsound fuel s' memory' hrun
    exact ⟨kept, hleaves, hleaves.stack_eq⟩
  · exact hleaves.exists_fuel hctx.registry hstart.fits
  · rcases endless_or_exists_fuel hE' hnested hreaches hunbounded .start hframes with
      hendless | ⟨n, hn⟩
    · exact .inr (.inr ⟨hendless, fun h ↦ hs.not_hasEndlessCaptures hE patterns text h hendless⟩)
    · cases hrun : run n with
      | ok s' memory' =>
        obtain ⟨kept, hleaves⟩ := hsound n s' memory' hrun
        exact .inl ⟨kept, s', hleaves⟩
      | error e memory' =>
        rcases unfinished_or_isOfSearch hctx (hengine.symm ▸ hbounds) (hengine.symm ▸ hforward)
          hstart hmemory hrun with rfl | hsearch
        · exact (hn n (Nat.le_refl n) memory' hrun).elim
        · exact .inr (.inl ⟨n, e, memory', hrun, hsearch⟩)

end Session

/-! ### A quotation -/

/-- A grammar of quotations, which go on as long as their lines begin with a mark. -/
def GrammarDefinition.quoted : GrammarDefinition where
  scopeName := "text"
  patterns := [{ beginPattern := some ">", whilePattern := some ">" }]

/-- That grammar, compiled. -/
def Grammar.quoted : Grammar where
  name := ""
  scopeName := "text"
  scope := .ofString "text"
  rules :=
    #[⟨0, none, false, .group ⟨[1], []⟩⟩,
      ⟨1, some 0, false, .region
        { kind := .beginWhile, name := none, contentName := none, begin := 0, beginCaptures := {}
          exit := 1, exitHasReferences := false, exitCaptures := {}, endLast := false
          patterns := [], repository := [] }⟩]
  regexes := #[.ofPattern ">" "patterns[0].begin", .ofPattern ">" "patterns[0].while"]
  injections := []
  exported := none
  injectTo := []

theorem Grammar.compile_quoted (matcher : List Char → Matcher) :
    (compile .quoted (.ofMatcher matcher)).result = .ok .quoted :=
  rfl

namespace Registry

/-- The registry of that grammar. -/
def quoted : Registry where
  grammars := #[.quoted]
  byScopeName := Std.HashMap.insert {} "text" 0

theorem add_quoted : add {} .quoted = .ok (0, quoted) :=
  rfl

theorem childCandidates_quoted : quoted.childCandidates 0 (.root 0) = .ok ([⟨0, 1⟩], #[]) :=
  candidatesFrom_of_matching (r := quoted) (by decide) rfl

end Registry

namespace Session

/-- The session at the start of a document. -/
def quoted : Session where
  base := 0
  injections := []
  stack := .ofGrammar 0 (.ofString "text")
  lines := #[]
  engine := .literal

theorem quoted_reachable : Reachable .literal .quoted 0 quoted :=
  .start [] rfl

/-- What it is tokenized with. -/
def quotedContext : Context :=
  quoted.context (Registry.quoted.withPatterns {})

/-- The region that a mark opens. -/
def quotedRegion : Region where
  kind := .beginWhile
  rule := ⟨0, 1⟩
  nameScopes := .ofRoot (.ofString "text")
  contentScopes := .ofRoot (.ofString "text")
  exit := .fixed 0 1
  exitLast := false
  bound := none
  tookLineEnd := false
  anchorBefore := none
  enteredAt := some 0

/-- The state after the mark. -/
def quotedState : LineState where
  stack := quoted.stack.push (.region quotedRegion)
  position := 1
  anchor := some 1
  atTextStart := false
  row := ⟨[⟨⟨0, 1⟩, .ofRoot (.ofString "text")⟩], 1, 1⟩

/-- The mark opens the region. -/
theorem step_quoted :
    step quotedContext (.ofLine ">") none (.start quoted.stack true (.ofLine ">")) {} =
      .ok (.goOn quotedState) { candidates := rootCandidates } := by
  have hcandidates : Tokenizing.candidates quotedContext (.root 0) .children {} =
      .ok [⟨0, 1⟩] { candidates := rootCandidates } :=
    candidates_of_new Std.HashMap.getElem?_empty Registry.childCandidates_quoted
  have hordered : orderedCandidates quotedContext quoted.stack (.root 0) {} =
      .ok [.rule ⟨0, 1⟩] { candidates := rootCandidates } :=
    (bind_eq_of_eq_ok hcandidates).trans rfl
  have hfound : (Regex.ofPattern ">" "patterns[0].begin").search (LineText.ofLine ">").indexed
      ⟨0, 2⟩ ⟨true, false⟩ .literal = .ok (some ⟨⟨0, 1⟩, []⟩) := by decide +kernel
  have hnext : nextMatch quotedContext (.ofLine ">") (.start quoted.stack true (.ofLine ">")) 2 {} =
      .ok (some (⟨⟨0, 1⟩, []⟩, .rule ⟨0, 1⟩)) { candidates := rootCandidates } :=
    nextMatch_of_singleton rfl rfl rfl hordered rfl hfound
  exact (bind_eq_of_eq_ok hnext).trans rfl

/-- The candidates that are known at the end of the line. -/
def quotedCandidates : CandidateCache :=
  rootCandidates.insert (⟨0, 1⟩, .children) []

/-- Nothing more can match, and the line ends. -/
theorem step_quotedState :
    step quotedContext (.ofLine ">") none quotedState { candidates := rootCandidates } =
      .ok (.done (quotedState.atLimit (.ofLine ">"))) { candidates := quotedCandidates } := by
  have hnew : rootCandidates[((⟨0, 1⟩ : RuleRef), CandidateKind.children)]? = none := by
    rw [rootCandidates, Std.HashMap.getElem?_insert, if_neg (by decide),
      Std.HashMap.getElem?_empty]
  have hordered : orderedCandidates quotedContext quotedState.stack ⟨0, 1⟩
      { candidates := rootCandidates } = .ok [] { candidates := quotedCandidates } :=
    (bind_eq_of_eq_ok (@candidates_of_new quotedContext _ _ _ hnew rfl)).trans rfl
  have hnext : nextMatch quotedContext (.ofLine ">") quotedState 2
      { candidates := rootCandidates } = .ok none { candidates := quotedCandidates } :=
    nextMatch_eq_ok rfl rfl rfl hordered rfl
  exact (bind_eq_of_eq_ok hnext).trans rfl

/-- The first line opens the quotation. -/
theorem scanNext_quoted :
    quoted.scanNext (Registry.quoted.withPatterns {}) (.ofLine ">") 2 =
      ⟨quotedState.atLimit (.ofLine ">"), { candidates := quotedCandidates }, none⟩ := by
  show checkEnded (runScan quotedContext (.ofLine ">") none (0 + 1 + 1)
    (.start quoted.stack true (.ofLine ">")) {}) = _
  rw [runScan, step_quoted]
  dsimp only
  rw [runScan, step_quotedState]
  rfl

/-- The session in which the quotation is open. -/
def quotedOpen : Session :=
  { quoted with
    stack := quoted.stack.push (.region { quotedRegion with enteredAt := none })
    firstLine := false
    candidates := quotedCandidates }

theorem tokenizeLine_quoted :
    (quoted.tokenizeLine (Registry.quoted.withPatterns {}) ">" 2).session = quotedOpen := by
  rw [tokenizeLine_session rfl, scanNext_quoted]
  rfl

/-- The quotation is open before the second line. -/
theorem quotedOpen_reachable : Reachable .literal .quoted 0 quotedOpen := by
  rw [← tokenizeLine_quoted]
  refine quoted_reachable.line {} ">" 2 fun f h ↦ ?_
  rw [tokenizeLine_eq_error_iff rfl, scanNext_quoted] at h
  cases h

/-- The while pattern of the quotation in the next line. -/
theorem searches_quoted {line : String} {found : Option Match}
    (h : (Regex.ofPattern ">" "patterns[0].while").search (LineText.ofLine line).indexed
      ⟨0, (LineText.ofLine line).stop⟩ ⟨false, false⟩ .literal = .ok found) :
    Searches (quotedOpen.context (Registry.quoted.withPatterns {})) (.ofLine line)
      (.start quotedOpen.stack false (.ofLine line)) { quotedRegion with enteredAt := none }
      found := by
  have hsearch : search (quotedOpen.context (Registry.quoted.withPatterns {})) (.ofLine line)
      (.ofPattern ">" "patterns[0].while") ⟨0, (LineText.ofLine line).stop⟩ ⟨false, false⟩ =
        pure found := search_of_ok h
  exact ⟨.ofPattern ">" "patterns[0].while", rfl, {}, {}, congrFun hsearch {}⟩

/-- The quotation goes on in the line `>a`, of which it takes the mark, and is closed in the line
`a>`, whose mark does not start it. -/
theorem continueRegions_leaves_quoted :
    Reachable .literal .quoted 0 quotedOpen ∧
    (∃ n, ∀ fuel, n ≤ fuel → ∃ s' memory',
      continueRegions (quotedOpen.context (Registry.quoted.withPatterns {})) (.ofLine ">a") fuel []
        quotedOpen.stack.frames.reverse (.start quotedOpen.stack false (.ofLine ">a"))
        { candidates := quotedCandidates } = .ok s' memory' ∧
      s'.stack = quotedOpen.stack ∧ s'.position = 1) ∧
    ∃ n, ∀ fuel, n ≤ fuel → ∃ s' memory',
      continueRegions (quotedOpen.context (Registry.quoted.withPatterns {})) (.ofLine "a>") fuel []
        quotedOpen.stack.frames.reverse (.start quotedOpen.stack false (.ofLine "a>"))
        { candidates := quotedCandidates } = .ok s' memory' ∧
      s'.stack.frames = [] ∧ s'.position = 0 := by
  have hleaves := fun line ↦ continueRegions_leaves
    (.add .empty (Grammar.compile_quoted _) Registry.add_quoted) Engine.literal_staysInRange
    Engine.literal_keepsBoundaries Engine.literal_capturesForward quotedOpen_reachable {} line
  have hgoes : Searches (quotedOpen.context (Registry.quoted.withPatterns {})) (.ofLine ">a")
      (.start quotedOpen.stack false (.ofLine ">a")) { quotedRegion with enteredAt := none }
      (some ⟨⟨0, 1⟩, []⟩) := searches_quoted (by decide +kernel)
  have hstops : Searches (quotedOpen.context (Registry.quoted.withPatterns {})) (.ofLine "a>")
      (.start quotedOpen.stack false (.ofLine "a>")) { quotedRegion with enteredAt := none }
      (some ⟨⟨1, 2⟩, []⟩) := searches_quoted (by decide +kernel)
  refine ⟨quotedOpen_reachable, ?_, ?_⟩
  · obtain ⟨n, hn⟩ := (hleaves ">a").2.1 _ _
      (.all (.goesOn .start ⟨rfl, hgoes, rfl, rfl⟩ (.flat _ _) rfl rfl))
    refine ⟨n, fun fuel hfuel ↦ ?_⟩
    obtain ⟨memory', hrun⟩ := hn fuel hfuel
    exact ⟨_, memory', hrun, rfl, rfl⟩
  · obtain ⟨n, hn⟩ := (hleaves "a>").2.1 _ _
      (.below .start (List.nil_append _) rfl hstops (by rintro m ⟨⟩; decide))
    refine ⟨n, fun fuel hfuel ↦ ?_⟩
    obtain ⟨memory', hrun⟩ := hn fuel hfuel
    exact ⟨_, memory', hrun, rfl, rfl⟩

end Session

/-! ### Captures of a while pattern that never end -/

/-- A grammar of a region that goes on as long as its lines begin with a letter. The letter is
tokenized by a rule that tokenizes its own capture. -/
def GrammarDefinition.endless : GrammarDefinition where
  scopeName := "text"
  patterns :=
    [{ beginPattern := some ">", whilePattern := some "a"
       whileCaptures := some [("0", { patterns := [{ target := some "#r" }] })] }]
  repository :=
    [("r",
      { matchPattern := some "a"
        captures := some [("0", { patterns := [{ target := some "#r" }] })] })]

/-- That grammar, compiled. -/
def Grammar.endless : Grammar where
  name := ""
  scopeName := "text"
  scope := .ofString "text"
  rules :=
    #[⟨0, none, false, .group ⟨[4], [("r", 1)]⟩⟩,
      ⟨1, some 0, false, .single ⟨none, 0, ⟨[(0, ⟨none, some 2⟩)]⟩⟩⟩,
      ⟨2, some 1, false, .group ⟨[3], []⟩⟩,
      ⟨3, some 2, false, .includes (.entry "r")⟩,
      ⟨4, some 0, false, .region
        { kind := .beginWhile, name := none, contentName := none, begin := 1, beginCaptures := {}
          exit := 2, exitHasReferences := false, exitCaptures := ⟨[(0, ⟨none, some 5⟩)]⟩
          endLast := false, patterns := [], repository := [] }⟩,
      ⟨5, some 4, false, .group ⟨[6], []⟩⟩,
      ⟨6, some 5, false, .includes (.entry "r")⟩]
  regexes :=
    #[.ofPattern "a" "repository.r.match", .ofPattern ">" "patterns[0].begin",
      .ofPattern "a" "patterns[0].while"]
  injections := []
  exported := none
  injectTo := []

theorem Grammar.compile_endless (matcher : List Char → Matcher) :
    (compile .endless (.ofMatcher matcher)).result = .ok .endless :=
  rfl

/-- Both includes lead to the entry of the root. -/
theorem Grammar.lookup_endless :
    Grammar.endless.lookup 3 "r" = .ok (some 1) ∧ Grammar.endless.lookup 6 "r" = .ok (some 1) := by
  have hroot : Grammar.endless.lookup 0 "r" = .ok (some 1) := by
    have hrule : Grammar.endless.rules[0]? = some ⟨0, none, false, .group ⟨[4], [("r", 1)]⟩⟩ := rfl
    rw [lookup_eq_of_rule hrule]
    rfl
  constructor
  · rw [lookup_eq_of_parent rfl rfl rfl (by decide), lookup_eq_of_parent rfl rfl rfl (by decide),
      lookup_eq_of_parent rfl rfl rfl (by decide), hroot]
  · rw [lookup_eq_of_parent rfl rfl rfl (by decide), lookup_eq_of_parent rfl rfl rfl (by decide),
      lookup_eq_of_parent rfl rfl rfl (by decide), hroot]

namespace Registry

/-- The registry of that grammar. -/
def endless : Registry where
  grammars := #[.endless]
  byScopeName := Std.HashMap.insert {} "text" 0

theorem add_endless : add {} .endless = .ok (0, endless) :=
  rfl

/-- The grammar leads to the region, which holds nothing, and all captures lead to the rule of the
letter. -/
theorem childCandidates_endless :
    endless.childCandidates 0 (.root 0) = .ok ([⟨0, 4⟩], #[]) ∧
      endless.childCandidates 0 ⟨0, 4⟩ = .ok ([], #[]) ∧
      endless.childCandidates 0 ⟨0, 2⟩ = .ok ([⟨0, 1⟩], #[]) ∧
      endless.childCandidates 0 ⟨0, 5⟩ = .ok ([⟨0, 1⟩], #[]) := by
  have hroom : 2 ≤ endless.ruleCount := by decide
  have hletter : endless.visit 0 ⟨0, 1⟩ = .ok (none, none) := rfl
  refine ⟨candidatesFrom_of_matching (Nat.le_of_succ_le hroom) rfl, rfl, ?_, ?_⟩
  · exact @candidatesFrom_of_include endless ⟨0, 3⟩ 0 _ hroom (by decide)
      (visit_of_entry rfl rfl rfl rfl Grammar.lookup_endless.1) hletter
  · exact @candidatesFrom_of_include endless ⟨0, 6⟩ 0 _ hroom (by decide)
      (visit_of_entry rfl rfl rfl rfl Grammar.lookup_endless.2) hletter

end Registry

namespace Session

/-- The session at the start of a document. -/
def endless : Session where
  base := 0
  injections := []
  stack := .ofGrammar 0 (.ofString "text")
  lines := #[]
  engine := .literal

theorem endless_reachable : Reachable .literal .endless 0 endless :=
  .start [] rfl

/-- What it is tokenized with. -/
def endlessContext : Context :=
  endless.context (Registry.endless.withPatterns {})

/-- The region that the mark opens. -/
def endlessRegion : Region where
  kind := .beginWhile
  rule := ⟨0, 4⟩
  nameScopes := .ofRoot (.ofString "text")
  contentScopes := .ofRoot (.ofString "text")
  exit := .fixed 0 2
  exitLast := false
  bound := none
  tookLineEnd := false
  anchorBefore := none
  enteredAt := some 0

/-- The state after the mark. -/
def endlessState : LineState where
  stack := endless.stack.push (.region endlessRegion)
  position := 1
  anchor := some 1
  atTextStart := false
  row := ⟨[⟨⟨0, 1⟩, .ofRoot (.ofString "text")⟩], 1, 1⟩

/-- The candidates that are known once the mark was looked for. -/
def markCandidates : CandidateCache :=
  Std.HashMap.insert {} (.root 0, .children) [⟨0, 4⟩]

/-- The candidates that are known at the end of the line. -/
def endlessCandidates : CandidateCache :=
  markCandidates.insert (⟨0, 4⟩, .children) []

/-- The mark opens the region. -/
theorem step_endless :
    step endlessContext (.ofLine ">") none (.start endless.stack true (.ofLine ">")) {} =
      .ok (.goOn endlessState) { candidates := markCandidates } := by
  have hcandidates : Tokenizing.candidates endlessContext (.root 0) .children {} =
      .ok [⟨0, 4⟩] { candidates := markCandidates } :=
    candidates_of_new Std.HashMap.getElem?_empty Registry.childCandidates_endless.1
  have hordered : orderedCandidates endlessContext endless.stack (.root 0) {} =
      .ok [.rule ⟨0, 4⟩] { candidates := markCandidates } :=
    (bind_eq_of_eq_ok hcandidates).trans rfl
  have hfound : (Regex.ofPattern ">" "patterns[0].begin").search (LineText.ofLine ">").indexed
      ⟨0, 2⟩ ⟨true, false⟩ .literal = .ok (some recaptureMatch) := by decide +kernel
  have hnext : nextMatch endlessContext (.ofLine ">") (.start endless.stack true (.ofLine ">")) 2
      {} = .ok (some (recaptureMatch, .rule ⟨0, 4⟩)) { candidates := markCandidates } :=
    nextMatch_of_singleton rfl rfl rfl hordered rfl hfound
  exact (bind_eq_of_eq_ok hnext).trans rfl

/-- Nothing more can match, and the line ends. -/
theorem step_endlessState :
    step endlessContext (.ofLine ">") none endlessState { candidates := markCandidates } =
      .ok (.done (endlessState.atLimit (.ofLine ">"))) { candidates := endlessCandidates } := by
  have hnew : markCandidates[((⟨0, 4⟩ : RuleRef), CandidateKind.children)]? = none := by
    rw [markCandidates, Std.HashMap.getElem?_insert, if_neg (by decide),
      Std.HashMap.getElem?_empty]
  have hordered : orderedCandidates endlessContext endlessState.stack ⟨0, 4⟩
      { candidates := markCandidates } = .ok [] { candidates := endlessCandidates } :=
    (bind_eq_of_eq_ok (@candidates_of_new endlessContext _ _ _ hnew
      Registry.childCandidates_endless.2.1)).trans rfl
  have hnext : nextMatch endlessContext (.ofLine ">") endlessState 2
      { candidates := markCandidates } = .ok none { candidates := endlessCandidates } :=
    nextMatch_eq_ok rfl rfl rfl hordered rfl
  exact (bind_eq_of_eq_ok hnext).trans rfl

/-- The first line opens the region. -/
theorem scanNext_endless :
    endless.scanNext (Registry.endless.withPatterns {}) (.ofLine ">") 2 =
      ⟨endlessState.atLimit (.ofLine ">"), { candidates := endlessCandidates }, none⟩ := by
  show checkEnded (runScan endlessContext (.ofLine ">") none (0 + 1 + 1)
    (.start endless.stack true (.ofLine ">")) {}) = _
  rw [runScan, step_endless]
  dsimp only
  rw [runScan, step_endlessState]
  rfl

/-- The session in which the region is open. -/
def endlessOpen : Session :=
  { endless with
    stack := endless.stack.push (.region { endlessRegion with enteredAt := none })
    firstLine := false
    candidates := endlessCandidates }

theorem tokenizeLine_endless :
    (endless.tokenizeLine (Registry.endless.withPatterns {}) ">" 2).session = endlessOpen := by
  rw [tokenizeLine_session rfl, scanNext_endless]
  rfl

/-- The region is open before the second line. -/
theorem endlessOpen_reachable : Reachable .literal .endless 0 endlessOpen := by
  rw [← tokenizeLine_endless]
  refine endless_reachable.line {} ">" 2 fun f h ↦ ?_
  rw [tokenizeLine_eq_error_iff rfl, scanNext_endless] at h
  cases h

/-- In a capture of the letter the rule of the letter is found, whatever is remembered. -/
theorem exists_step_letter {memory : Memory} (hmemory : memory.Agrees endlessContext)
    {group : RuleId} (hgroup : group = 2 ∨ group = 5) (below : List Frame)
    (stopDepth : Option Nat) :
    ∃ memory', memory'.Agrees endlessContext ∧
      step endlessContext (.ofLine "a") stopDepth
          (recaptureState (.captured (recaptureText (some ⟨0, group⟩) []) :: below) false) memory =
        .ok (.goOn (recaptureState (.captured (recaptureText none [wholeCapture 2]) ::
          .captured (recaptureText (some ⟨0, group⟩) []) :: below) false)) memory' := by
  have hfresh : endlessContext.registry.freshCandidates endlessContext.base ⟨0, group⟩ .children =
      .ok ([⟨0, 1⟩], #[]) := by
    rcases hgroup with rfl | rfl
    · exact Registry.childCandidates_endless.2.2.1
    · exact Registry.childCandidates_endless.2.2.2
  obtain ⟨memory', hmemory', -, hcandidates⟩ := exists_candidates_eq hmemory hfresh
  have hordered : orderedCandidates endlessContext
      (recaptureState (.captured (recaptureText (some ⟨0, group⟩) []) :: below) false).stack
      ⟨0, group⟩ memory = .ok [.rule ⟨0, 1⟩] memory' :=
    (bind_eq_of_eq_ok hcandidates).trans rfl
  have hfound : (Regex.ofPattern "a" "repository.r.match").search (LineText.ofLine "a").indexed
      ⟨0, 1⟩ ⟨false, false⟩ .literal = .ok (some recaptureMatch) := by decide +kernel
  have hnext : nextMatch endlessContext (.ofLine "a")
      (recaptureState (.captured (recaptureText (some ⟨0, group⟩) []) :: below) false) 1 memory =
        .ok (some (recaptureMatch, .rule ⟨0, 1⟩)) memory' :=
    nextMatch_of_singleton rfl rfl rfl hordered rfl hfound
  refine ⟨memory', hmemory', (bind_eq_of_eq_ok hnext).trans ?_⟩
  have happlied : applyMatch endlessContext (.ofLine "a")
      (recaptureState (.captured (recaptureText (some ⟨0, group⟩) []) :: below) false)
      recaptureMatch (.rule ⟨0, 1⟩) =
        pure (some (recaptureState (.captured (recaptureText none [wholeCapture 2]) ::
          .captured (recaptureText (some ⟨0, group⟩) []) :: below) false)) :=
    applySingle_recapture endlessContext rfl 2 rfl
  exact (bind_eq_of_eq_ok (congrFun happlied memory')).trans rfl

/-- The capture that is ahead is opened. -/
theorem step_letterCapture (below : List Frame) (group : RuleId) (stopDepth : Option Nat)
    (memory : Memory) :
    step endlessContext (.ofLine "a") stopDepth
        (recaptureState (.captured (recaptureText none [wholeCapture group]) :: below) false)
        memory =
      .ok (.goOn (recaptureState (.captured (recaptureText (some ⟨0, group⟩) []) ::
        .captured (recaptureText none []) :: below) false)) memory :=
  rfl

/-- **The scan of the captures of the letter never comes to its end**: the rule of the letter
matches the letter, and then its capture, which is the letter again. -/
theorem runScan_letter (stopDepth : Option Nat) (below : List Frame) (fuel : Nat) {memory : Memory}
    (hmemory : memory.Agrees endlessContext) :
    (runScan endlessContext (.ofLine "a") stopDepth fuel
      (recaptureState (.captured (recaptureText none [wholeCapture 5]) :: below) false)
      memory).failure = some .unfinished := by
  -- the states of the scan: a capture that is ahead, and one that was opened
  let P : LineState → Prop := fun s ↦ ∃ group below, (group = 2 ∨ group = 5) ∧
    (s = recaptureState (.captured (recaptureText none [wholeCapture group]) :: below) false ∨
      s = recaptureState (.captured (recaptureText (some ⟨0, group⟩) []) :: below) false)
  refine runScan_unfinished (P := P) (I := Memory.Agrees endlessContext) ?_ fuel
    ⟨5, below, .inr rfl, .inl rfl⟩ hmemory
  rintro s memory ⟨group, below, hgroup, rfl | rfl⟩ hmemory
  · exact ⟨_, memory, step_letterCapture below group stopDepth memory,
      ⟨group, _, hgroup, .inr rfl⟩, hmemory⟩
  · obtain ⟨memory', hmemory', hstep⟩ := exists_step_letter hmemory hgroup below stopDepth
    exact ⟨_, memory', hstep, ⟨2, _, .inl rfl, .inl rfl⟩, hmemory'⟩

/-- **Going through the regions need not come to an end**: in a line in which no search fails the
region goes on, and the scan of the captures of its while pattern takes all fuel. -/
theorem continueRegions_never_leaves :
    Registry.endless.Loaded .literal ∧ Reachable .literal .endless 0 endlessOpen ∧
      ∀ fuel, ∃ memory',
        continueRegions (endlessOpen.context (Registry.endless.withPatterns {})) (.ofLine "a") fuel
            [] endlessOpen.stack.frames.reverse (.start endlessOpen.stack false (.ofLine "a"))
            { candidates := endlessCandidates } =
          .error .unfinished memory' := by
  refine ⟨.add .empty (Grammar.compile_endless _) Registry.add_endless, endlessOpen_reachable,
    fun fuel ↦ ?_⟩
  have hmemory : Memory.Agrees endlessContext { candidates := endlessCandidates } :=
    memory_agrees endlessOpen_reachable.agrees {}
  have hfound : (Regex.ofPattern "a" "patterns[0].while").search (LineText.ofLine "a").indexed
      ⟨0, 2⟩ ⟨false, false⟩ .literal = .ok (some recaptureMatch) := by decide +kernel
  have hsearch : search endlessContext (.ofLine "a") (.ofPattern "a" "patterns[0].while") ⟨0, 2⟩
      ⟨false, false⟩ = pure (some recaptureMatch) := search_of_ok hfound
  have hgoes : Searches endlessContext (.ofLine "a") (.start endlessOpen.stack false (.ofLine "a"))
      { endlessRegion with enteredAt := none } (some recaptureMatch) :=
    ⟨.ofPattern "a" "patterns[0].while", rfl, {}, {}, congrFun hsearch {}⟩
  have hopened : openContinuation endlessContext (.ofLine "a") []
      { endlessRegion with enteredAt := none } recaptureMatch
      (.start endlessOpen.stack false (.ofLine "a")) { candidates := endlessCandidates } =
        .ok (recaptureState (.captured (recaptureText none [wholeCapture 5]) ::
          endlessOpen.stack.frames) false, true) { candidates := endlessCandidates } :=
    congrFun (enterCaptures_recapture _ 5) _
  have hscan := runScan_letter (some 2) endlessOpen.stack.frames fuel hmemory
  show ∃ memory', continueRegions endlessContext (.ofLine "a") fuel []
    [.region { endlessRegion with enteredAt := none }] _ _ = .error .unfinished memory'
  rw [continueRegions_of_goesOn rfl hgoes rfl, enterContinuation_eq, bind_assoc,
    bind_eq_of_eq_ok hopened, bind_assoc]
  exact ⟨_, bind_eq_of_eq_error (scan_eq_error hscan)⟩

end Session

end ScopeGrammar
