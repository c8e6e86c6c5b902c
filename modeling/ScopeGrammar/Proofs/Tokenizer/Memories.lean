import ScopeGrammar.Proofs.Tokenizer.Kept

/-!
# What is remembered on the way

`Visits` tells the states that a line comes to and leaves out what is remembered, since few things
depend on it. The exit pattern of a region does: a filled-in pattern is looked up by its text.
`VisitsWith` are the same stages and states, each with the memory that the line has there
(`VisitsWith.exists_visits`).

The program comes to no others: a scan goes from visited state to visited state up to its last step
(`VisitsWith.exists_of_runScan`), going through the open regions leads to the rest of the line
(`VisitsWith.exists_of_continueRegions`), and what is left of a line is one of these states, or what
the last step made of one (`VisitsWith.exists_of_scanLine`).
-/

namespace ScopeGrammar

open Tokenizing

/-- The stages and states that a line comes to, with what is remembered there. -/
inductive VisitsWith (ctx : Context) (line : LineText) (start : LineState) (memory : Memory) :
    Stage → LineState → Memory → Prop
  | start : VisitsWith ctx line start memory (.regions [] start.stack.frames.reverse) start memory
  /-- A frame without a while pattern is passed. -/
  | passed {passed inside : List Frame} {f : Frame} {s : LineState} {memory' : Memory}
      (hs : VisitsWith ctx line start memory (.regions passed (f :: inside)) s memory')
      (hf : f.isBeginWhile = false) :
      VisitsWith ctx line start memory (.regions (f :: passed) inside) s memory'
  /-- All frames are passed. -/
  | passedAll {passed : List Frame} {s : LineState} {memory' : Memory}
      (hs : VisitsWith ctx line start memory (.regions passed []) s memory') :
      VisitsWith ctx line start memory .rest s memory'
  /-- A region does not go on. -/
  | discontinued {passed inside : List Frame} {r : Region} {s s' : LineState}
      {found : Option Match} {memory₁ memory₂ : Memory}
      (hs : VisitsWith ctx line start memory (.regions passed (.region r :: inside)) s memory₁)
      (hr : r.kind = .beginWhile) (hsearch : Searches ctx line s r found)
      (hm : ∀ m, found = some m → m.start ≠ s.position)
      (hclosed : continueRegions.discontinue ctx passed r inside s memory₁ = .ok s' memory₂) :
      VisitsWith ctx line start memory .rest s' memory₂
  /-- A region goes on, and its captures need no frame. -/
  | continued {passed inside : List Frame} {r : Region} {m : Match} {s inner : LineState}
      {memory₁ memory₂ : Memory}
      (hs : VisitsWith ctx line start memory (.regions passed (.region r :: inside)) s memory₁)
      (hgoes : GoesOnWith ctx line passed r m s memory₁ (inner, false) memory₂) :
      VisitsWith ctx line start memory (.regions (.region r :: passed) inside)
        (afterContinuation m s inner) memory₂
  /-- A region goes on, and a frame is opened for its captures. -/
  | entered {passed inside : List Frame} {r : Region} {m : Match} {s inner : LineState}
      {memory₁ memory₂ : Memory}
      (hs : VisitsWith ctx line start memory (.regions passed (.region r :: inside)) s memory₁)
      (hgoes : GoesOnWith ctx line passed r m s memory₁ (inner, true) memory₂) :
      VisitsWith ctx line start memory (.captures passed r inside m s) inner memory₂
  /-- The scan of its captures comes to its end. -/
  | left {passed inside : List Frame} {r : Region} {m : Match} {before s scanned : LineState}
      {memory₁ memory₂ : Memory}
      (hs : VisitsWith ctx line start memory (.captures passed r inside m before) s memory₁)
      (hstep : step ctx line (some (passed.length + 2)) s memory₁ = .ok (.done scanned) memory₂) :
      VisitsWith ctx line start memory (.regions (.region r :: passed) inside)
        (afterContinuation m before scanned) memory₂
  /-- A scan makes a step. -/
  | scanned {stage : Stage} {stopDepth : Option Nat} {s s' : LineState} {memory₁ memory₂ : Memory}
      (hs : VisitsWith ctx line start memory stage s memory₁) (hstage : stage.Scans stopDepth)
      (hstep : step ctx line stopDepth s memory₁ = .ok (.goOn s') memory₂) :
      VisitsWith ctx line start memory stage s' memory₂

namespace VisitsWith

variable {ctx : Context} {line : LineText} {start s s' : LineState}
  {memory memory₁ memory₂ : Memory} {stage : Stage} {stopDepth : Option Nat} {fuel : Nat}
  {passed inside : List Frame}

/-- A region that does not go on leaves the frames that were passed. -/
theorem eq_of_discontinue {r : Region}
    (h : continueRegions.discontinue ctx passed r inside s memory₁ = .ok s' memory₂) :
    s' = s.withFrames passed := by
  obtain ⟨_, -, h⟩ := (returns_of_eq h).exists_of_bind
  exact h.eq_of_pure

/-- These are the states that the line visits. -/
theorem exists_visits (hs : VisitsWith ctx line start memory stage s memory₁) :
    ∃ happened, Visits ctx line start happened stage s := by
  induction hs with
  | start => exact ⟨_, .start⟩
  | passed _ hf ih =>
    obtain ⟨happened, hs⟩ := ih
    exact ⟨_, hs.move (.passed _ _ _ _ hf)⟩
  | passedAll _ ih =>
    obtain ⟨happened, hs⟩ := ih
    exact ⟨_, hs.move (.passedAll _ _)⟩
  | discontinued _ hr hsearch hm hclosed ih =>
    obtain ⟨happened, hs⟩ := ih
    rw [eq_of_discontinue hclosed]
    exact ⟨_, hs.move (.discontinued _ _ _ _ _ hr hsearch hm)⟩
  | continued _ hgoes ih =>
    obtain ⟨happened, hs⟩ := ih
    exact ⟨_, hs.move (.continued _ _ _ _ _ _ hgoes.kind_eq hgoes.searched hgoes.start_eq
      (entersContinuation_of_openContinuation hgoes.opened))⟩
  | entered _ hgoes ih =>
    obtain ⟨happened, hs⟩ := ih
    exact ⟨_, hs.move (.entered _ _ _ _ _ _ hgoes.kind_eq hgoes.searched hgoes.start_eq
      (entersContinuation_of_openContinuation hgoes.opened))⟩
  | left _ hstep ih =>
    obtain ⟨happened, hs⟩ := ih
    exact ⟨_, hs.move (.left _ _ _ _ _ _ _ (returns_of_eq hstep))⟩
  | scanned _ hstage hstep ih =>
    obtain ⟨happened, hs⟩ := ih
    exact hs.exists_of_step hstage (returns_of_eq hstep)

/-- The frames fit to the stage. -/
theorem fits (hs : VisitsWith ctx line start memory stage s memory₁) :
    stage.Fits ctx line start s := by
  obtain ⟨_, hs⟩ := hs.exists_visits
  exact hs.fits

/-! ### The program comes to no other states -/

/-- A scan leads on to visited states. -/
theorem of_goesTo {a b : LineState × Memory}
    (hs : VisitsWith ctx line start memory stage a.1 a.2) (hstage : stage.Scans stopDepth)
    (h : Relation.ReflTransGen (GoesTo ctx line stopDepth) a b) :
    VisitsWith ctx line start memory stage b.1 b.2 := by
  induction h with
  | refl => exact hs
  | tail _ hstep ih => exact ih.scanned hstage hstep

/-- **A scan comes to visited states only**, up to the step that ends it. -/
theorem exists_of_runScan (hs : VisitsWith ctx line start memory stage s memory₁)
    (hstage : stage.Scans stopDepth) (fuel : Nat) :
    ∃ last memory₂, VisitsWith ctx line start memory stage last memory₂ ∧
      ((runScan ctx line stopDepth fuel s memory₁).state = last ∨
        step ctx line stopDepth last memory₂ =
          .ok (.done (runScan ctx line stopDepth fuel s memory₁).state)
            (runScan ctx line stopDepth fuel s memory₁).memory) := by
  induction fuel generalizing s memory₁ with
  | zero => exact ⟨s, memory₁, hs, .inl rfl⟩
  | succ fuel ih =>
    rw [runScan]
    split
    · rename_i hstep
      exact ih (hs.scanned hstage hstep)
    · rename_i hstep
      exact ⟨s, memory₁, hs, .inr hstep⟩
    · exact ⟨s, memory₁, hs, .inl rfl⟩

/-- The captures of a region that goes on lead to what is inside of the region. -/
theorem of_capturesDone {r : Region} {m : Match} {e : LineState × Bool} {between : Memory}
    {scanned : LineState} {stopped : Bool}
    (hs : VisitsWith ctx line start memory (.regions passed (.region r :: inside)) s memory₁)
    (hgoes : GoesOnWith ctx line passed r m s memory₁ e between)
    (hdone : CapturesDone ctx line (passed.length + 2) e between scanned stopped memory₂) :
    VisitsWith ctx line start memory (.regions (.region r :: passed) inside)
      (afterContinuation m s scanned) memory₂ := by
  cases hdone with
  | flat => exact hs.continued hgoes
  | scanned hsteps hlast =>
    exact ((hs.entered hgoes).of_goesTo (.captures _ _ _ _ _) hsteps).left hlast

/-- **Going through the open regions leads to the rest of the line.** -/
theorem of_continueRegions
    (hs : VisitsWith ctx line start memory (.regions passed inside) s memory₁)
    (h : continueRegions ctx line fuel passed inside s memory₁ = .ok s' memory₂) :
    VisitsWith ctx line start memory .rest s' memory₂ := by
  induction inside generalizing passed s memory₁ with
  | nil =>
    cases h
    exact hs.passedAll
  | cons f inside ih =>
    cases hf : f.isBeginWhile with
    | false =>
      rw [continueRegions_of_not_isBeginWhile hf] at h
      exact ih (hs.passed hf) h
    | true =>
      obtain ⟨r, rfl, hr⟩ := f.exists_region_of_isBeginWhile hf
      rcases searches_cases ctx line s r with ⟨m, hsearch, hm⟩ | ⟨found, hsearch, hm⟩ | hsearch
      · rw [continueRegions_of_goesOn hr hsearch hm] at h
        obtain ⟨_, between, henter, h⟩ := exists_of_bind_eq h
        obtain ⟨e, opened, scanned, stopped, hopened, hdone, rfl⟩ :=
          exists_of_enterContinuation henter
        exact ih (hs.of_capturesDone ⟨hr, hsearch, hm, hopened⟩ hdone) h
      · rw [continueRegions_of_stops hr hsearch hm] at h
        exact hs.discontinued hr hsearch hm h
      · obtain ⟨e, memory', -, herror⟩ := continueRegions_of_not_searches hr hsearch memory₁
        cases (herror fuel).symm.trans h

/-- **What is left of a line when it ends is a state that it came to**, or what the step made of it
that ended the line. -/
theorem exists_of_scanLine (ctx : Context) (line : LineText) (fuel : Nat) (start : LineState)
    (memory : Memory) :
    ∃ stage last memory₁, VisitsWith ctx line start memory stage last memory₁ ∧
      ((Session.scanLine ctx line fuel start memory).state = last ∨
        ∃ memory₂, step ctx line none last memory₁ =
          .ok (.done (Session.scanLine ctx line fuel start memory).state) memory₂) := by
  rw [Session.scanLine]
  cases hcontinue : continueRegions ctx line fuel [] start.stack.frames.reverse start memory with
  | error e memory' => exact ⟨_, start, memory, .start, .inl rfl⟩
  | ok s memory' =>
    have hs : VisitsWith ctx line start memory .rest s memory' :=
      of_continueRegions .start hcontinue
    obtain ⟨last, memory₁, hlast, hend⟩ := hs.exists_of_runScan .rest fuel
    -- that no frame may be left with a bound is about the failure, not about the state
    have hstate : (Session.checkEnded (runScan ctx line none fuel s memory')).state =
        (runScan ctx line none fuel s memory').state := by
      rw [Session.checkEnded]
      split <;> rfl
    refine ⟨.rest, last, memory₁, hlast, ?_⟩
    dsimp only
    rw [hstate]
    exact hend.imp_right fun hstep ↦ ⟨_, hstep⟩

end VisitsWith

end ScopeGrammar
