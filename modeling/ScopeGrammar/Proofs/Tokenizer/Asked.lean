import ScopeGrammar.Proofs.Tokenizer.Confined
import ScopeGrammar.Proofs.Tokenizer.Runs

/-!
# What is searched in a line

A line asks the engine where patterns match, and nothing else. `Stage.Asks` lists the ranges in
which it does so and the anchors that are live there: the while pattern of the next open region,
from the position to the end of the line, and what can match in the innermost frame, from the
position to where the frame stops. Nothing is left out: engines that answer these searches alike
tokenize the line alike (`scanLine_withEngine`).
-/

namespace ScopeGrammar

open Tokenizing

/-- What is searched in a stage of a line: a range, and the anchors that are live. -/
inductive Stage.Asks (line : LineText) : Stage → LineState → Span → LiveAnchors → Prop
  /-- The while pattern of a region. -/
  | whilePattern (passed : List Frame) (r : Region) (inside : List Frame) (s : LineState)
      (hr : r.kind = .beginWhile) :
      Asks line (.regions passed (.region r :: inside)) s ⟨s.position, line.stop⟩ s.liveAnchors
  /-- What can match in the innermost frame. -/
  | candidates (stage : Stage) (stopDepth : Option Nat) (s : LineState)
      (hstage : stage.Scans stopDepth) :
      Asks line stage s ⟨s.position, s.dropPassed.limit line⟩ s.liveAnchors

/-- What a line is tokenized with, but for another engine. -/
def Context.withEngine (ctx : Context) (E : Engine) : Context :=
  { ctx with engine := E }

/-- Two engines answer the searches of any pattern in a range alike. -/
def Engine.AgreeIn (E E' : Engine) (line : LineText) (range : Span) (live : LiveAnchors) : Prop :=
  ∀ regex : Regex, regex.search line.indexed range live E = regex.search line.indexed range live E'

namespace LineState

/-- Which anchors are live does not depend on the captures that are to be entered. -/
theorem liveAnchors_dropPassed (s : LineState) : s.dropPassed.liveAnchors = s.liveAnchors := by
  rw [dropPassed]
  split <;> rfl

end LineState

namespace Tokenizing

variable {ctx : Context} {line : LineText} {E : Engine}

/-! ### Steps -/

/-- A search is answered by another engine as by this one if the two agree in its range. -/
theorem search_withEngine {range : Span} {live : LiveAnchors}
    (h : E.AgreeIn ctx.engine line range live) (regex : Regex) :
    search (ctx.withEngine E) line regex range live = search ctx line regex range live := by
  have hsearch : regex.search line.indexed range live (ctx.withEngine E).engine =
      regex.search line.indexed range live ctx.engine := h regex
  rw [search, search, hsearch]

/-- What injections offer is not asked of the engine. -/
theorem injectedCandidates_withEngine (injected : List (Precedence × RuleRef)) :
    injectedCandidates (ctx.withEngine E) injected = injectedCandidates ctx injected := by
  induction injected with
  | nil => rfl
  | cons i rest ih =>
    rw [injectedCandidates, injectedCandidates, ih]
    rfl

/-- The candidates of a frame are not asked of the engine. -/
theorem orderedCandidates_withEngine (s : Stack) (owner : RuleRef) :
    orderedCandidates (ctx.withEngine E) s owner = orderedCandidates ctx s owner := by
  simp only [orderedCandidates, injectedCandidates_withEngine]
  rfl

variable {s : LineState} {bound : Nat}

/-- All candidates are searched in one range, so that engines that agree there find the same. -/
theorem bestOf_withEngine (h : E.AgreeIn ctx.engine line ⟨s.position, bound⟩ s.liveAnchors)
    (best : Option (Match × Candidate)) (cs : List Candidate) :
    bestOf (ctx.withEngine E) line s bound best cs = bestOf ctx line s bound best cs := by
  induction cs generalizing best with
  | nil => rfl
  | cons c cs ih =>
    simp only [bestOf, search_withEngine h, ih]
    rfl

/-- The next match is found by engines that agree from the position to the bound of the innermost
frame. -/
theorem nextMatch_withEngine (h : E.AgreeIn ctx.engine line ⟨s.position, bound⟩ s.liveAnchors) :
    nextMatch (ctx.withEngine E) line s bound = nextMatch ctx line s bound := by
  have hbest : findBest (ctx.withEngine E) line s bound = findBest ctx line s bound := by
    simp only [findBest, orderedCandidates_withEngine, bestOf_withEngine h]
  simp only [nextMatch, hbest]

/-- **A step asks the engine about the innermost frame only.** -/
theorem step_withEngine (stopDepth : Option Nat)
    (h : E.AgreeIn ctx.engine line ⟨s.position, s.dropPassed.limit line⟩ s.liveAnchors) :
    step (ctx.withEngine E) line stopDepth s = step ctx line stopDepth s := by
  have hnext : nextMatch (ctx.withEngine E) line s.dropPassed (s.dropPassed.limit line) =
      nextMatch ctx line s.dropPassed (s.dropPassed.limit line) := by
    refine nextMatch_withEngine ?_
    rw [s.position_dropPassed, s.liveAnchors_dropPassed]
    exact h
  rw [step, step]
  show (nextMatch (ctx.withEngine E) line s.dropPassed (s.dropPassed.limit line) >>= _) = _
  rw [hnext]
  rfl

end Tokenizing

/-! ### Lines -/

/-- An engine answers all that is searched in a line as that of the context does. -/
def AnswersAlike (ctx : Context) (line : LineText) (start : LineState) (E : Engine) : Prop :=
  ∀ happened stage s range live, Visits ctx line start happened stage s →
    stage.Asks line s range live → E.AgreeIn ctx.engine line range live

namespace Visits

variable {ctx : Context} {line : LineText} {E : Engine} {start s : LineState} {stage : Stage}
  {happened : List Happening}

/-- A scan goes the same way with the other engine: each of its steps starts in a state that the
line comes to. -/
theorem runScan_withEngine (hE : AnswersAlike ctx line start E) {stopDepth : Option Nat}
    (hs : Visits ctx line start happened stage s) (hstage : stage.Scans stopDepth) (fuel : Nat)
    (memory : Memory) :
    runScan (ctx.withEngine E) line stopDepth fuel s memory =
      runScan ctx line stopDepth fuel s memory := by
  induction fuel generalizing happened s memory with
  | zero => rfl
  | succ fuel ih =>
    have hstep := step_withEngine stopDepth (hE _ _ _ _ _ hs (.candidates stage stopDepth s hstage))
    rw [runScan, runScan, hstep]
    cases heq : step ctx line stopDepth s memory with
    | ok next memory' =>
      cases next with
      | goOn s' =>
        obtain ⟨happened', hs'⟩ := hs.exists_of_step hstage (returns_of_eq heq)
        exact ih hs' memory'
      | done s' => rfl
    | error e memory' => rfl

variable {passed inside : List Frame}

/-- The scan of the captures of a while pattern is part of the line, so that its searches are
answered alike too. -/
theorem enterContinuation_withEngine (hE : AnswersAlike ctx line start E) {r : Region} {m : Match}
    (hs : Visits ctx line start happened (.regions passed (.region r :: inside)) s)
    (hr : r.kind = .beginWhile) (hsearch : Searches ctx line s r (some m))
    (hm : m.start = s.position) (fuel : Nat) :
    enterContinuation (ctx.withEngine E) line fuel (.region r :: passed) r m s =
      enterContinuation ctx line fuel (.region r :: passed) r m s := by
  refine bind_congr_of_returns fun _ _ ↦ bind_congr_of_returns fun rule hrule ↦
    bind_congr_of_returns fun e he ↦ ?_
  obtain ⟨inner, entered⟩ := e
  have he : EntersContinuation ctx line s passed r m (inner, entered) :=
    ⟨rule, hrule.eq_ok_of_ofFault, he⟩
  cases entered with
  | false => rfl
  | true =>
    have hinner := hs.move (.entered passed r inside s inner m hr hsearch hm he)
    have hscan : scan (ctx.withEngine E) line (some (passed.length + 2)) fuel inner =
        scan ctx line (some (passed.length + 2)) fuel inner := by
      funext memory
      rw [scan, scan, hinner.runScan_withEngine hE (.captures passed r inside m s) fuel memory]
    show (scan (ctx.withEngine E) line (some (passed.length + 2)) fuel inner >>= _) = _
    rw [hscan]
    rfl

/-- The regions of earlier lines go on the same way with the other engine. -/
theorem continueRegions_withEngine (hE : AnswersAlike ctx line start E)
    (hs : Visits ctx line start happened (.regions passed inside) s) (fuel : Nat) :
    continueRegions (ctx.withEngine E) line fuel passed inside s =
      continueRegions ctx line fuel passed inside s := by
  induction inside generalizing happened passed s with
  | nil => rfl
  | cons f inside ih =>
    cases f with
    | captured c =>
      rw [continueRegions, continueRegions]
      exact ih (hs.move (.passed passed _ inside s rfl))
    | region r =>
      rw [continueRegions, continueRegions]
      split
      · rename_i hr
        exact ih (hs.move (.passed passed _ inside s (by simp [Frame.isBeginWhile, hr])))
      · rename_i hr
        refine bind_congr_of_returns fun regex hregex ↦ ?_
        rw [search_withEngine (hE _ _ _ _ _ hs (.whilePattern passed r inside s hr))]
        refine bind_congr_of_returns fun found hfound ↦ ?_
        have hsearch : Searches ctx line s r found := ⟨regex, hregex.eq_ok_of_ofFault, hfound⟩
        split
        · split
          · rename_i m hm
            dsimp only
            rw [hs.enterContinuation_withEngine hE hr hsearch hm]
            refine bind_congr_of_returns fun s' hs' ↦ ?_
            obtain ⟨happened', hs'⟩ := hs.exists_of_enterContinuation hr hsearch hm hs'
            exact ih hs'
          · rfl
        · rfl

/-- **An engine that answers alike what is searched in a line tokenizes it alike**: the engine is
asked nothing else. -/
theorem scanLine_withEngine (hE : AnswersAlike ctx line start E) (fuel : Nat) (memory : Memory) :
    Session.scanLine (ctx.withEngine E) line fuel start memory =
      Session.scanLine ctx line fuel start memory := by
  rw [Session.scanLine, Session.scanLine, Visits.start.continueRegions_withEngine hE]
  cases heq : continueRegions ctx line fuel [] start.stack.frames.reverse start memory with
  | ok s memory' =>
    obtain ⟨happened, hs⟩ := Visits.start.exists_of_continueRegions (returns_of_eq heq)
    simp only [hs.runScan_withEngine hE .rest]
  | error e memory' => rfl

end Visits

end ScopeGrammar
