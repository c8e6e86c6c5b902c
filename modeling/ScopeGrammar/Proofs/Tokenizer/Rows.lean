import ScopeGrammar.Proofs.Capture.Nested
import ScopeGrammar.Proofs.Tokenizer.Coverage
import ScopeGrammar.Proofs.Tokenizer.Potential
import ScopeGrammar.Proofs.Tokenizer.Runs
import ScopeGrammar.Proofs.Tokenizer.Sound

/-!
# How rows of tokens grow

A row that is extended within a span gets tokens of that span only, if it has reached the start of
the span (`TokenRow.GrowsIn`). The rows of a scan have always reached its position, as far as the
content of the line goes (`LineState.Reaches`), since every move of the position extends them.
-/

namespace ScopeGrammar

open Tokenizing

/-! ### Rows -/

namespace TokenRow

variable {span : Span} {row row' row'' : TokenRow} {path : ScopePath} {position p : Nat}

@[simp] theorem stop_extend : (row.extend position path).stop = row.stop := by
  rw [extend]
  split <;> rfl

/-- A row reaches to the position that it is extended to, but not past its end. -/
theorem reached_extend :
    (row.extend position path).reached = max row.reached (min position row.stop) := by
  rw [extend]
  split
  · rename_i hlt
    exact (Nat.max_eq_right (Nat.le_of_lt hlt)).symm
  · rename_i hle
    exact (Nat.max_eq_left (Nat.le_of_not_lt hle)).symm

/-- Extending a row does not take anything back. -/
theorem reached_le_extend : row.reached ≤ (row.extend position path).reached := by
  rw [reached_extend]
  exact Nat.le_max_left _ _

/-- A row reaches at least the position that it is extended to, if that lies before its end. -/
theorem min_le_reached_extend : min position row.stop ≤ (row.extend position path).reached := by
  rw [reached_extend]
  exact Nat.le_max_right _ _

/-- The row is another one with tokens of a span added. -/
structure GrowsIn (span : Span) (row row' : TokenRow) : Prop where
  stop_eq : row'.stop = row.stop
  reached_le : row.reached ≤ row'.reached
  tokens : ∃ added, row'.reversed = added ++ row.reversed ∧
    ∀ t ∈ added, span.start ≤ t.span.start ∧ t.span.stop ≤ span.stop

namespace GrowsIn

theorem refl (span : Span) (row : TokenRow) : row.GrowsIn span row :=
  ⟨rfl, Nat.le_refl _, [], rfl, by simp⟩

theorem trans (h : GrowsIn span row row') (h' : GrowsIn span row' row'') :
    GrowsIn span row row'' := by
  obtain ⟨added, hadded, hspan⟩ := h.tokens
  obtain ⟨added', hadded', hspan'⟩ := h'.tokens
  refine ⟨h'.stop_eq.trans h.stop_eq, Nat.le_trans h.reached_le h'.reached_le, added' ++ added,
    by rw [hadded', hadded, List.append_assoc], fun t ht ↦ ?_⟩
  rcases List.mem_append.1 ht with ht | ht
  · exact hspan' t ht
  · exact hspan t ht

/-- A row that has reached the start of the span still has. -/
theorem reached (h : GrowsIn span row row') (hrow : min span.start row.stop ≤ row.reached) :
    min span.start row'.stop ≤ row'.reached := by
  rw [h.stop_eq]
  exact Nat.le_trans hrow h.reached_le

end GrowsIn

/-- **A row that has reached the start of a span grows in it** when it is extended in it. -/
theorem growsIn_extend (hrow : min span.start row.stop ≤ row.reached)
    (hposition : position ≤ span.stop) : row.GrowsIn span (row.extend position path) := by
  refine ⟨stop_extend, reached_le_extend, ?_⟩
  rw [extend]
  split
  · rename_i hlt
    refine ⟨[⟨⟨row.reached, min position row.stop⟩, path⟩], rfl, fun t ht ↦ ?_⟩
    rw [List.mem_singleton.1 ht]
    dsimp only at hlt ⊢
    omega
  · exact ⟨[], rfl, by simp⟩

/-- Spans that lie in a span extend a row within it. -/
theorem growsIn_extendSpans {spans : List (Span × List ScopeName)}
    (hrow : min span.start row.stop ≤ row.reached)
    (hspans : ∀ s ∈ spans, s.1.start ≤ span.stop ∧ s.1.stop ≤ span.stop) :
    row.GrowsIn span (row.extendSpans path spans) := by
  induction spans generalizing row with
  | nil => exact .refl span row
  | cons s spans ih =>
    obtain ⟨hstart, hstop⟩ := hspans s List.mem_cons_self
    have hfirst : row.GrowsIn span (row.extend s.1.start path) := growsIn_extend hrow hstart
    have hsecond : (row.extend s.1.start path).GrowsIn span
        ((row.extend s.1.start path).extend s.1.stop (path.append s.2)) :=
      growsIn_extend (hfirst.reached hrow) hstop
    have hboth := hfirst.trans hsecond
    exact hboth.trans (ih (hboth.reached hrow) fun s' hs' ↦ hspans s' (List.mem_cons_of_mem _ hs'))

/-- Spans do not take anything of a row back. -/
theorem reached_le_extendSpans {spans : List (Span × List ScopeName)} :
    row.reached ≤ (row.extendSpans path spans).reached ∧
      (row.extendSpans path spans).stop = row.stop := by
  induction spans generalizing row with
  | nil => exact ⟨Nat.le_refl _, rfl⟩
  | cons s spans ih =>
    obtain ⟨hreached, hstop⟩ := @ih ((row.extend s.1.start path).extend s.1.stop (path.append s.2))
    refine ⟨?_, hstop.trans (stop_extend.trans stop_extend)⟩
    exact Nat.le_trans (Nat.le_trans reached_le_extend reached_le_extend) hreached

end TokenRow

/-! ### Entering captures -/

variable {ctx : Context} {line : LineText}

/-- The scoped ranges of the captures of a match lie in the match. -/
theorem spans_le_of_flatten {m : Match} {labels : List (Nat × CapturedScopes)}
    {spans : List (Span × List ScopeName)} (hm : m.start ≤ m.stop)
    (h : ScopedRange.flatten (scopedRangesOfAll (CaptureTree.forest m.clipped labels)) =
      .ok spans) :
    ∀ s ∈ spans, s.1.start ≤ m.stop ∧ s.1.stop ≤ m.stop := by
  have hall : ∀ t ∈ CaptureTree.forest m.clipped labels,
      t.All fun span _ ↦ span.start ≤ m.stop ∧ span.stop ≤ m.stop := by
    refine CaptureTree.all_of_mem_forest fun item hitem ↦ ?_
    obtain ⟨hgroup, hpos, -⟩ := CaptureTree.of_mem_items hitem
    have hinside := Span.encloses_eq_true.1 (Match.encloses_of_clipped hm hgroup)
    exact ⟨Nat.le_trans (Nat.le_of_lt hpos) hinside.2, hinside.2⟩
  exact ScopedRange.ends_of_flatten (Q := (· ≤ m.stop)) (span_of_mem_scopedRangesOfAll hall) h

namespace CapturesEntered

variable {s : LineState} {m : Match} {path : ScopePath} {grammar : GrammarId} {captures : Captures}
  {e : LineState × Bool} {span : Span}

/-- Entering the captures of a match gives tokens to the text of the match at most. -/
theorem growsIn (he : CapturesEntered line s m path grammar captures e)
    (hrow : min span.start s.row.stop ≤ s.row.reached) (hm : m.start ≤ m.stop)
    (hstop : m.stop ≤ span.stop) : s.row.GrowsIn span e.1.row := by
  cases he with
  | empty => exact .refl span s.row
  | plain => exact TokenRow.growsIn_extend hrow hstop
  | opened => exact .refl span s.row
  | flattened labels spans _ _ _ hspans =>
    have hle := spans_le_of_flatten hm hspans
    have hgrows : s.row.GrowsIn span (s.row.extendSpans path spans) :=
      TokenRow.growsIn_extendSpans hrow fun s' hs' ↦
        ⟨Nat.le_trans (hle s' hs').1 hstop, Nat.le_trans (hle s' hs').2 hstop⟩
    exact hgrows.trans (TokenRow.growsIn_extend (hgrows.reached hrow) hstop)

/-- Unless a frame is opened for it, all of a match that holds text gets its scopes. -/
theorem reached (he : CapturesEntered line s m path grammar captures e) :
    s.row.reached ≤ e.1.row.reached ∧ e.1.row.stop = s.row.stop ∧
      (e.2 = false → m.start < m.stop → min m.stop s.row.stop ≤ e.1.row.reached) := by
  cases he with
  | empty hm => exact ⟨Nat.le_refl _, rfl, fun _ hlt ↦ absurd hlt (Nat.not_lt_of_le hm)⟩
  | plain =>
    exact ⟨TokenRow.reached_le_extend, TokenRow.stop_extend,
      fun _ _ ↦ TokenRow.min_le_reached_extend⟩
  | opened => exact ⟨Nat.le_refl _, rfl, by simp⟩
  | flattened labels spans =>
    obtain ⟨hreached, hstop⟩ := @TokenRow.reached_le_extendSpans s.row path spans
    refine ⟨Nat.le_trans hreached TokenRow.reached_le_extend, TokenRow.stop_extend.trans hstop,
      fun _ _ ↦ ?_⟩
    rw [← hstop]
    exact TokenRow.min_le_reached_extend

end CapturesEntered

/-! ### States -/

/-- The row has reached the position, as far as the content of the line goes. -/
def LineState.Reaches (s : LineState) : Prop :=
  min s.position s.row.stop ≤ s.row.reached

namespace LineState.Reaches

variable {s : LineState} {m : Match} {path : ScopePath} {grammar : GrammarId} {captures : Captures}
  {e : LineState × Bool}

/-- The row still reaches the position when the token that is being made gets longer. -/
theorem extendContent (h : s.Reaches) (position : Nat) : (s.extendContent position).Reaches := by
  rw [Reaches, LineState.extendContent, LineState.extend, TokenRow.stop_extend]
  exact Nat.le_trans h TokenRow.reached_le_extend

/-- A match is moved past once the text before it was given its scopes. -/
theorem advance (h : s.Reaches) (hstart : min m.start s.row.stop ≤ s.row.reached)
    {stack : Stack} {anchor : Option Nat}
    (he : CapturesEntered line { s with stack := stack, anchor := anchor } m path grammar
      captures e) :
    (advance m s.position e).Reaches := by
  obtain ⟨hreached, hstop, hmatch⟩ := he.reached
  dsimp only at hreached hstop hmatch
  have hposition : e.1.position = s.position := he.position_eq
  obtain ⟨s', opened⟩ := e
  rw [Reaches, Tokenizing.advance]
  dsimp only at hreached hstop hmatch hposition ⊢
  rw [hposition]
  rw [Reaches] at h
  cases opened with
  | true =>
    simp only [if_true]
    omega
  | false =>
    have hmatch := hmatch rfl
    simp only [Bool.false_eq_true, if_false, decide_eq_true_eq]
    split <;> omega

/-- The row reaches the position when a frame is closed at its bound. -/
theorem atLimit (h : s.Reaches) : (s.atLimit line).Reaches := by
  have hlimit := @TokenRow.min_le_reached_extend s.row s.stack.scopes (s.limit line)
  have hextend := h.extendContent (s.limit line)
  rw [Reaches, LineState.extendContent, LineState.extend, TokenRow.stop_extend] at hextend
  rw [Reaches, LineState.atLimit, LineState.extendContent, LineState.extend, TokenRow.stop_extend]
  dsimp only at hextend ⊢
  omega

/-- The row reaches the start of a capture that is entered. -/
theorem openCapture (t : CaptureTree CapturedScopes) : (s.openCapture t).Reaches := by
  show min t.span.start (s.row.extend t.span.start s.stack.scopes).stop ≤ _
  rw [TokenRow.stop_extend]
  exact TokenRow.min_le_reached_extend

/-- The row reaches the end of a line that is stopped. -/
theorem stopLine (s : LineState) (frames : List Frame) : (stopLine line s frames).Reaches := by
  fun_induction Tokenizing.stopLine line s frames with
  | case1 s f below b hb anchor ih => exact ih
  | case2 s f below hb =>
    show min line.stop (s.row.extend line.stop _).stop ≤ (s.row.extend line.stop _).reached
    rw [TokenRow.stop_extend]
    exact TokenRow.min_le_reached_extend
  | case3 s =>
    show min line.stop (s.row.extend line.stop _).stop ≤ (s.row.extend line.stop _).reached
    rw [TokenRow.stop_extend]
    exact TokenRow.min_le_reached_extend

/-- Passing over captures touches neither the row nor the position. -/
theorem dropPassed (h : s.Reaches) : s.dropPassed.Reaches := by
  rw [LineState.dropPassed]
  split <;> exact h

/-- **A step of a scan reaches its position.** -/
theorem transition {stopDepth : Option Nat} {next : Step} (h : s.Reaches)
    (ht : Transition ctx line stopDepth s next) : next.state.Reaches := by
  cases ht with
  | applied m c s' hfound happlied =>
    have hstart : min m.start (s.extendContent m.start).row.stop ≤
        (s.extendContent m.start).row.reached := by
      rw [LineState.extendContent, LineState.extend, TokenRow.stop_extend]
      exact TokenRow.min_le_reached_extend
    cases happlied with
    | ended _ _ _ _ _ _ _ he => exact (h.extendContent m.start).advance hstart he
    | matched _ _ _ _ _ _ _ _ _ he => exact (h.extendContent m.start).advance hstart he
    | began _ _ _ _ _ _ _ _ _ he => exact (h.extendContent m.start).advance hstart he
  | stuck m c => exact stopLine _ _
  | openedCapture t => exact openCapture t
  | ended => exact h.atLimit
  | closed => split <;> exact h.atLimit

/-- So does a region that goes on, if the captures of the match were scanned past it or had no need
of a scan. -/
theorem afterContinuation {scanned : LineState} (h : scanned.Reaches)
    (hmatch : s.position < m.stop → min m.stop scanned.row.stop ≤ scanned.row.reached) :
    (afterContinuation m s scanned).Reaches := by
  rw [Reaches] at h ⊢
  simp only [Tokenizing.afterContinuation, decide_eq_true_eq]
  split
  · rename_i hlt
    have := hmatch hlt
    omega
  · exact h

end LineState.Reaches

end ScopeGrammar
