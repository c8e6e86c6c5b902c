import Mathlib.Data.List.Nodup
import ScopeGrammar.Proofs.Faultless
import ScopeGrammar.Scope.Spans

/-!
# Flattened ranges

The sweep stops at the ends of the ranges only, so that the spans that it makes begin and end where
ranges do (`ends_of_flatten`).

Every range that it opens it also closes (`faultless_flatten`): a range that holds text ends after
it starts, so that wherever the sweep is, the closing edges of the ranges that are open, or that
open later, are still to come (`Sweep.Closes`). No two ranges have the same index, and so none
closes another one in place of itself.
-/

namespace ScopeGrammar

namespace ScopedRange

variable {ranges : List ScopedRange}

/-- The edges of a range lie at its ends. -/
theorem position_of_mem_edges {Q : Nat → Prop} {r : ScopedRange} {index : Nat}
    (h : Q r.span.start ∧ Q r.span.stop) : ∀ e ∈ r.edges index, Q e.position := by
  intro e he
  rw [edges] at he
  split at he
  · simp at he
  · rcases List.mem_cons.1 he with rfl | he
    · exact h.1
    · rw [List.mem_singleton.1 he]
      exact h.2

/-! ### Ends of spans -/

/-- The sweep makes a span from its last edge to a position only if it lies before the position. -/
theorem Sweep.of_mem_stretchTo {s : Sweep} {position : Nat} {stretch : Span × List ScopeName}
    (h : stretch ∈ s.stretchTo position) :
    s.last = some stretch.1.start ∧ stretch.1.stop = position ∧ stretch.1.start < position := by
  rw [stretchTo] at h
  split at h
  · rename_i last hlast
    split at h
    · rename_i hlt
      obtain rfl := List.mem_singleton.1 h
      exact ⟨hlast, rfl, hlt⟩
    · cases h
  · cases h

/-- The spans of a sweep end at edges. -/
theorem ends_of_foldl_step {Q : Nat → Prop} {edges : List Edge} {sweep : Sweep}
    (he : ∀ e ∈ edges, Q e.position) (hlast : ∀ p, sweep.last = some p → Q p)
    (hspans : ∀ s ∈ sweep.spans, Q s.1.start ∧ Q s.1.stop) :
    ∀ s ∈ (edges.foldl Sweep.step sweep).spans, Q s.1.start ∧ Q s.1.stop := by
  induction edges generalizing sweep with
  | nil => exact hspans
  | cons e edges ih =>
    have hposition := he e List.mem_cons_self
    refine ih (fun e' he' ↦ he e' (List.mem_cons_of_mem _ he')) ?_ ?_
    · rintro p ⟨⟩
      exact hposition
    · intro s hs
      rcases List.mem_append.1 hs with hs | hs
      · obtain ⟨hstart, hstop, -⟩ := Sweep.of_mem_stretchTo hs
        exact ⟨hlast _ hstart, hstop ▸ hposition⟩
      · exact hspans s hs

/-- **Spans begin and end where ranges do.** -/
theorem ends_of_flatten {Q : Nat → Prop} {spans : List (Span × List ScopeName)}
    (h : ∀ r ∈ ranges, Q r.span.start ∧ Q r.span.stop) (hspans : flatten ranges = .ok spans) :
    ∀ s ∈ spans, Q s.1.start ∧ Q s.1.stop := by
  rw [flatten] at hspans
  dsimp only at hspans
  split at hspans
  · obtain rfl := Except.ok.inj hspans
    intro s hs
    refine ends_of_foldl_step ?_ (by simp) (by simp) s (List.mem_reverse.1 hs)
    intro e he
    obtain ⟨⟨r, i⟩, hr, he⟩ := List.mem_flatMap.1 (List.mem_mergeSort.1 he)
    exact position_of_mem_edges (h r (List.fst_mem_of_mem_zipIdx hr)) e he
  · contradiction

/-! ### The order of the sweep -/

/-- Edges in sweep order are in the order of their positions. -/
theorem Edge.position_le_of_le {a b : Edge} (h : a.le b) : a.position ≤ b.position := by
  rw [Edge.le, Bool.or_eq_true, Bool.and_eq_true] at h
  rcases h with h | ⟨h, -⟩
  · exact Nat.le_of_lt (of_decide_eq_true h)
  · exact Nat.le_of_eq (eq_of_beq h)

/-- The edges of the ranges, in sweep order. -/
def sweepEdges (ranges : List ScopedRange) : List Edge :=
  (ranges.zipIdx.flatMap fun (r, i) ↦ r.edges i).mergeSort Edge.le

/-- Any two edges are in sweep order one way or the other. -/
theorem Edge.le_total (a b : Edge) : a.le b || b.le a := by
  obtain ⟨p, opens, reach, i, scope⟩ := a
  obtain ⟨p', opens', reach', i', scope'⟩ := b
  cases opens <;> cases opens' <;> simp [Edge.le] <;> omega

/-- The sweep order is transitive, so that edges can be sorted by it. -/
theorem Edge.le_trans (a b c : Edge) (hab : a.le b) (hbc : b.le c) : a.le c := by
  obtain ⟨p, opens, reach, i, scope⟩ := a
  obtain ⟨p', opens', reach', i', scope'⟩ := b
  obtain ⟨p'', opens'', reach'', i'', scope''⟩ := c
  cases opens <;> cases opens' <;> cases opens'' <;> simp [Edge.le] at hab hbc ⊢ <;> omega

/-- The edges of a sweep are sorted by their positions. -/
theorem pairwise_sweepEdges (ranges : List ScopedRange) :
    (sweepEdges ranges).Pairwise (·.position ≤ ·.position) :=
  (List.pairwise_mergeSort Edge.le_trans Edge.le_total _).imp Edge.position_le_of_le

/-! ### Balance -/

/-- The indices of the ranges that open at some edges. -/
def openings (edges : List Edge) : List Nat :=
  (edges.filter (·.opens)).map (·.index)

/-- An edge that opens a range counts among the openings. -/
theorem openings_cons_of_opens {e : Edge} {edges : List Edge} (hopen : e.opens = true) :
    openings (e :: edges) = e.index :: openings edges := by
  simp [openings, hopen]

/-- An edge that closes a range does not count among the openings. -/
theorem openings_cons_of_closes {e : Edge} {edges : List Edge} (hclose : e.opens = false) :
    openings (e :: edges) = openings edges := by
  simp [openings, hclose]

/-- Some later edge closes the range. -/
def ClosesAfter (edges : List Edge) (index position : Nat) : Prop :=
  ∃ e ∈ edges, e.opens = false ∧ e.index = index ∧ position < e.position

/-- What is open, or is opened by edges to come, is closed by edges to come; no range is opened
twice. -/
structure Sweep.Closes (s : Sweep) (edges : List Edge) : Prop where
  distinct : (s.opened.map (·.1) ++ openings edges).Nodup
  opened : ∀ o ∈ s.opened, ∃ e ∈ edges, e.opens = false ∧ e.index = o.1
  opens : ∀ e ∈ edges, e.opens = true → ClosesAfter edges e.index e.position

/-- Closing a range leaves the others in their order. -/
theorem removeLast_sublist (index : Nat) (opened : List (Nat × ScopeName)) :
    (removeLast index opened).Sublist opened := by
  rw [removeLast, ← List.reverse_sublist, List.reverse_reverse]
  exact List.eraseP_sublist

/-- If indices are all different, erasing the first range with an index is leaving out that
index. -/
theorem eraseP_eq_filter {index : Nat} {opened : List (Nat × ScopeName)}
    (hdistinct : (opened.map (·.1)).Nodup) :
    opened.eraseP (·.1 == index) = opened.filter (·.1 != index) := by
  induction opened with
  | nil => rfl
  | cons o opened ih =>
    rw [List.map_cons, List.nodup_cons] at hdistinct
    by_cases ho : o.1 = index
    · have hrest : opened.filter (·.1 != index) = opened := by
        refine List.filter_eq_self.2 fun o' ho' ↦ ?_
        have hne : o'.1 ≠ o.1 := fun heq ↦ hdistinct.1 (heq ▸ List.mem_map_of_mem ho')
        simpa [← ho] using hne
      rw [List.eraseP_cons_of_pos (by simpa using ho), List.filter_cons_of_neg (by simpa using ho),
        hrest]
    · rw [List.eraseP_cons_of_neg (by simpa using ho), List.filter_cons_of_pos (by simpa using ho),
        ih hdistinct.2]

/-- If indices are all different, closing a range is leaving out its index. -/
theorem removeLast_eq_filter {index : Nat} {opened : List (Nat × ScopeName)}
    (hdistinct : (opened.map (·.1)).Nodup) :
    removeLast index opened = opened.filter (·.1 != index) := by
  have hreverse : (opened.reverse.map (·.1)).Nodup := by
    rw [List.map_reverse, List.nodup_reverse]
    exact hdistinct
  rw [removeLast, eraseP_eq_filter hreverse, List.filter_reverse, List.reverse_reverse]

/-- A range that is still open after another one is closed was open before, and is another one. -/
theorem mem_removeLast {index : Nat} {opened : List (Nat × ScopeName)}
    (hdistinct : (opened.map (·.1)).Nodup) {o : Nat × ScopeName} (h : o ∈ removeLast index opened) :
    o ∈ opened ∧ o.1 ≠ index := by
  rw [removeLast_eq_filter hdistinct] at h
  obtain ⟨ho, hne⟩ := List.mem_filter.1 h
  exact ⟨ho, bne_iff_ne.1 hne⟩

namespace Sweep.Closes

variable {s : Sweep} {e : Edge} {edges : List Edge}

/-- An edge that is passed does not close a range that opens later. -/
theorem opens_of_cons (h : s.Closes (e :: edges))
    (hsorted : ∀ e' ∈ edges, e.position ≤ e'.position) :
    ∀ e' ∈ edges, e'.opens = true → ClosesAfter edges e'.index e'.position := by
  intro e' he' hopen
  obtain ⟨c, hc, hcloses, hindex, hlt⟩ := h.opens e' (List.mem_cons_of_mem _ he') hopen
  rcases List.mem_cons.1 hc with rfl | hc
  · exact absurd (hsorted e' he') (Nat.not_le_of_lt hlt)
  · exact ⟨c, hc, hcloses, hindex, hlt⟩

/-- A range that is open is closed later, unless the edge that is passed closes it. -/
theorem opened_of_cons (h : s.Closes (e :: edges)) {o : Nat × ScopeName} (ho : o ∈ s.opened)
    (hne : e.opens = true ∨ o.1 ≠ e.index) : ∃ c ∈ edges, c.opens = false ∧ c.index = o.1 := by
  obtain ⟨c, hc, hcloses, hindex⟩ := h.opened o ho
  rcases List.mem_cons.1 hc with rfl | hc
  · rcases hne with hopen | hne
    · rw [hcloses] at hopen
      contradiction
    · exact absurd hindex.symm hne
  · exact ⟨c, hc, hcloses, hindex⟩

/-- A range opens. -/
theorem step_of_opens (h : s.Closes (e :: edges))
    (hsorted : ∀ e' ∈ edges, e.position ≤ e'.position) (hopen : e.opens = true) :
    (s.step e).Closes edges := by
  have hstep : (s.step e).opened = s.opened ++ [(e.index, e.scope)] := if_pos hopen
  refine ⟨?_, fun o ho ↦ ?_, h.opens_of_cons hsorted⟩
  · have hdistinct := h.distinct
    rwa [openings_cons_of_opens hopen, List.append_cons,
      ← List.map_singleton (f := (·.1)) (a := (e.index, e.scope)), ← List.map_append, ← hstep]
      at hdistinct
  · rw [hstep] at ho
    rcases List.mem_append.1 ho with ho | ho
    · exact h.opened_of_cons ho (.inl hopen)
    · rw [List.mem_singleton.1 ho]
      obtain ⟨c, hc, hcloses, hindex, -⟩ := h.opens e List.mem_cons_self hopen
      rcases List.mem_cons.1 hc with rfl | hc
      · rw [hopen] at hcloses
        contradiction
      · exact ⟨c, hc, hcloses, hindex⟩

/-- A range closes. -/
theorem step_of_closes (h : s.Closes (e :: edges))
    (hsorted : ∀ e' ∈ edges, e.position ≤ e'.position) (hclose : e.opens = false) :
    (s.step e).Closes edges := by
  have hstep : (s.step e).opened = removeLast e.index s.opened := if_neg (by simp [hclose])
  have hdistinct := h.distinct
  rw [openings_cons_of_closes hclose] at hdistinct
  refine ⟨?_, fun o ho ↦ ?_, h.opens_of_cons hsorted⟩
  · rw [hstep]
    exact (((removeLast_sublist _ _).map _).append_right _).nodup hdistinct
  · -- the indices are distinct, so that no range but the one of the edge is taken out
    rw [hstep] at ho
    obtain ⟨ho, hne⟩ := mem_removeLast (List.nodup_append.1 hdistinct).1 ho
    exact h.opened_of_cons ho (.inr hne)

/-- A sweep over edges that close all that they open ends with nothing open. -/
theorem opened_eq_nil (h : s.Closes edges)
    (hsorted : edges.Pairwise (·.position ≤ ·.position)) :
    (edges.foldl Sweep.step s).opened = [] := by
  induction edges generalizing s with
  | nil =>
    refine List.eq_nil_iff_forall_not_mem.2 fun o ho ↦ ?_
    obtain ⟨e, he, -⟩ := h.opened o ho
    cases he
  | cons e edges ih =>
    obtain ⟨hfirst, hsorted⟩ := List.pairwise_cons.1 hsorted
    refine ih ?_ hsorted
    cases hopen : e.opens with
    | true => exact h.step_of_opens hfirst hopen
    | false => exact h.step_of_closes hfirst hopen

end Sweep.Closes

/-- Ranges are opened in the order of their indices, and an empty one is not opened at all. -/
theorem openings_edges_sublist (ranges : List ScopedRange) (first : Nat) :
    (openings ((ranges.zipIdx first).flatMap fun (r, i) ↦ r.edges i)).Sublist
      (List.range' first ranges.length) := by
  induction ranges generalizing first with
  | nil => exact List.Sublist.refl _
  | cons r ranges ih =>
    rw [List.zipIdx_cons, List.flatMap_cons, openings, List.filter_append, List.map_append,
      List.length_cons, List.range'_succ]
    dsimp only
    rw [edges]
    split
    · -- an empty range has no edges, so that its index is left out
      exact (ih (first + 1)).cons _
    · exact (ih (first + 1)).cons_cons _

/-- No range is opened twice. -/
theorem nodup_openings_sweepEdges (ranges : List ScopedRange) :
    (openings (sweepEdges ranges)).Nodup :=
  have hperm : (openings (sweepEdges ranges)).Perm _ :=
    ((List.mergeSort_perm _ Edge.le).filter _).map _
  hperm.nodup_iff.2 ((openings_edges_sublist ranges 0).nodup List.nodup_range')

/-- The edges of ranges close all that they open. -/
theorem closes_sweepEdges (ranges : List ScopedRange) :
    Sweep.Closes ⟨[], none, []⟩ (sweepEdges ranges) where
  distinct := nodup_openings_sweepEdges ranges
  opened := fun o ho ↦ by cases ho
  opens := by
    intro e he hopen
    obtain ⟨⟨r, i⟩, hr, he⟩ := List.mem_flatMap.1 (List.mem_mergeSort.1 he)
    have hmem : ∀ e ∈ r.edges i, e ∈ sweepEdges ranges := fun e he ↦
      List.mem_mergeSort.2 (List.mem_flatMap.2 ⟨(r, i), hr, he⟩)
    dsimp only at he
    rw [edges] at he hmem
    split at he
    · cases he
    · rename_i hempty
      rw [if_neg hempty] at hmem
      rcases List.mem_cons.1 he with rfl | he
      · refine ⟨_, hmem _ (List.mem_cons_of_mem _ List.mem_cons_self), rfl, rfl, ?_⟩
        exact Span.isEmpty_eq_false.1 (Bool.eq_false_iff.2 hempty)
      · rw [List.mem_singleton.1 he] at hopen
        contradiction

/-- **Flattening finds no fault.** -/
theorem faultless_flatten (ranges : List ScopedRange) :
    Faultless (flatten ranges) fun _ ↦ True := by
  have hopened := (closes_sweepEdges ranges).opened_eq_nil (pairwise_sweepEdges ranges)
  exact ⟨_, if_pos (List.isEmpty_iff.2 hopened), trivial⟩

end ScopedRange

end ScopeGrammar
