import ScopeGrammar.Proofs.Scope.Flatten

/-!
# The scopes that a sweep gives to a position

A byte gets the scopes of all ranges that hold it, in the order in which the sweep opens them
(`spanScopes_of_flatten`): when the sweep has passed the edges up to a position, those ranges are
open that an edge so far opens and none so far closes.

If the ranges around each position are given in the order of their starts, longer ones first, that
order is the one in which they are given (`spanScopes_of_pairwise`), as it is if they are given from
the outside in.
-/

namespace ScopeGrammar

/-- The span holds the byte at a position. -/
def Span.holds (s : Span) (p : Nat) : Bool :=
  s.start ≤ p && p < s.stop

@[simp] theorem Span.holds_eq_true {s : Span} {p : Nat} :
    s.holds p = true ↔ s.start ≤ p ∧ p < s.stop := by
  simp [holds]

namespace ScopedRange

variable {ranges : List ScopedRange} {p : Nat}

/-- The scopes that a row of spans gives to a position: those of the first span that stops after it,
if it does not start after it too. -/
def spanScopes (spans : List (Span × List ScopeName)) (p : Nat) : List ScopeName :=
  match spans.find? (p < ·.1.stop) with
  | some (span, scopes) => if span.start ≤ p then scopes else []
  | none => []

theorem spanScopes_cons_of_le {s : Span × List ScopeName} {spans : List (Span × List ScopeName)}
    (h : s.1.stop ≤ p) : spanScopes (s :: spans) p = spanScopes spans p := by
  rw [spanScopes, List.find?_cons_of_neg (by simpa using h), spanScopes]

theorem spanScopes_cons_of_holds {s : Span × List ScopeName}
    {spans : List (Span × List ScopeName)} (h : s.1.holds p = true) :
    spanScopes (s :: spans) p = s.2 := by
  obtain ⟨hstart, hstop⟩ := Span.holds_eq_true.1 h
  rw [spanScopes, List.find?_cons_of_pos (by simpa using hstop)]
  exact if_pos hstart

theorem spanScopes_eq_nil {spans : List (Span × List ScopeName)} (h : ∀ s ∈ spans, p < s.1.start) :
    spanScopes spans p = [] := by
  rw [spanScopes]
  split
  · rename_i span scopes heq
    exact if_neg (Nat.not_le_of_lt (h _ (List.mem_of_find?_eq_some heq)))
  · rfl

/-! ### Stretches -/

namespace Sweep

/-- The stretches that a sweep makes on its way over some edges. -/
def stretches (s : Sweep) : List Edge → List (Span × List ScopeName)
  | [] => []
  | e :: edges => s.stretchTo e.position ++ (s.step e).stretches edges

theorem reverse_stretchTo (s : Sweep) (position : Nat) :
    (s.stretchTo position).reverse = s.stretchTo position := by
  rw [stretchTo]
  split
  · split <;> rfl
  · rfl

theorem reverse_spans_foldl_step (s : Sweep) (edges : List Edge) :
    (edges.foldl step s).spans.reverse = s.spans.reverse ++ s.stretches edges := by
  induction edges generalizing s with
  | nil => rw [stretches, List.append_nil, List.foldl_nil]
  | cons e edges ih =>
    have hspans : (s.step e).spans = s.stretchTo e.position ++ s.spans := rfl
    rw [List.foldl_cons, ih, hspans, List.reverse_append, reverse_stretchTo, List.append_assoc]
    rfl

/-- No stretch starts before the sweep. -/
theorem le_start_of_mem_stretches {s : Sweep} {edges : List Edge} {bound : Nat}
    (hsorted : ∀ e ∈ edges, bound ≤ e.position) (hlast : ∀ l, s.last = some l → bound ≤ l) :
    ∀ stretch ∈ s.stretches edges, bound ≤ stretch.1.start := by
  induction edges generalizing s with
  | nil => simp [stretches]
  | cons e edges ih =>
    intro stretch hmem
    rcases List.mem_append.1 hmem with hmem | hmem
    · exact hlast _ (of_mem_stretchTo hmem).1
    · refine ih (fun e' he' ↦ hsorted e' (List.mem_cons_of_mem _ he')) ?_ stretch hmem
      rintro l ⟨⟩
      exact hsorted e List.mem_cons_self

/-- No stretch is empty. -/
theorem lt_of_mem_stretches {s : Sweep} {edges : List Edge} :
    ∀ stretch ∈ s.stretches edges, stretch.1.start < stretch.1.stop := by
  induction edges generalizing s with
  | nil => simp [stretches]
  | cons e edges ih =>
    intro stretch hmem
    rcases List.mem_append.1 hmem with hmem | hmem
    · obtain ⟨-, hstop, hlt⟩ := of_mem_stretchTo hmem
      exact hstop ▸ hlt
    · exact ih stretch hmem

/-- **A position gets the scopes of what is open after the edges up to it.** -/
theorem spanScopes_stretches {s : Sweep} {edges : List Edge}
    (hsorted : edges.Pairwise (·.position ≤ ·.position)) (hlast : ∀ l, s.last = some l → l ≤ p)
    (hnone : s.last = none → s.opened = []) (hend : (edges.foldl step s).opened = []) :
    spanScopes (s.stretches edges) p =
      ((edges.takeWhile (·.position ≤ p)).foldl step s).opened.map (·.2) := by
  induction edges generalizing s with
  | nil =>
    have hopened : s.opened = [] := hend
    simp [stretches, spanScopes, hopened]
  | cons e edges ih =>
    obtain ⟨hfirst, hsorted⟩ := List.pairwise_cons.1 hsorted
    by_cases he : e.position ≤ p
    · -- the stretch up to the edge stops before the position
      rw [List.takeWhile_cons_of_pos (by simpa using he), List.foldl_cons,
        ← ih hsorted (by rintro l ⟨⟩; exact he) (by rintro ⟨⟩) hend, stretches, stretchTo]
      split
      · split
        · exact spanScopes_cons_of_le he
        · rfl
      · rfl
    · rw [List.takeWhile_cons_of_neg (by simpa using he), List.foldl_nil, stretches, stretchTo]
      split
      · rename_i l hl
        have hle := hlast l hl
        rw [if_pos (by omega)]
        exact spanScopes_cons_of_holds (Span.holds_eq_true.2 ⟨hle, Nat.lt_of_not_le he⟩)
      · -- the sweep has not begun yet
        rename_i hl
        rw [hnone hl]
        refine spanScopes_eq_nil fun stretch hmem ↦ Nat.lt_of_lt_of_le (Nat.lt_of_not_le he) ?_
        refine le_start_of_mem_stretches hfirst ?_ stretch hmem
        rintro l ⟨⟩
        exact Nat.le_refl _

end Sweep

/-! ### What is open -/

/-- Some edge closes the range of an index. -/
def closes (edges : List Edge) (index : Nat) : Bool :=
  edges.any fun c ↦ !c.opens && c.index == index

/-- Index and scope of the ranges that some edges open and do not close. -/
def stillOpen (edges : List Edge) : List (Nat × ScopeName) :=
  (edges.filter fun e ↦ e.opens && !closes edges e.index).map fun e ↦ (e.index, e.scope)

section Cons

variable {e : Edge} {edges : List Edge}

theorem closes_cons_of_opens (hopen : e.opens = true) : closes (e :: edges) = closes edges := by
  funext index
  simp [closes, hopen]

theorem closes_cons_of_closes (hopen : e.opens = false) (index : Nat) :
    closes (e :: edges) index = (e.index == index || closes edges index) := by
  simp [closes, hopen]

theorem stillOpen_cons_of_opens (hopen : e.opens = true) :
    stillOpen (e :: edges) =
      ([(e.index, e.scope)].filter fun o ↦ !closes edges o.1) ++ stillOpen edges := by
  rw [stillOpen, closes_cons_of_opens hopen, List.filter_cons, stillOpen]
  cases hindex : closes edges e.index <;> simp [hopen, hindex]

/-- A range that opens later has another index than the one that is closed. -/
theorem stillOpen_cons_of_closes (hopen : e.opens = false)
    (hafter : ∀ b ∈ edges, b.opens = true → e.index ≠ b.index) :
    stillOpen (e :: edges) = stillOpen edges := by
  rw [stillOpen, List.filter_cons_of_neg (by simp [hopen]), stillOpen]
  congr 1
  refine List.filter_congr fun b hb ↦ ?_
  cases hopen' : b.opens with
  | false => rfl
  | true => simp [closes_cons_of_closes hopen, hafter b hb hopen']

end Cons

/-- **After some edges those ranges are open that were open or were opened, and were not
closed.** -/
theorem Sweep.opened_foldl_step {s : Sweep} {edges : List Edge}
    (hdistinct : (s.opened.map (·.1) ++ openings edges).Nodup)
    (hafter : edges.Pairwise fun a b ↦ a.opens = false → b.opens = true → a.index ≠ b.index) :
    (edges.foldl step s).opened =
      (s.opened.filter fun o ↦ !closes edges o.1) ++ stillOpen edges := by
  induction edges generalizing s with
  | nil => simp [closes, stillOpen]
  | cons e edges ih =>
    obtain ⟨hfirst, hafter⟩ := List.pairwise_cons.1 hafter
    rw [List.foldl_cons]
    cases hopen : e.opens with
    | true =>
      have hstep : (s.step e).opened = s.opened ++ [(e.index, e.scope)] := if_pos hopen
      rw [ih _ hafter, hstep, List.filter_append, List.append_assoc, stillOpen_cons_of_opens hopen,
        closes_cons_of_opens hopen]
      rw [hstep, List.map_append, List.append_assoc]
      rwa [openings_cons_of_opens hopen] at hdistinct
    | false =>
      rw [openings_cons_of_closes hopen] at hdistinct
      have hnodup : (s.opened.map (·.1)).Nodup := (List.nodup_append.1 hdistinct).1
      have hstep : (s.step e).opened = s.opened.filter (·.1 != e.index) :=
        (if_neg (by simp [hopen])).trans (removeLast_eq_filter hnodup)
      rw [ih _ hafter, hstep, List.filter_filter,
        stillOpen_cons_of_closes hopen fun b hb ↦ hfirst b hb hopen]
      · congr 1
        refine List.filter_congr fun o _ ↦ ?_
        rw [closes_cons_of_closes hopen, Bool.not_or, Bool.and_comm, bne, BEq.comm]
      · rw [hstep]
        exact ((List.filter_sublist.map _).append_right _).nodup hdistinct

/-! ### Edges of ranges -/

/-- The edge at which a range opens. -/
def opening (r : ScopedRange) (index : Nat) : Edge :=
  ⟨r.span.start, true, r.span.stop, index, r.scope⟩

/-- The edge at which a range closes. -/
def closing (r : ScopedRange) (index : Nat) : Edge :=
  ⟨r.span.stop, false, r.span.start, index, r.scope⟩

theorem mem_sweepEdges_iff {e : Edge} :
    e ∈ sweepEdges ranges ↔ ∃ (r : ScopedRange) (i : Nat), ranges[i]? = some r ∧
      r.span.start < r.span.stop ∧ (e = r.opening i ∨ e = r.closing i) := by
  rw [sweepEdges, List.mem_mergeSort, List.mem_flatMap]
  constructor
  · rintro ⟨⟨r, i⟩, hr, he⟩
    dsimp only at he
    rw [edges] at he
    split at he
    · simp at he
    · rename_i hempty
      refine ⟨r, i, List.mem_zipIdx_iff_getElem?.1 hr,
        Span.isEmpty_eq_false.1 (Bool.eq_false_iff.2 hempty), ?_⟩
      simpa [opening, closing] using he
  · rintro ⟨r, i, hr, hpos, he⟩
    refine ⟨(r, i), List.mem_zipIdx_iff_getElem?.2 hr, ?_⟩
    dsimp only
    rw [edges, if_neg (by simpa using hpos)]
    simpa [opening, closing] using he

/-- The edge opens a range that holds the byte at a position. -/
def Edge.opensAround (e : Edge) (p : Nat) : Bool :=
  e.opens && e.position ≤ p && p < e.reach

theorem closes_takeWhile_sweepEdges {e : Edge} (he : e ∈ sweepEdges ranges)
    (hopen : e.opens = true) :
    closes ((sweepEdges ranges).filter (·.position ≤ p)) e.index = decide (e.reach ≤ p) := by
  obtain ⟨r, i, hr, hpos, rfl | rfl⟩ := mem_sweepEdges_iff.1 he
  · rw [Bool.eq_iff_iff, closes, List.any_eq_true, decide_eq_true_iff]
    constructor
    · rintro ⟨c, hc, hcloses⟩
      obtain ⟨hc, hle⟩ := List.mem_filter.1 hc
      obtain ⟨r', i', hr', -, rfl | rfl⟩ := mem_sweepEdges_iff.1 hc
      · simp [opening] at hcloses
      · obtain rfl : i' = i := by simpa [opening, closing] using hcloses
        obtain rfl := Option.some.inj (hr.symm.trans hr')
        exact of_decide_eq_true hle
    · intro hle
      refine ⟨r.closing i,
        List.mem_filter.2 ⟨mem_sweepEdges_iff.2 ⟨r, i, hr, hpos, .inr rfl⟩, ?_⟩, ?_⟩
      · exact decide_eq_true hle
      · simp [opening, closing]
  · simp [closing] at hopen

/-- A range is not opened again after it is closed. -/
theorem pairwise_index_sweepEdges (ranges : List ScopedRange) :
    (sweepEdges ranges).Pairwise fun a b ↦
      a.opens = false → b.opens = true → a.index ≠ b.index := by
  refine (pairwise_sweepEdges ranges).imp_of_mem ?_
  intro a b ha hb hle hclose hopen hindex
  obtain ⟨r, i, hr, hpos, rfl | rfl⟩ := mem_sweepEdges_iff.1 ha
  · simp [opening] at hclose
  · obtain ⟨r', i', hr', -, rfl | rfl⟩ := mem_sweepEdges_iff.1 hb
    · obtain rfl : i = i' := hindex
      obtain rfl := Option.some.inj (hr.symm.trans hr')
      exact absurd hle (Nat.not_le_of_lt hpos)
    · simp [closing] at hopen

theorem takeWhile_eq_filter_sweepEdges (ranges : List ScopedRange) (p : Nat) :
    (sweepEdges ranges).takeWhile (·.position ≤ p) =
      (sweepEdges ranges).filter (·.position ≤ p) := by
  have hsorted := pairwise_sweepEdges ranges
  generalize sweepEdges ranges = edges at hsorted
  induction edges with
  | nil => rfl
  | cons e edges ih =>
    obtain ⟨hfirst, hsorted⟩ := List.pairwise_cons.1 hsorted
    by_cases he : e.position ≤ p
    · rw [List.takeWhile_cons_of_pos (by simpa using he),
        List.filter_cons_of_pos (by simpa using he), ih hsorted]
    · rw [List.takeWhile_cons_of_neg (by simpa using he),
        List.filter_cons_of_neg (by simpa using he)]
      refine (List.filter_eq_nil_iff.2 fun e' he' ↦ ?_).symm
      have hle := hfirst e' he'
      simp
      omega

/-- Flattened ranges are the stretches of a sweep over their edges. -/
theorem eq_stretches_of_flatten {spans : List (Span × List ScopeName)}
    (h : flatten ranges = .ok spans) :
    spans = (⟨[], none, []⟩ : Sweep).stretches (sweepEdges ranges) := by
  rw [flatten] at h
  dsimp only at h
  split at h
  · obtain rfl := Except.ok.inj h
    exact Sweep.reverse_spans_foldl_step ⟨[], none, []⟩ (sweepEdges ranges)
  · contradiction

/-- **A byte gets the scopes of the ranges that hold it, in the order in which they open.** -/
theorem spanScopes_of_flatten {spans : List (Span × List ScopeName)}
    (h : flatten ranges = .ok spans) (p : Nat) :
    spanScopes spans p = ((sweepEdges ranges).filter (·.opensAround p)).map (·.scope) := by
  have hend := (closes_sweepEdges ranges).opened_eq_nil (pairwise_sweepEdges ranges)
  have hpassed := takeWhile_eq_filter_sweepEdges ranges p
  have hsublist : ((sweepEdges ranges).filter (·.position ≤ p)).Sublist (sweepEdges ranges) :=
    List.filter_sublist
  have hdistinct : (openings ((sweepEdges ranges).filter (·.position ≤ p))).Nodup :=
    ((hsublist.filter _).map _).nodup (nodup_openings_sweepEdges ranges)
  have hopened := Sweep.opened_foldl_step (s := ⟨[], none, []⟩) hdistinct
    ((pairwise_index_sweepEdges ranges).sublist hsublist)
  rw [eq_stretches_of_flatten h,
    Sweep.spanScopes_stretches (pairwise_sweepEdges ranges) (by simp) (fun _ ↦ rfl) hend, hpassed,
    hopened, List.filter_nil, List.nil_append, stillOpen, List.map_map, List.filter_filter]
  show List.map Edge.scope _ = _
  congr 1
  refine List.filter_congr fun e he ↦ ?_
  rw [Edge.opensAround]
  cases hopen : e.opens with
  | false => rfl
  | true =>
    rw [closes_takeWhile_sweepEdges he hopen]
    by_cases hle : e.position ≤ p <;> simp [hle, ← decide_not]

/-! ### Ranges that are given in order -/

/-- Of the ranges around a position each lies in those before it. -/
def IsOutsideIn (p : Nat) (ranges : List ScopedRange) : Prop :=
  ranges.Pairwise fun a b ↦ a.span.holds p = true → b.span.holds p = true →
    a.span.encloses b.span = true

theorem pairwise_zipIdx {R : ScopedRange → ScopedRange → Prop} (h : ranges.Pairwise R)
    (first : Nat) :
    (ranges.zipIdx first).Pairwise fun a b ↦ R a.1 b.1 ∧ a.2 < b.2 := by
  induction ranges generalizing first with
  | nil => exact List.Pairwise.nil
  | cons r ranges ih =>
    obtain ⟨hfirst, h⟩ := List.pairwise_cons.1 h
    rw [List.zipIdx_cons]
    refine List.pairwise_cons.2 ⟨fun b hb ↦ ⟨hfirst _ (List.fst_mem_of_mem_zipIdx hb), ?_⟩,
      ih h (first + 1)⟩
    exact List.le_snd_of_mem_zipIdx hb

theorem opening_le_opening_iff {a b : ScopedRange} {i j : Nat} :
    (a.opening i).le (b.opening j) = true ↔ a.span.start < b.span.start ∨
      a.span.start = b.span.start ∧
        (b.span.stop < a.span.stop ∨ a.span.stop = b.span.stop ∧ i ≤ j) := by
  show (decide (a.span.start < b.span.start) || (a.span.start == b.span.start &&
    (decide (b.span.stop < a.span.stop) || (a.span.stop == b.span.stop && decide (i ≤ j))))) =
      true ↔ _
  simp

/-- The edges that open ranges around a position, in the order of the ranges. -/
theorem filter_flatMap_edges (placed : List (ScopedRange × Nat)) (p : Nat) :
    (placed.flatMap fun (r, i) ↦ r.edges i).filter (·.opensAround p) =
      (placed.filter fun x ↦ x.1.span.holds p).map fun x ↦ x.1.opening x.2 := by
  induction placed with
  | nil => rfl
  | cons x placed ih =>
    obtain ⟨r, i⟩ := x
    rw [List.flatMap_cons, List.filter_append, ih, List.filter_cons]
    dsimp only
    have hopening : (r.opening i).opensAround p = r.span.holds p := rfl
    have hclosing : (r.closing i).opensAround p = false := rfl
    rw [edges]
    split
    · rename_i hempty
      have hholds : r.span.holds p = false := by
        rw [Span.isEmpty_eq_true] at hempty
        rw [Bool.eq_false_iff, ne_eq, Span.holds_eq_true]
        omega
      rw [hholds]
      rfl
    · show [r.opening i, r.closing i].filter _ ++ _ = _
      rw [List.filter_cons, List.filter_cons, hopening, hclosing]
      cases r.span.holds p <;> rfl

/-- The edges that open ranges around a position are those of the ranges that hold it. -/
theorem perm_filter_opensAround (ranges : List ScopedRange) (p : Nat) :
    ((sweepEdges ranges).filter (·.opensAround p)).Perm
      ((ranges.zipIdx.filter fun x ↦ x.1.span.holds p).map fun x ↦ x.1.opening x.2) := by
  rw [← filter_flatMap_edges]
  exact (List.mergeSort_perm _ _).filter _

/-- No two ranges of a row open at the same place of the sweep. -/
theorem eq_of_opening_le {a b : Edge}
    (ha : a ∈ (ranges.zipIdx.filter fun x ↦ x.1.span.holds p).map fun x ↦ x.1.opening x.2)
    (hb : b ∈ (ranges.zipIdx.filter fun x ↦ x.1.span.holds p).map fun x ↦ x.1.opening x.2)
    (hab : a.le b = true) (hba : b.le a = true) : a = b := by
  obtain ⟨⟨r, i⟩, hr, rfl⟩ := List.mem_map.1 ha
  obtain ⟨⟨r', i'⟩, hr', rfl⟩ := List.mem_map.1 hb
  have hle := opening_le_opening_iff.1 hab
  have hge := opening_le_opening_iff.1 hba
  obtain rfl : i = i' := by omega
  have hr := List.mem_zipIdx_iff_getElem?.1 (List.mem_of_mem_filter hr)
  have hr' := List.mem_zipIdx_iff_getElem?.1 (List.mem_of_mem_filter hr')
  obtain rfl : r = r' := Option.some.inj (hr.symm.trans hr')
  rfl

/-- The range starts before another one, or with it and holds it. -/
def OpensBefore (a b : ScopedRange) : Prop :=
  a.span.start < b.span.start ∨ a.span.start = b.span.start ∧ b.span.stop ≤ a.span.stop

/-- **If the ranges around a position are given in the order of their starts, longer ones first, it
gets their scopes in that order.** -/
theorem spanScopes_of_pairwise {spans : List (Span × List ScopeName)}
    (h : flatten ranges = .ok spans)
    (hin : ranges.Pairwise fun a b ↦
      a.span.holds p = true → b.span.holds p = true → a.OpensBefore b) :
    spanScopes spans p = (ranges.filter (·.span.holds p)).map (·.scope) := by
  have hperm := perm_filter_opensAround ranges p
  -- both rows of edges are in sweep order, in which no two edges have the same place
  have hsorted : ((sweepEdges ranges).filter (·.opensAround p)).Pairwise (·.le ·) :=
    (List.pairwise_mergeSort Edge.le_trans Edge.le_total _).filter _
  have hgiven : ((ranges.zipIdx.filter fun x ↦ x.1.span.holds p).map
      fun x ↦ x.1.opening x.2).Pairwise (·.le ·) := by
    refine List.pairwise_map.2 (List.pairwise_filter.2 ((pairwise_zipIdx hin 0).imp ?_))
    rintro ⟨a, i⟩ ⟨b, j⟩ ⟨hbefore, hlt⟩ ha hb
    refine opening_le_opening_iff.2 ?_
    rcases hbefore ha hb with hstart | ⟨hstart, hstop⟩
    · exact .inl hstart
    · dsimp only at hlt hstart hstop ⊢
      omega
  have hplace : ∀ a b : Edge, a ∈ (sweepEdges ranges).filter (·.opensAround p) →
      b ∈ (ranges.zipIdx.filter fun x ↦ x.1.span.holds p).map (fun x ↦ x.1.opening x.2) →
      a.le b = true → b.le a = true → a = b :=
    fun a b ha hb ↦ eq_of_opening_le (hperm.mem_iff.1 ha) hb
  rw [spanScopes_of_flatten h, hperm.eq_of_pairwise hplace hsorted hgiven, List.map_map]
  show List.map (ScopedRange.scope ∘ Prod.fst) _ = _
  rw [← List.map_map]
  congr 1
  calc (ranges.zipIdx.filter fun x ↦ x.1.span.holds p).map Prod.fst
      = (ranges.zipIdx.map Prod.fst).filter (·.span.holds p) := by
        rw [List.filter_map]
        rfl
    _ = ranges.filter (·.span.holds p) := by rw [List.zipIdx_map_fst]

/-- If the ranges around a position are given from the outside in, it gets their scopes in that
order. -/
theorem spanScopes_of_isOutsideIn {spans : List (Span × List ScopeName)}
    (h : flatten ranges = .ok spans) (hin : IsOutsideIn p ranges) :
    spanScopes spans p = (ranges.filter (·.span.holds p)).map (·.scope) := by
  refine spanScopes_of_pairwise h (hin.imp fun hencloses ha hb ↦ ?_)
  obtain ⟨hstart, hstop⟩ := Span.encloses_eq_true.1 (hencloses ha hb)
  exact (Nat.lt_or_eq_of_le hstart).imp_right fun heq ↦ ⟨heq, hstop⟩

end ScopedRange

end ScopeGrammar
