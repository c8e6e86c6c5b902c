import Mathlib.Data.Finset.Sort
import Mathlib.Data.List.Chain
import Mathlib.Data.List.Perm.Basic
import ScopeGrammar.Proofs.Scope.Sweep

/-!
# The spans that a sweep makes

What flattening comes to can be said without a sweep (`flatten_spans`): there is one span between
any two neighbouring ends of ranges that hold text, and it has the scopes of the ranges around it,
by start, longer ones first, and otherwise as they are given. Nothing is asked of the ranges: they
may be equal, overlap, be empty or run backwards.

The sweep stops at every end, so that its stretches lie between neighbours (`map_fst_stretches`). A
range that holds the first byte of a stretch holds all of it, since it does not end inside of it
(`holds_start_eq_encloses`), and the ranges that hold a byte are those that the sweep has opened and
not closed there.
-/

namespace ScopeGrammar

/-! ### Neighbouring places -/

/-- The spans from each place of a row to the next. -/
def Span.between (places : List Nat) : List Span :=
  places.zipWith Span.mk places.tail

namespace Span

variable {places : List Nat} {s : Span} {p q : Nat}

theorem between_cons_cons (p q : Nat) (places : List Nat) :
    between (p :: q :: places) = ⟨p, q⟩ :: between (q :: places) := rfl

/-- Between the ends of such a span lies no other place. -/
theorem of_mem_between (h : places.Pairwise (· < ·)) (hs : s ∈ between places) :
    s.start ∈ places ∧ s.stop ∈ places ∧ s.start < s.stop ∧
      ∀ p ∈ places, p ≤ s.start ∨ s.stop ≤ p := by
  induction places with
  | nil => simp [between] at hs
  | cons p places ih =>
    cases places with
    | nil => simp [between] at hs
    | cons q places =>
      obtain ⟨hfirst, hrest⟩ := List.pairwise_cons.1 h
      rw [between_cons_cons] at hs
      rcases List.mem_cons.1 hs with rfl | hs
      · refine ⟨by simp, by simp, hfirst q List.mem_cons_self, fun p' hp' ↦ ?_⟩
        rcases List.mem_cons.1 hp' with rfl | hp'
        · exact .inl (Nat.le_refl _)
        · rcases List.mem_cons.1 hp' with rfl | hp'
          · exact .inr (Nat.le_refl _)
          · exact .inr (Nat.le_of_lt ((List.pairwise_cons.1 hrest).1 p' hp'))
      · obtain ⟨hstart, hstop, hlt, hnone⟩ := ih hrest hs
        refine ⟨List.mem_cons_of_mem _ hstart, List.mem_cons_of_mem _ hstop, hlt, fun p' hp' ↦ ?_⟩
        rcases List.mem_cons.1 hp' with rfl | hp'
        · exact .inl (Nat.le_of_lt (hfirst _ hstart))
        · exact hnone p' hp'

/-- No such span starts before those that stand before it have stopped. -/
theorem pairwise_between (h : places.Pairwise (· < ·)) :
    (between places).Pairwise fun a b ↦ a.stop ≤ b.start := by
  induction places with
  | nil => exact .nil
  | cons p places ih =>
    cases places with
    | nil => exact .nil
    | cons q places =>
      obtain ⟨-, hrest⟩ := List.pairwise_cons.1 h
      rw [between_cons_cons]
      refine List.pairwise_cons.2 ⟨fun s hs ↦ ?_, ih hrest⟩
      rcases List.mem_cons.1 (of_mem_between hrest hs).1 with heq | hstart
      · exact Nat.le_of_eq heq.symm
      · exact Nat.le_of_lt ((List.pairwise_cons.1 hrest).1 _ hstart)

/-- Each such span starts where the one before it stops. -/
theorem isChain_between (places : List Nat) :
    (between places).IsChain fun a b ↦ a.stop = b.start := by
  induction places with
  | nil => exact .nil
  | cons p places ih =>
    cases places with
    | nil => exact .nil
    | cons q places =>
      rw [between_cons_cons]
      cases places with
      | nil => exact .singleton _
      | cons r places =>
        rw [between_cons_cons] at ih ⊢
        exact .cons_cons rfl ih

/-- Such spans hold what lies from the first place on, up to the last one. -/
theorem exists_holds_between_iff (h : places.Pairwise (· < ·)) :
    (∃ s ∈ between places, s.holds p = true) ↔ (∃ q ∈ places, q ≤ p) ∧ ∃ q ∈ places, p < q := by
  constructor
  · rintro ⟨s, hs, hholds⟩
    obtain ⟨hstart, hstop, -, -⟩ := of_mem_between h hs
    obtain ⟨hle, hlt⟩ := holds_eq_true.1 hholds
    exact ⟨⟨_, hstart, hle⟩, _, hstop, hlt⟩
  · rintro ⟨⟨first, hfirst, hle⟩, last, hlast, hlt⟩
    induction places generalizing first with
    | nil => cases hfirst
    | cons q places ih =>
      obtain ⟨hbefore, hrest⟩ := List.pairwise_cons.1 h
      have hq : q ≤ p := by
        rcases List.mem_cons.1 hfirst with rfl | hfirst
        · exact hle
        · exact Nat.le_trans (Nat.le_of_lt (hbefore _ hfirst)) hle
      have hlast : last ∈ places :=
        (List.mem_cons.1 hlast).resolve_left fun heq ↦ Nat.not_lt_of_le hq (heq ▸ hlt)
      cases places with
      | nil => cases hlast
      | cons r places =>
        rw [between_cons_cons]
        -- the position lies before the next place, or in what comes after that
        rcases Nat.lt_or_ge p r with hr | hr
        · exact ⟨⟨q, r⟩, List.mem_cons_self, holds_eq_true.2 ⟨hq, hr⟩⟩
        · obtain ⟨s, hs, hholds⟩ := ih hrest r List.mem_cons_self hr hlast
          exact ⟨s, List.mem_cons_of_mem _ hs, hholds⟩

end Span

/-- The first place of a row that grows is kept when repetitions are dropped. -/
theorem exists_dedup_cons_of_pairwise {p : Nat} {places : List Nat}
    (h : (p :: places).Pairwise (· ≤ ·)) : ∃ rest, (p :: places).dedup = p :: rest := by
  induction places generalizing p with
  | nil => exact ⟨[], rfl⟩
  | cons q places ih =>
    obtain ⟨hfirst, hrest⟩ := List.pairwise_cons.1 h
    by_cases hmem : p ∈ q :: places
    · have hqp : q ≤ p := by
        rcases List.mem_cons.1 hmem with rfl | hmem
        · exact Nat.le_refl _
        · exact (List.pairwise_cons.1 hrest).1 p hmem
      obtain rfl : p = q := Nat.le_antisymm (hfirst q List.mem_cons_self) hqp
      rw [List.dedup_cons_of_mem hmem]
      exact ih hrest
    · exact ⟨_, List.dedup_cons_of_notMem hmem⟩

namespace ScopedRange

variable {ranges : List ScopedRange} {s : Span} {p : Nat}

/-! ### The ends of ranges -/

/-- Where ranges that hold text start and stop, in order and each place once. -/
def ends (ranges : List ScopedRange) : List Nat :=
  ((ranges.filter fun r ↦ !r.span.isEmpty).flatMap fun r ↦
    [r.span.start, r.span.stop]).toFinset.sort (· ≤ ·)

theorem mem_ends_iff :
    p ∈ ends ranges ↔
      ∃ r ∈ ranges, r.span.isEmpty = false ∧ (p = r.span.start ∨ p = r.span.stop) := by
  simp [ends, and_assoc]

/-- A range that holds text starts before it stops: some end lies at or before a place if a start
does. -/
theorem exists_end_le_iff :
    (∃ q ∈ ends ranges, q ≤ p) ↔ ∃ r ∈ ranges, r.span.isEmpty = false ∧ r.span.start ≤ p := by
  constructor
  · rintro ⟨q, hq, hle⟩
    obtain ⟨r, hr, htext, hend⟩ := mem_ends_iff.1 hq
    have hlt := Span.isEmpty_eq_false.1 htext
    exact ⟨r, hr, htext, by omega⟩
  · rintro ⟨r, hr, htext, hle⟩
    exact ⟨_, mem_ends_iff.2 ⟨r, hr, htext, .inl rfl⟩, hle⟩

/-- Some end lies after a place if a stop does. -/
theorem exists_lt_end_iff :
    (∃ q ∈ ends ranges, p < q) ↔ ∃ r ∈ ranges, r.span.isEmpty = false ∧ p < r.span.stop := by
  constructor
  · rintro ⟨q, hq, hlt⟩
    obtain ⟨r, hr, htext, hend⟩ := mem_ends_iff.1 hq
    have hlt := Span.isEmpty_eq_false.1 htext
    exact ⟨r, hr, htext, by omega⟩
  · rintro ⟨r, hr, htext, hlt⟩
    exact ⟨_, mem_ends_iff.2 ⟨r, hr, htext, .inr rfl⟩, hlt⟩

theorem pairwise_ends (ranges : List ScopedRange) : (ends ranges).Pairwise (· < ·) :=
  (Finset.sortedLT_sort _).pairwise

/-- The ends of ranges are the positions of their edges. -/
theorem dedup_position_sweepEdges (ranges : List ScopedRange) :
    ((sweepEdges ranges).map (·.position)).dedup = ends ranges := by
  have hsorted : ((sweepEdges ranges).map (·.position)).dedup.Pairwise (· ≤ ·) :=
    (List.pairwise_map.2 (pairwise_sweepEdges ranges)).sublist (List.dedup_sublist _)
  rw [← (List.toFinset_sort (· ≤ ·) (List.nodup_dedup _)).2 hsorted, ends]
  congr 1
  ext p
  simp only [List.mem_toFinset, List.mem_dedup, List.mem_map, mem_sweepEdges_iff, List.mem_flatMap,
    List.mem_filter, List.mem_pair]
  constructor
  · rintro ⟨e, ⟨r, i, hr, hpos, rfl | rfl⟩, rfl⟩
    · exact ⟨r, ⟨List.mem_of_getElem? hr, by simpa using hpos⟩, .inl rfl⟩
    · exact ⟨r, ⟨List.mem_of_getElem? hr, by simpa using hpos⟩, .inr rfl⟩
  · rintro ⟨r, ⟨hr, hpos⟩, rfl | rfl⟩
    · obtain ⟨i, hr⟩ := List.mem_iff_getElem?.1 hr
      exact ⟨r.opening i, ⟨r, i, hr, by simpa using hpos, .inl rfl⟩, rfl⟩
    · obtain ⟨i, hr⟩ := List.mem_iff_getElem?.1 hr
      exact ⟨r.closing i, ⟨r, i, hr, by simpa using hpos, .inr rfl⟩, rfl⟩

/-! ### Stretches -/

/-- **The stretches of a sweep lie between neighbouring places** of where it is and its edges. -/
theorem Sweep.map_fst_stretches {sweep : Sweep} {edges : List Edge}
    (hsorted : (sweep.last.toList ++ edges.map (·.position)).Pairwise (· ≤ ·)) :
    (sweep.stretches edges).map (·.1) =
      Span.between (sweep.last.toList ++ edges.map (·.position)).dedup := by
  induction edges generalizing sweep with
  | nil => cases hlast : sweep.last <;> rfl
  | cons e edges ih =>
    have hrest : (e.position :: edges.map (·.position)).Pairwise (· ≤ ·) :=
      hsorted.sublist (List.sublist_append_right _ _)
    have hstep : ((sweep.step e).stretches edges).map (·.1) =
        Span.between (e.position :: edges.map (·.position)).dedup := ih hrest
    rw [stretches, List.map_append, hstep, stretchTo]
    cases hlast : sweep.last with
    | none => rfl
    | some last =>
      rw [hlast] at hsorted
      obtain ⟨hfirst, -⟩ := List.pairwise_cons.1 hsorted
      dsimp only
      split
      · -- the place of the sweep lies before all edges
        rename_i hlt
        have hnew : last ∉ e.position :: edges.map (·.position) := by
          intro hmem
          rcases List.mem_cons.1 hmem with heq | hmem
          · omega
          · have hle := (List.pairwise_cons.1 hrest).1 last hmem
            omega
        obtain ⟨rest, hdedup⟩ := exists_dedup_cons_of_pairwise hrest
        show _ = Span.between (last :: e.position :: edges.map (·.position)).dedup
        rw [List.dedup_cons_of_notMem hnew, hdedup]
        rfl
      · rename_i hlt
        have heq : last = e.position :=
          Nat.le_antisymm (hfirst _ List.mem_cons_self) (Nat.le_of_not_lt hlt)
        show _ = Span.between (last :: e.position :: edges.map (·.position)).dedup
        rw [heq, List.dedup_cons_of_mem List.mem_cons_self]
        rfl

/-- Of spans that follow each other the one that holds a position tells its scopes. -/
theorem spanScopes_of_mem {spans : List (Span × List ScopeName)} {span : Span × List ScopeName}
    (hordered : spans.Pairwise fun a b ↦ a.1.stop ≤ b.1.start) (hmem : span ∈ spans)
    (hholds : span.1.holds p = true) : spanScopes spans p = span.2 := by
  induction spans with
  | nil => cases hmem
  | cons first spans ih =>
    obtain ⟨hfirst, hordered⟩ := List.pairwise_cons.1 hordered
    rcases List.mem_cons.1 hmem with rfl | hmem
    · exact spanScopes_cons_of_holds hholds
    · have hle := Nat.le_trans (hfirst span hmem) (Span.holds_eq_true.1 hholds).1
      rw [spanScopes_cons_of_le hle]
      exact ih hordered hmem

/-! ### The ranges around a span -/

/-- Between neighbouring ends, a range holds the first byte if it holds them all. -/
theorem holds_start_eq_encloses {r : ScopedRange} (hr : r ∈ ranges)
    (hs : s ∈ Span.between (ends ranges)) : r.span.holds s.start = r.span.encloses s := by
  obtain ⟨-, -, hlt, hnone⟩ := Span.of_mem_between (pairwise_ends ranges) hs
  rw [Bool.eq_iff_iff, Span.holds_eq_true, Span.encloses_eq_true]
  constructor
  · rintro ⟨hstart, hstop⟩
    have hend : r.span.stop ∈ ends ranges :=
      mem_ends_iff.2 ⟨r, hr, Span.isEmpty_eq_false.2 (Nat.lt_of_le_of_lt hstart hstop), .inr rfl⟩
    exact ⟨hstart, (hnone _ hend).resolve_left (Nat.not_le_of_lt hstop)⟩
  · rintro ⟨hstart, hstop⟩
    exact ⟨hstart, Nat.lt_of_lt_of_le hlt hstop⟩

/-- The order in which ranges nest that have a place in a list: by start, longer ones first, then by
place. -/
def placedLE (a b : ScopedRange × Nat) : Prop :=
  a.1.span.start < b.1.span.start ∨ a.1.span.start = b.1.span.start ∧
    (b.1.span.stop < a.1.span.stop ∨ a.1.span.stop = b.1.span.stop ∧ a.2 ≤ b.2)

/-- **What is open at a position are the ranges that hold it**, in the order in which they nest. -/
theorem exists_perm_opensAround (ranges : List ScopedRange) (p : Nat) :
    ∃ around : List (ScopedRange × Nat),
      around.Perm (ranges.zipIdx.filter fun x ↦ x.1.span.holds p) ∧ around.Pairwise placedLE ∧
      ((sweepEdges ranges).filter (·.opensAround p)).map (·.scope) = around.map (·.1.scope) := by
  obtain ⟨around, heq, hperm⟩ := (congrFun₂ (List.eq_map_comp_perm _) _ _).mpr
    (perm_filter_opensAround ranges p)
  have hsorted : ((sweepEdges ranges).filter (·.opensAround p)).Pairwise (·.le ·) :=
    (List.pairwise_mergeSort Edge.le_trans Edge.le_total _).filter _
  rw [heq] at hsorted
  refine ⟨around, hperm, ?_, ?_⟩
  · exact (List.pairwise_map.1 hsorted).imp opening_le_opening_iff.1
  · rw [heq, List.map_map]
    rfl

/-! ### Flattened ranges -/

/-- **Flattened ranges.** Flattening gives one span between any two neighbouring ends of ranges that
hold text. The scopes of a span are those of the ranges around it, by start, longer ones first, then
as they are given; without any there are none. So the spans are not empty, each one starts where the
one before it stops, and together they reach from the least start to the greatest stop. -/
theorem flatten_spans (ranges : List ScopedRange) :
    ∃ spans, flatten ranges = .ok spans ∧
      spans.map (·.1) = Span.between (ends ranges) ∧
      (∀ s ∈ spans, ∃ around : List (ScopedRange × Nat),
        around.Perm (ranges.zipIdx.filter fun x ↦ x.1.span.encloses s.1) ∧
        around.Pairwise placedLE ∧ s.2 = around.map (·.1.scope)) ∧
      (∀ s ∈ spans, s.1.start < s.1.stop) ∧
      (spans.IsChain fun a b ↦ a.1.stop = b.1.start) ∧
      ∀ p, (∃ s ∈ spans, s.1.holds p = true) ↔
        (∃ r ∈ ranges, r.span.isEmpty = false ∧ r.span.start ≤ p) ∧
        ∃ r ∈ ranges, r.span.isEmpty = false ∧ p < r.span.stop := by
  obtain ⟨spans, hflatten, -⟩ := faultless_flatten ranges
  have hbetween : spans.map (·.1) = Span.between (ends ranges) := by
    rw [eq_stretches_of_flatten hflatten, ← dedup_position_sweepEdges]
    exact @Sweep.map_fst_stretches ⟨[], none, []⟩ _
      (List.pairwise_map.2 (pairwise_sweepEdges ranges))
  have hmem : ∀ s ∈ spans, s.1 ∈ Span.between (ends ranges) := fun s hs ↦
    hbetween ▸ List.mem_map_of_mem hs
  have hlt : ∀ s ∈ spans, s.1.start < s.1.stop := fun s hs ↦
    (Span.of_mem_between (pairwise_ends ranges) (hmem s hs)).2.2.1
  have hchain : spans.IsChain fun a b ↦ a.1.stop = b.1.start := by
    have hchain := Span.isChain_between (ends ranges)
    rw [← hbetween] at hchain
    exact (List.isChain_map _).1 hchain
  refine ⟨spans, hflatten, hbetween, fun s hs ↦ ?_, hlt, hchain, fun p ↦ ?_⟩
  · have hordered : spans.Pairwise fun a b ↦ a.1.stop ≤ b.1.start := by
      have hordered := Span.pairwise_between (pairwise_ends ranges)
      rw [← hbetween] at hordered
      exact List.pairwise_map.1 hordered
    have hstart : s.1.holds s.1.start = true :=
      Span.holds_eq_true.2 ⟨Nat.le_refl _, hlt s hs⟩
    obtain ⟨around, hperm, hsorted, hscopes⟩ := exists_perm_opensAround ranges s.1.start
    refine ⟨around, ?_, hsorted, ?_⟩
    · rwa [List.filter_congr fun x hx ↦
        holds_start_eq_encloses (List.fst_mem_of_mem_zipIdx hx) (hmem s hs)] at hperm
    · rw [← spanScopes_of_mem hordered hs hstart, spanScopes_of_flatten hflatten, hscopes]
  · have hholds := Span.exists_holds_between_iff (p := p) (pairwise_ends ranges)
    rw [← hbetween] at hholds
    rw [exists_end_le_iff, exists_lt_end_iff] at hholds
    simpa using hholds

end ScopedRange

end ScopeGrammar
