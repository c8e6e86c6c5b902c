import ScopeGrammar.Proofs.Capture.Laminar

/-!
# What captures are children of

A capture would best be a child of the smallest one before it that holds it (`IsSmallest`). What the
forest makes it a child of is the latest one that holds both it and all that were placed in between
(`IsInnermost`): any other one has been closed by then. The two are the same for captures that do
not overlap, and exactly if the smallest one that holds the capture is still open
(`parent_of_links`). They are not the same for all captures: one that sticks out of the smallest one
closes it, and those that come later are put into a larger one, or nowhere
(`sticksOut_not_smallest`).
-/

namespace ScopeGrammar

namespace CaptureTree

variable {α : Type} {before : List (Item α)} {s : Span} {x y : Item α} {i j : Nat}

/-! ### The captures around a span -/

/-- The capture at a place of a row holds a span. -/
def HoldsAt (before : List (Item α)) (s : Span) (j : Nat) (x : Item α) : Prop :=
  before[j]? = some x ∧ x.2.1.encloses s = true

/-- The capture holds a span and all that come after it in the row. -/
def IsOpenAt (before : List (Item α)) (s : Span) (j : Nat) (x : Item α) : Prop :=
  HoldsAt before s j x ∧ ∀ i y, j < i → before[i]? = some y → x.2.1.encloses y.2.1 = true

/-- The capture is the smallest one that holds a span, and the latest of those that are as small. -/
def IsSmallestAt (before : List (Item α)) (s : Span) (j : Nat) (x : Item α) : Prop :=
  HoldsAt before s j x ∧ ∀ i y, HoldsAt before s i y →
    x.2.1.length < y.2.1.length ∨ x.2.1.length = y.2.1.length ∧ i ≤ j

/-- The smallest capture of a row that holds a span, the latest of those that are as small, if any
holds it. -/
def IsSmallest (before : List (Item α)) (s : Span) : Option (Item α) → Prop
  | none => ∀ j x, ¬ HoldsAt before s j x
  | some x => ∃ j, IsSmallestAt before s j x

/-- The latest capture of a row that holds a span and all that come after it, if any does. -/
def IsInnermost (before : List (Item α)) (s : Span) : Option (Item α) → Prop
  | none => ∀ j x, ¬ IsOpenAt before s j x
  | some x => ∃ j, IsOpenAt before s j x ∧ ∀ i y, IsOpenAt before s i y → i ≤ j

theorem isOpenAt_cons_succ : IsOpenAt (x :: before) s (j + 1) y ↔ IsOpenAt before s j y := by
  refine and_congr Iff.rfl ⟨fun h i z hlt hz ↦ h (i + 1) z (by omega) hz, fun h i z hlt hz ↦ ?_⟩
  cases i with
  | zero => omega
  | succ i => exact h i z (by omega) hz

theorem isOpenAt_cons_zero : IsOpenAt (x :: before) s 0 y ↔
    x = y ∧ x.2.1.encloses s = true ∧ ∀ z ∈ before, x.2.1.encloses z.2.1 = true := by
  constructor
  · rintro ⟨⟨heq, hs⟩, hrest⟩
    obtain rfl := Option.some.inj heq
    refine ⟨rfl, hs, fun z hz ↦ ?_⟩
    obtain ⟨i, hz⟩ := List.mem_iff_getElem?.1 hz
    exact hrest (i + 1) z (by omega) hz
  · rintro ⟨rfl, hs, hrest⟩
    refine ⟨⟨rfl, hs⟩, fun i z hlt hz ↦ ?_⟩
    cases i with
    | zero => omega
    | succ i => exact hrest z (List.mem_of_getElem? hz)

/-- **The first open capture that holds a span is the innermost one.** -/
theorem isInnermost_find?_openIn (before : List (Item α)) (s : Span) :
    IsInnermost before s ((openIn before).find? (·.2.1.encloses s)) := by
  induction before with
  | nil => exact fun j x h ↦ by simp [IsOpenAt, HoldsAt] at h
  | cons x before ih =>
    rw [openIn, List.find?_append]
    cases hfind : (openIn before).find? (·.2.1.encloses s) with
    | some y =>
      rw [hfind] at ih
      obtain ⟨j, hopen, hlatest⟩ := ih
      refine ⟨j + 1, isOpenAt_cons_succ.2 hopen, fun i z hz ↦ ?_⟩
      cases i with
      | zero => omega
      | succ i => exact Nat.succ_le_succ (hlatest i z (isOpenAt_cons_succ.1 hz))
    | none =>
      rw [hfind] at ih
      -- no later capture is open, and so only the first one can be
      by_cases hfirst : IsOpenAt (x :: before) s 0 x
      · obtain ⟨-, hs, hrest⟩ := isOpenAt_cons_zero.1 hfirst
        rw [if_pos (List.all_eq_true.2 hrest)]
        have hfind : [x].find? (·.2.1.encloses s) = some x := List.find?_cons_of_pos hs
        rw [hfind]
        refine ⟨0, hfirst, fun i z hz ↦ ?_⟩
        cases i with
        | zero => exact Nat.le_refl 0
        | succ i => exact absurd (isOpenAt_cons_succ.1 hz) (ih i z)
      · have hnone : (if before.all (x.2.1.encloses ·.2.1) then [x] else []).find?
            (·.2.1.encloses s) = none := by
          split
          · rename_i hall
            refine List.find?_eq_none.2 fun y hy hs ↦ hfirst ?_
            rw [List.mem_singleton.1 hy] at hs
            exact isOpenAt_cons_zero.2 ⟨rfl, hs, List.all_eq_true.1 hall⟩
          · rfl
        rw [hnone]
        intro i z hz
        cases i with
        | zero =>
          obtain ⟨rfl, -⟩ := isOpenAt_cons_zero.1 hz
          exact hfirst hz
        | succ i => exact ih i z (isOpenAt_cons_succ.1 hz)

/-- If any capture holds a span, there is a smallest one. -/
theorem exists_isSmallestAt (h : HoldsAt before s i x) : ∃ j y, IsSmallestAt before s j y := by
  induction before generalizing i x with
  | nil => simp [HoldsAt] at h
  | cons first before ih =>
    by_cases hrest : ∃ i x, HoldsAt before s i x
    · obtain ⟨i', x', hx'⟩ := hrest
      obtain ⟨j, y, hy, hsmallest⟩ := ih hx'
      by_cases hfirst : first.2.1.encloses s = true ∧ first.2.1.length < y.2.1.length
      · refine ⟨0, first, ⟨rfl, hfirst.1⟩, fun k z hz ↦ ?_⟩
        cases k with
        | zero =>
          obtain rfl := Option.some.inj hz.1
          exact .inr ⟨rfl, Nat.le_refl 0⟩
        | succ k =>
          have hle := hsmallest k z hz
          omega
      · refine ⟨j + 1, y, hy, fun k z hz ↦ ?_⟩
        cases k with
        | zero =>
          obtain ⟨heq, hs⟩ := hz
          obtain rfl := Option.some.inj heq
          have hle := Nat.le_of_not_lt fun hlt ↦ hfirst ⟨hs, hlt⟩
          omega
        | succ k =>
          have hle := hsmallest k z hz
          omega
    · cases i with
      | zero =>
        refine ⟨0, x, h, fun k z hz ↦ ?_⟩
        cases k with
        | zero =>
          obtain rfl := Option.some.inj (h.1.symm.trans hz.1)
          exact .inr ⟨rfl, Nat.le_refl 0⟩
        | succ k => exact absurd ⟨k, z, hz⟩ hrest
      | succ i => exact absurd ⟨i, x, h⟩ hrest

/-- The smallest capture around a span is at one place only. -/
theorem IsSmallestAt.unique (hx : IsSmallestAt before s i x) (hy : IsSmallestAt before s j y) :
    i = j ∧ x = y := by
  have hle := hx.2 j y hy.1
  have hge := hy.2 i x hx.1
  obtain rfl : i = j := by omega
  exact ⟨rfl, Option.some.inj (hx.1.1.symm.trans hy.1.1)⟩

/-- **The innermost capture around a span is the smallest one exactly if that is open.** -/
theorem isSmallest_iff_of_isInnermost {above : Option (Item α)} (h : IsInnermost before s above) :
    IsSmallest before s above ↔ ∀ j y, IsSmallestAt before s j y → IsOpenAt before s j y := by
  constructor
  · intro hsmallest j y hy
    cases above with
    | none => exact absurd hy.1 (hsmallest j y)
    | some x =>
      obtain ⟨i, hx⟩ := hsmallest
      obtain ⟨rfl, rfl⟩ := hx.unique hy
      obtain ⟨k, hopen, -⟩ := h
      -- the same capture is open at a place that is not later
      have hle : k ≤ i := by
        have hle := hx.2 k x hopen.1
        omega
      exact ⟨hx.1, fun i' z hlt hz ↦ hopen.2 i' z (by omega) hz⟩
  · intro hopen
    cases above with
    | none =>
      intro i x hx
      obtain ⟨j, y, hy⟩ := exists_isSmallestAt hx
      exact h j y (hopen j y hy)
    | some x =>
      obtain ⟨k, hx, hlatest⟩ := h
      obtain ⟨j, y, hy⟩ := exists_isSmallestAt hx.1
      obtain ⟨-, hrest⟩ := hopen j y hy
      have hle := hlatest j y (hopen j y hy)
      rcases Nat.lt_or_eq_of_le hle with hlt | rfl
      · -- an inner one that holds the span would be smaller
        have hencloses := Span.encloses_eq_true.1 (hrest k x hlt hx.1.1)
        have hsmaller := hy.2 k x hx.1
        rw [Span.length, Span.length] at hsmaller
        omega
      · obtain rfl := Option.some.inj (hy.1.1.symm.trans hx.1.1)
        exact ⟨j, hy⟩

/-! ### Parents in a forest -/

section Forest

variable {m : Match} {labels : List (Nat × α)} {before after : List (Item α × Option (Item α))}
  {above : Option (Item α)}

theorem of_linksFrom_eq_append {done placed : List (Item α)}
    (h : linksFrom done placed = before ++ (x, above) :: after) :
    above = (openIn (done ++ before.map (·.1))).find? (·.2.1.encloses x.2.1) := by
  induction before generalizing done placed with
  | nil =>
    cases placed with
    | nil => cases h
    | cons y placed =>
      obtain ⟨heq, -⟩ := List.cons.inj h
      obtain ⟨rfl, rfl⟩ := Prod.mk.inj heq
      rw [List.map_nil, List.append_nil]
  | cons first before ih =>
    cases placed with
    | nil => cases h
    | cons y placed =>
      obtain ⟨rfl, hrest⟩ := List.cons.inj h
      rw [ih hrest, List.append_assoc]
      rfl

/-- Every capture of a forest is a child of the smallest one before it that holds it. -/
def HasSmallestParents (m : Match) (labels : List (Nat × α)) : Prop :=
  ∀ before x above after, linksOfAll none (forest m labels) = before ++ (x, above) :: after →
    IsSmallest (before.map (·.1)) x.2.1 above

/-- **What a capture is a child of.** Of the captures before it, the parent of a capture is the
latest one that holds it and all placed in between, and it has none if there is none. That is the
smallest one that holds it exactly if that one holds all placed in between, which it does if no
captures overlap. -/
theorem parent_of_links (h : linksOfAll none (forest m labels) = before ++ (x, above) :: after) :
    IsInnermost (before.map (·.1)) x.2.1 above ∧
      (IsSmallest (before.map (·.1)) x.2.1 above ↔
        ∀ j y, IsSmallestAt (before.map (·.1)) x.2.1 j y → IsOpenAt (before.map (·.1)) x.2.1 j y) ∧
      (IsLaminar m labels → IsSmallest (before.map (·.1)) x.2.1 above) := by
  have hinnermost : IsInnermost (before.map (·.1)) x.2.1 above := by
    rw [linksOfAll_forest] at h
    rw [of_linksFrom_eq_append h]
    exact isInnermost_find?_openIn _ _
  have hplaced : (items m labels).mergeSort itemLE =
      before.map (·.1) ++ x :: after.map (·.1) := by
    rw [← preorder_forest, preorder, h, List.map_append, List.map_cons]
  refine ⟨hinnermost, isSmallest_iff_of_isInnermost hinnermost, fun hlaminar ↦ ?_⟩
  refine (isSmallest_iff_of_isInnermost hinnermost).2 fun j y hy ↦ ⟨hy.1, fun i z hlt hz ↦ ?_⟩
  have hsorted := hlaminar.pairwise
  rw [hplaced] at hsorted
  obtain ⟨hbefore, -, hlast⟩ := List.pairwise_append.1 hsorted
  -- what is placed in between starts before the capture, which lies in the smallest one
  have hyz : y.2.1.start ≤ z.2.1.start ∧ y.2.1.Precedes z.2.1 := by
    obtain ⟨hj, rfl⟩ := List.getElem?_eq_some_iff.1 hy.1.1
    obtain ⟨hi, rfl⟩ := List.getElem?_eq_some_iff.1 hz
    exact List.pairwise_iff_getElem.1 hbefore j i hj hi hlt
  have hzx := (hlast z (List.mem_of_getElem? hz) x List.mem_cons_self).1
  have hx : x ∈ items m labels :=
    List.mem_mergeSort.1 (hplaced ▸ List.mem_append_right _ List.mem_cons_self)
  have hpos := (of_mem_items hx).2.1
  have hencloses := Span.encloses_eq_true.1 hy.1.2
  refine hyz.2.resolve_right ?_
  omega

end Forest

/-- A match with three groups. The second one sticks out of the first, and the third lies in
both. -/
def sticksOut : Match := ⟨⟨0, 10⟩, [some ⟨2, 5⟩, some ⟨4, 9⟩, some ⟨4, 5⟩]⟩

theorem links_sticksOut :
    linksOfAll none (forest sticksOut [(1, "a"), (2, "b"), (3, "c")]) =
      [((1, ⟨2, 5⟩, "a"), none), ((2, ⟨4, 9⟩, "b"), none),
        ((3, ⟨4, 5⟩, "c"), some (2, ⟨4, 9⟩, "b"))] := by
  rw [linksOfAll_forest, List.mergeSort_of_pairwise (by decide)]
  rfl

/-- The third group is a child of the second one, which is larger than the first. -/
theorem parent_of_links_sticksOut :
    linksOfAll none (forest sticksOut [(1, "a"), (2, "b"), (3, "c")]) =
        [((1, ⟨2, 5⟩, "a"), none), ((2, ⟨4, 9⟩, "b"), none)] ++
          ((3, ⟨4, 5⟩, "c"), some (2, ⟨4, 9⟩, "b")) :: [] ∧
      IsInnermost [(1, ⟨2, 5⟩, "a"), (2, ⟨4, 9⟩, "b")] ⟨4, 5⟩ (some (2, ⟨4, 9⟩, "b")) := by
  have hlinks : linksOfAll none (forest sticksOut [(1, "a"), (2, "b"), (3, "c")]) =
      [((1, ⟨2, 5⟩, "a"), none), ((2, ⟨4, 9⟩, "b"), none)] ++
        ((3, ⟨4, 5⟩, "c"), some (2, ⟨4, 9⟩, "b")) :: [] := links_sticksOut
  exact ⟨hlinks, (parent_of_links hlinks).1⟩

/-- **A capture that sticks out of the smallest one around the next closes it.** The groups have
different indices, and yet the third is not a child of the first, which is the smallest around
it. -/
theorem sticksOut_not_smallest :
    ([(1, "a"), (2, "b"), (3, "c")].map (·.1)).Nodup ∧
      ¬ HasSmallestParents sticksOut [(1, "a"), (2, "b"), (3, "c")] := by
  refine ⟨by decide, fun h ↦ ?_⟩
  obtain ⟨j, -, hsmallest⟩ := h [((1, ⟨2, 5⟩, "a"), none), ((2, ⟨4, 9⟩, "b"), none)] _ _ []
    links_sticksOut
  have hlength := hsmallest 0 (1, ⟨2, 5⟩, "a") ⟨rfl, rfl⟩
  simp [Span.length] at hlength

end CaptureTree

end ScopeGrammar
