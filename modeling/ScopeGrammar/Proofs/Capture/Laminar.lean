import ScopeGrammar.Proofs.Capture.Preorder
import ScopeGrammar.Proofs.Scope.Sweep
import ScopeGrammar.Tokenizer.Enter

/-!
# Captures that do not overlap

The captures of a match can overlap without one lying in the other, if they are taken in
look-around. If they do not (`IsLaminar`), then their forest is packed: the captures of each row lie
one after the other in the one above them (`packed_forest`). Otherwise a walk from left to right
passes over those that start before it has come to them (`WalksThrough`).

Whatever the captures are, a walk through the forest from the outside in meets them in the order in
which they were placed (`scopedRangesOfAll_forest`). If they do not overlap, this order is from the
outside in around each position.
-/

namespace ScopeGrammar

/-- One of the spans lies in the other, or they have no byte in common. -/
def Span.Nests (s t : Span) : Prop :=
  s.encloses t = true ∨ t.encloses s = true ∨ s.stop ≤ t.start ∨ t.stop ≤ s.start

/-- A span holds all of another one, or ends before it. -/
def Span.Precedes (s t : Span) : Prop :=
  s.encloses t = true ∨ s.stop ≤ t.start

namespace CaptureTree

variable {α : Type} {m : Match} {labels : List (Nat × α)} {lo hi p : Nat}

/-- Of any two captures that have a label and hold text, one lies in the other, or they are
apart. -/
def IsLaminar (m : Match) (labels : List (Nat × α)) : Prop :=
  ∀ a ∈ items m labels, ∀ b ∈ items m labels, a.2.1.Nests b.2.1

/-- Captures that do not overlap are placed after those that they lie in. -/
theorem IsLaminar.pairwise (h : IsLaminar m labels) :
    ((items m labels).mergeSort itemLE).Pairwise fun a b ↦
      a.2.1.start ≤ b.2.1.start ∧ a.2.1.Precedes b.2.1 := by
  refine (pairwise_itemLE (items m labels)).imp_of_mem ?_
  intro a b ha hb hle
  have ha := List.mem_mergeSort.1 ha
  have hb := List.mem_mergeSort.1 hb
  have hpos := (of_mem_items hb).2.1
  have hnests := h a ha b hb
  rw [itemLE_iff] at hle
  simp only [Span.Nests, Span.Precedes, Span.encloses_eq_true] at hnests ⊢
  omega

/-! ### Packed captures -/

/-- The captures lie one after the other between two positions, and so do those in each of them. -/
inductive Packed : Nat → Nat → List (CaptureTree α) → Prop
  | nil {lo hi : Nat} (h : lo ≤ hi) : Packed lo hi []
  | cons {lo hi : Nat} {t : CaptureTree α} {ts : List (CaptureTree α)} (hstart : lo ≤ t.span.start)
      (children : Packed t.span.start t.span.stop t.children) (rest : Packed t.span.stop hi ts) :
      Packed lo hi (t :: ts)

namespace Packed

variable {t : CaptureTree α} {ts : List (CaptureTree α)}

theorem le (h : Packed lo hi ts) : lo ≤ hi := by
  induction h with
  | nil h => exact h
  | cons hstart _ _ hchildren hrest => omega

theorem mono {hi' : Nat} (h : Packed lo hi ts) (hle : hi ≤ hi') : Packed lo hi' ts := by
  induction h with
  | nil h => exact .nil (Nat.le_trans h hle)
  | cons hstart children _ _ hrest => exact .cons hstart children (hrest hle)

theorem append_singleton (h : Packed lo p ts) (hp : p ≤ t.span.start)
    (children : Packed t.span.start t.span.stop t.children) :
    Packed lo t.span.stop (ts ++ [t]) := by
  induction h with
  | nil h => exact .cons (Nat.le_trans h hp) children (.nil (Nat.le_refl _))
  | cons hstart children' _ _ hrest => exact .cons hstart children' (hrest hp)

end Packed

/-! ### Captures that are passed over -/

/-- What a walk from a position to another one goes through of the captures there: one that starts
before the walk has come to it is passed over with all that it holds. -/
inductive WalksThrough : Nat → Nat → List (CaptureTree α) → List (CaptureTree α) → Prop
  | nil {lo hi : Nat} (h : lo ≤ hi) : WalksThrough lo hi [] []
  | passes {lo hi : Nat} {t : CaptureTree α} {ts kept : List (CaptureTree α)}
      (hstart : t.span.start < lo) (rest : WalksThrough lo hi ts kept) :
      WalksThrough lo hi (t :: ts) kept
  | enters {lo hi : Nat} {t : CaptureTree α} {ts inner kept : List (CaptureTree α)}
      (hstart : lo ≤ t.span.start)
      (children : WalksThrough t.span.start t.span.stop t.children inner)
      (rest : WalksThrough t.span.stop hi ts kept) :
      WalksThrough lo hi (t :: ts) ({ t with children := inner } :: kept)

namespace WalksThrough

variable {ts kept : List (CaptureTree α)}

/-- What a walk goes through is packed. -/
theorem packed (h : WalksThrough lo hi ts kept) : Packed lo hi kept := by
  induction h with
  | nil h => exact .nil h
  | passes _ _ ih => exact ih
  | enters hstart _ _ hchildren hrest => exact .cons hstart hchildren hrest

/-- There is a walk through some captures if there is one through what each of them holds. -/
theorem exists_of_children (hle : lo ≤ hi) (hstop : ∀ t ∈ ts, t.span.stop ≤ hi)
    (hchildren : ∀ t ∈ ts, ∃ inner, WalksThrough t.span.start t.span.stop t.children inner) :
    ∃ kept, WalksThrough lo hi ts kept := by
  induction ts generalizing lo with
  | nil => exact ⟨[], .nil hle⟩
  | cons t ts ih =>
    have hstop' := fun t' ht' ↦ hstop t' (List.mem_cons_of_mem _ ht')
    have hchildren' := fun t' ht' ↦ hchildren t' (List.mem_cons_of_mem _ ht')
    rcases Nat.lt_or_ge t.span.start lo with hlt | hge
    · obtain ⟨kept, hkept⟩ := ih hle hstop' hchildren'
      exact ⟨kept, .passes hlt hkept⟩
    · obtain ⟨inner, hinner⟩ := hchildren t List.mem_cons_self
      obtain ⟨kept, hkept⟩ := ih (hstop t List.mem_cons_self) hstop' hchildren'
      exact ⟨_, .enters hge hinner hkept⟩

end WalksThrough

/-- Captures that are packed are all gone through. -/
theorem Packed.walksThrough {ts : List (CaptureTree α)} (h : Packed lo hi ts) :
    WalksThrough lo hi ts ts := by
  induction h with
  | nil h => exact .nil h
  | @cons lo hi t ts hstart _ _ hchildren hrest =>
    obtain ⟨index, span, label, children⟩ := t
    exact .enters hstart hchildren hrest

/-- There is a walk through what a capture holds, however the captures in it overlap. -/
theorem NestedIn.exists_walksThrough {outer : Span} {t : CaptureTree α} (h : t.NestedIn outer) :
    ∃ inner, WalksThrough t.span.start t.span.stop t.children inner := by
  induction h with
  | node _ nonempty children ih =>
    exact WalksThrough.exists_of_children (Nat.le_of_lt nonempty)
      (fun c hc ↦ (children c hc).inside.2) ih

/-- **There is a walk through the captures of a match**, however they overlap. -/
theorem exists_walksThrough_forest {m : Match} (labels : List (Nat × α)) (hm : m.start ≤ m.stop) :
    ∃ kept, WalksThrough m.start m.stop (forest m.clipped labels) kept :=
  WalksThrough.exists_of_children hm (fun t ht ↦ (nestedIn_of_mem_clipped hm t ht).inside.2)
    fun t ht ↦ (nestedIn_of_mem_clipped hm t ht).exists_walksThrough

/-! ### Packed forests -/

/-- A capture that gets another one in it has the same span. -/
theorem span_of_addChild {Q : Span → Prop} {t parent : CaptureTree α} {rest : List (CaptureTree α)}
    (h : ∀ t' ∈ t :: parent :: rest, Q t'.span) : ∀ t' ∈ parent.addChild t :: rest, Q t'.span := by
  intro t' hmem
  rcases List.mem_cons.1 hmem with rfl | hmem
  · exact h parent (by simp)
  · exact h t' (List.mem_cons_of_mem _ (List.mem_cons_of_mem _ hmem))

/-- The captures placed so far are packed up to a position: the roots, and in each open capture
those that were closed in it. The open captures lie in each other, the innermost one up to a
limit. -/
inductive PackedUpTo (lo hi : Nat) (roots : List (CaptureTree α)) :
    Nat → Nat → List (CaptureTree α) → Prop
  | closed {p : Nat} (hroots : Packed lo p roots) (hp : p ≤ hi) : PackedUpTo lo hi roots p hi []
  | opened {p limit : Nat} {t : CaptureTree α} {ts : List (CaptureTree α)}
      (around : PackedUpTo lo hi roots t.span.start limit ts) (hstop : t.span.stop ≤ limit)
      (children : Packed t.span.start p t.children) (hp : p ≤ t.span.stop) :
      PackedUpTo lo hi roots p t.span.stop (t :: ts)

namespace PackedUpTo

variable {roots opened : List (CaptureTree α)} {limit x : Nat}

theorem le_limit (h : PackedUpTo lo hi roots p limit opened) (hx : x ≤ hi)
    (hopened : ∀ t ∈ opened.head?, x ≤ t.span.stop) : x ≤ limit := by
  cases h with
  | closed => exact hx
  | opened => exact hopened _ rfl

theorem stop_le (h : PackedUpTo lo hi roots p limit opened) :
    p ≤ hi ∧ limit ≤ hi ∧ ∀ t ∈ opened, t.span.stop ≤ hi := by
  induction h with
  | closed _ hp => exact ⟨hp, Nat.le_refl _, by simp⟩
  | opened _ hstop _ hp ih =>
    obtain ⟨-, hlimit, hopened⟩ := ih
    have hle := Nat.le_trans hstop hlimit
    refine ⟨Nat.le_trans hp hle, hle, fun t ht ↦ ?_⟩
    rcases List.mem_cons.1 ht with rfl | ht
    · exact hle
    · exact hopened t ht

/-- **Captures are closed up to a position** if those to keep reach it and the others end before
it. -/
theorem settle (h : PackedUpTo lo hi roots p limit opened) (keep : Span → Bool) (hle : p ≤ x)
    (hx : x ≤ hi) (hkeep : ∀ t ∈ opened, keep t.span = true → x ≤ t.span.stop)
    (hclose : ∀ t ∈ opened, keep t.span = false → t.span.stop ≤ x) :
    ∃ limit', PackedUpTo lo hi (CaptureTree.settle (fun t ↦ keep t.span) opened roots).2 x limit'
      (CaptureTree.settle (fun t ↦ keep t.span) opened roots).1 := by
  fun_induction CaptureTree.settle (fun t : CaptureTree α ↦ keep t.span) opened roots
      generalizing p limit with
  | case1 =>
    cases h with
    | closed hroots => exact ⟨hi, .closed (hroots.mono hle) hx⟩
  | case2 t htrue =>
    cases h with
    | opened around hstop children =>
      exact ⟨_, .opened around hstop (children.mono hle) (hkeep t (by simp) htrue)⟩
  | case3 t hfalse =>
    cases h with
    | opened around hstop children hp =>
      cases around with
      | closed hroots =>
        have hpacked := hroots.append_singleton (Nat.le_refl _) (children.mono hp)
        exact ⟨hi, .closed (hpacked.mono (hclose t (by simp) (by simpa using hfalse))) hx⟩
  | case4 t parent rest htrue =>
    cases h with
    | opened around hstop children =>
      exact ⟨_, .opened around hstop (children.mono hle) (hkeep t (by simp) htrue)⟩
  | case5 t parent rest hfalse ih =>
    cases h with
    | opened around hstop children hp =>
      cases around with
      | opened around hstop' children' =>
        -- the capture is the last one in its parent
        have hpacked := children'.append_singleton (Nat.le_refl _) (children.mono hp)
        exact ih (.opened around hstop' hpacked hstop) (hclose t (by simp) (by simpa using hfalse))
          (span_of_addChild (Q := fun s ↦ keep s = true → x ≤ s.stop) hkeep)
          (span_of_addChild (Q := fun s ↦ keep s = false → s.stop ≤ x) hclose)

end PackedUpTo

theorem span_of_settle {Q : Span → Prop} (keep : CaptureTree α → Bool)
    {opened : List (CaptureTree α)} (roots : List (CaptureTree α)) (h : ∀ t ∈ opened, Q t.span) :
    ∀ t ∈ (settle keep opened roots).1, Q t.span := by
  fun_induction settle keep opened roots with
  | case1 => exact h
  | case2 => exact h
  | case3 => simp
  | case4 => exact h
  | case5 t parent rest hfalse ih =>
    exact ih (span_of_addChild h)

/-- **Captures that do not overlap are packed** while they are placed in order. -/
theorem PackedUpTo.foldl_insert {placed : List (Nat × Span × α)} {limit : Nat}
    (state : List (CaptureTree α) × List (CaptureTree α))
    (h : PackedUpTo lo hi state.2 p limit state.1)
    (hplaced : placed.Pairwise fun a b ↦ a.2.1.start ≤ b.2.1.start ∧ a.2.1.Precedes b.2.1)
    (hin : ∀ item ∈ placed,
      p ≤ item.2.1.start ∧ item.2.1.start < item.2.1.stop ∧ item.2.1.stop ≤ hi)
    (hopened : ∀ t ∈ state.1, ∀ item ∈ placed, t.span.Precedes item.2.1) :
    ∃ p' limit', PackedUpTo lo hi (placed.foldl insert state).2 p' limit'
      (placed.foldl insert state).1 := by
  induction placed generalizing state p limit with
  | nil => exact ⟨p, limit, h⟩
  | cons item placed ih =>
    obtain ⟨hfirst, hplaced⟩ := List.pairwise_cons.1 hplaced
    obtain ⟨hp, hpos, hstop⟩ := hin item List.mem_cons_self
    have hprecedes := fun t ht ↦ hopened t ht item List.mem_cons_self
    obtain ⟨limit', hsettled⟩ := h.settle (x := item.2.1.start) (·.encloses item.2.1) hp (by omega)
      (fun t _ hkeep ↦ by rw [Span.encloses_eq_true] at hkeep; omega)
      (fun t ht hclose ↦ (hprecedes t ht).resolve_left (by rw [hclose]; simp))
    have hkept := @keep_of_settle _ (fun t ↦ t.span.encloses item.2.1) state.1 state.2
    -- the capture is opened in the innermost one that is kept, or as a root
    have hlimit : item.2.1.stop ≤ limit' :=
      hsettled.le_limit hstop fun t ht ↦ (Span.encloses_eq_true.1 (hkept t ht)).2
    have hspans := span_of_settle (Q := fun s ↦ ∀ b ∈ placed, s.Precedes b.2.1)
      (·.span.encloses item.2.1) state.2 fun t ht b hb ↦ hopened t ht b (List.mem_cons_of_mem _ hb)
    refine ih (p := item.2.1.start) _ (.opened (t := ⟨item.1, item.2.1, item.2.2, []⟩) hsettled
      hlimit (.nil (Nat.le_refl _)) (Nat.le_of_lt hpos)) hplaced (fun b hb ↦ ?_) ?_
    · exact ⟨(hfirst b hb).1, (hin b (List.mem_cons_of_mem _ hb)).2⟩
    · rintro t (_ | ⟨_, ht⟩) b hb
      · exact (hfirst b hb).2
      · exact hspans t ht b hb

/-- **The forest of captures that do not overlap is packed.** -/
theorem packed_forest {outer : Span} (h : IsLaminar m labels) (houter : outer.start ≤ outer.stop)
    (hin : ∀ item ∈ items m labels, outer.encloses item.2.1 = true) :
    Packed outer.start outer.stop (forest m labels) := by
  have hplaced : ∀ item ∈ (items m labels).mergeSort itemLE, outer.start ≤ item.2.1.start ∧
      item.2.1.start < item.2.1.stop ∧ item.2.1.stop ≤ outer.stop := by
    intro item hitem
    have hmem := List.mem_mergeSort.1 hitem
    have hencloses := Span.encloses_eq_true.1 (hin item hmem)
    exact ⟨hencloses.1, (of_mem_items hmem).2.1, hencloses.2⟩
  obtain ⟨p, limit, hfold⟩ := PackedUpTo.foldl_insert ([], [])
    (.closed (.nil (Nat.le_refl outer.start)) houter) h.pairwise hplaced (by simp)
  obtain ⟨hp, -, hstop⟩ := hfold.stop_le
  obtain ⟨_, hsettled⟩ := hfold.settle (fun _ ↦ false) hp (Nat.le_refl _) (by simp)
    fun t ht _ ↦ hstop t ht
  rw [settle_false] at hsettled
  cases hsettled with
  | closed hroots => exact hroots

end CaptureTree

/-! ### Ranges of captures -/

open CaptureTree

/-- The scoped ranges of a capture that is placed. -/
def rangesOfItem (item : Nat × Span × CapturedScopes) : List ScopedRange :=
  item.2.2.scopes.map (⟨item.2.1, ·⟩)

theorem scopedRanges_eq (t : CaptureTree CapturedScopes) :
    scopedRanges t = t.label.scopes.map (⟨t.span, ·⟩) ++ scopedRangesOfAll t.children := by
  obtain ⟨index, span, label, children⟩ := t
  rw [scopedRanges]

mutual

theorem scopedRanges_eq_flatMap (above : Option (Item CapturedScopes)) :
    (t : CaptureTree CapturedScopes) →
      scopedRanges t = (links above t).flatMap fun l ↦ rangesOfItem l.1
  | ⟨index, span, label, children⟩ => by
    rw [scopedRanges, links, List.flatMap_cons,
      scopedRangesOfAll_eq_flatMap (some (index, span, label)) children]
    rfl

/-- The ranges of a forest are those of its captures, from the outside in. -/
theorem scopedRangesOfAll_eq_flatMap (above : Option (Item CapturedScopes)) :
    (ts : List (CaptureTree CapturedScopes)) →
      scopedRangesOfAll ts = (linksOfAll above ts).flatMap fun l ↦ rangesOfItem l.1
  | [] => rfl
  | t :: ts => by
    rw [scopedRangesOfAll, linksOfAll, List.flatMap_append, scopedRanges_eq_flatMap above t,
      scopedRangesOfAll_eq_flatMap above ts]

end

/-- **A walk through a forest from the outside in meets the captures in the order in which they were
placed.** -/
theorem scopedRangesOfAll_forest (m : Match) (labels : List (Nat × CapturedScopes)) :
    scopedRangesOfAll (forest m labels) =
      ((items m labels).mergeSort itemLE).flatMap rangesOfItem := by
  rw [scopedRangesOfAll_eq_flatMap none, ← preorder_forest, preorder, List.flatMap_map]

/-- **The ranges of captures that do not overlap are from the outside in around each position.** -/
theorem isOutsideIn_forest {m : Match} {labels : List (Nat × CapturedScopes)}
    (h : IsLaminar m labels) (p : Nat) :
    ScopedRange.IsOutsideIn p (scopedRangesOfAll (forest m labels)) := by
  rw [scopedRangesOfAll_forest, ScopedRange.IsOutsideIn]
  refine List.pairwise_flatMap.2 ⟨fun item _ ↦ ?_, h.pairwise.imp ?_⟩
  · refine List.pairwise_map.2 (List.pairwise_of_forall fun _ _ _ _ ↦ ?_)
    simp
  · rintro a b ⟨-, hprecedes⟩ r hr r' hr' hholds hholds'
    obtain ⟨scope, -, rfl⟩ := List.mem_map.1 hr
    obtain ⟨scope', -, rfl⟩ := List.mem_map.1 hr'
    refine hprecedes.resolve_right fun hle ↦ ?_
    have hbefore := (Span.holds_eq_true.1 hholds).2
    have hafter := (Span.holds_eq_true.1 hholds').1
    dsimp only at hbefore hafter
    omega

/-- The ranges of captures depend on their scopes only. -/
theorem scopedRangesOfAll_forest_map (m : Match) (labels : List (Nat × CapturedScopes))
    {f : CapturedScopes → CapturedScopes} (hf : ∀ l, (f l).scopes = l.scopes) :
    scopedRangesOfAll (forest m (labels.map fun l ↦ (l.1, f l.2))) =
      scopedRangesOfAll (forest m labels) := by
  have hitems : items m (labels.map fun l ↦ (l.1, f l.2)) =
      (items m labels).map fun item ↦ (item.1, item.2.1, f item.2.2) := by
    rw [items, items, List.filterMap_map, List.map_filterMap]
    refine List.filterMap_congr fun l _ ↦ ?_
    dsimp only [Function.comp]
    split
    · split <;> rfl
    · rfl
  have hle : ∀ a ∈ items m labels, ∀ b ∈ items m labels,
      itemLE a b = itemLE (a.1, a.2.1, f a.2.2) (b.1, b.2.1, f b.2.2) := fun _ _ _ _ ↦ rfl
  have hsort : ((items m labels).map fun item ↦ (item.1, item.2.1, f item.2.2)).mergeSort itemLE =
      ((items m labels).mergeSort itemLE).map fun item ↦ (item.1, item.2.1, f item.2.2) :=
    (List.map_mergeSort hle).symm
  rw [scopedRangesOfAll_forest, scopedRangesOfAll_forest, hitems, hsort, List.flatMap_map]
  congr 1
  funext item
  rw [rangesOfItem, rangesOfItem, hf]

end ScopeGrammar
