import Mathlib.Data.List.Chain
import ScopeGrammar.Proofs.Capture.Nested

/-!
# The order of capture forests

Placing a capture closes some of those that are open and opens it in the innermost one left. None of
this moves a capture from where it was placed: those that are closed and those that are open, read
from the outside in, are the captures placed so far, each one with the one that it was opened in
(`linksOfAll_forest`). So the forest of a match, read in this way, is the row of its captures in the
order in which they are placed, whether or not they overlap (`forest_in_order`).

Which captures are open depends on their spans alone: those that hold all that were placed after
them (`openIn`). So one that is closed does not hold the next one in its row, which is why no
capture lies in the one right before it (`arranged_forest`).
-/

namespace ScopeGrammar

namespace CaptureTree

variable {α : Type}

/-- A capture without those in it: its index, span and label. -/
abbrev Item (α : Type) := Nat × Span × α

/-- The capture at the root of a tree. -/
def item (t : CaptureTree α) : Item α := (t.index, t.span, t.label)

/-! ### Captures and what they lie in -/

mutual

/-- The captures of a tree from the outside in, each one with the one that it is a child of. -/
def links (above : Option (Item α)) : CaptureTree α → List (Item α × Option (Item α))
  | ⟨index, span, label, children⟩ =>
    ((index, span, label), above) :: linksOfAll (some (index, span, label)) children

/-- The captures of a row of trees from the outside in, each one with the one that it is a child
of. -/
def linksOfAll (above : Option (Item α)) : List (CaptureTree α) → List (Item α × Option (Item α))
  | [] => []
  | t :: ts => links above t ++ linksOfAll above ts

end

/-- The captures of a row of trees, from the outside in. -/
def preorder (ts : List (CaptureTree α)) : List (Item α) :=
  (linksOfAll none ts).map (·.1)

/-- The links of a tree are that of its root and those of its children, which lie in it. -/
theorem links_eq (above : Option (Item α)) (t : CaptureTree α) :
    links above t = (t.item, above) :: linksOfAll (some t.item) t.children := by
  obtain ⟨index, span, label, children⟩ := t
  rw [links]
  rfl

/-- The links of two forests follow each other. -/
theorem linksOfAll_append (above : Option (Item α)) (ts us : List (CaptureTree α)) :
    linksOfAll above (ts ++ us) = linksOfAll above ts ++ linksOfAll above us := by
  induction ts with
  | nil => rfl
  | cons t ts ih => rw [List.cons_append, linksOfAll, linksOfAll, ih, List.append_assoc]

/-- What the captures lie in is of no account to their order. -/
theorem map_fst_linksOfAll (above : Option (Item α)) (ts : List (CaptureTree α)) :
    (linksOfAll above ts).map (·.1) = preorder ts := by
  rw [preorder]
  induction ts with
  | nil => rfl
  | cons t ts ih =>
    rw [linksOfAll, linksOfAll, links_eq, links_eq none, List.map_append, List.map_append, ih]
    rfl

/-- A tree comes before its children, and these before the trees behind it. -/
theorem preorder_cons (t : CaptureTree α) (ts : List (CaptureTree α)) :
    preorder (t :: ts) = t.item :: (preorder t.children ++ preorder ts) := by
  rw [preorder, linksOfAll, links_eq, List.map_append, List.map_cons, map_fst_linksOfAll]
  rfl

/-- The captures of a row come in the order that the row has them in. -/
theorem map_item_sublist_preorder (ts : List (CaptureTree α)) :
    (ts.map item).Sublist (preorder ts) := by
  induction ts with
  | nil => exact .slnil
  | cons t ts ih =>
    rw [preorder_cons, List.map_cons]
    exact (ih.trans (List.sublist_append_right _ _)).cons_cons _

/-- The last trees of a forest come in the same order as in all of it. -/
theorem preorder_sublist_of_suffix {ts us : List (CaptureTree α)} (h : ts <:+ us) :
    (preorder ts).Sublist (preorder us) := by
  obtain ⟨before, rfl⟩ := h
  rw [preorder, preorder, linksOfAll_append, List.map_append]
  exact List.sublist_append_right _ _

theorem linksOfAll_singleton (above : Option (Item α)) (t : CaptureTree α) :
    linksOfAll above [t] = links above t := by
  rw [linksOfAll, linksOfAll, List.append_nil]

/-- A new child is linked to its parent, behind all that the parent has. -/
theorem links_addChild (above : Option (Item α)) (parent child : CaptureTree α) :
    links above (parent.addChild child) = links above parent ++ links (some parent.item) child := by
  rw [links_eq, links_eq above parent, addChild, linksOfAll_append, linksOfAll_singleton]
  rfl

/-- The captures of open trees from the outside in. The trees are given from the innermost one
on. -/
def openLinks : List (CaptureTree α) → List (Item α × Option (Item α))
  | [] => []
  | t :: ts => openLinks ts ++ links (ts.head?.map item) t

/-- **Closing captures leaves them where they are.** -/
theorem linksOfAll_settle (keep : CaptureTree α → Bool) (opened roots : List (CaptureTree α)) :
    linksOfAll none (settle keep opened roots).2 ++ openLinks (settle keep opened roots).1 =
      linksOfAll none roots ++ openLinks opened := by
  fun_induction settle keep opened roots with
  | case1 => rfl
  | case2 => rfl
  | case3 t hclose =>
    rw [linksOfAll_append, linksOfAll_singleton]
    exact List.append_nil _
  | case4 => rfl
  | case5 t parent rest hclose ih =>
    rw [ih, openLinks, openLinks, openLinks, links_addChild, List.append_assoc]
    rfl

/-- **Placing a capture links it to the innermost open one that encloses it**, behind all links
there are. -/
theorem linksOfAll_insert (state : List (CaptureTree α) × List (CaptureTree α)) (x : Item α) :
    linksOfAll none (insert state x).2 ++ openLinks (insert state x).1 =
      linksOfAll none state.2 ++ openLinks state.1 ++
        [(x, (settle (·.span.encloses x.2.1) state.1 state.2).1.head?.map item)] := by
  rw [← linksOfAll_settle (·.span.encloses x.2.1) state.1 state.2, insert]
  dsimp only
  rw [openLinks, links_eq, linksOfAll, List.append_assoc]
  rfl

/-! ### Open captures -/

/-- Of captures that are placed one after the other those that hold all that come after them, the
latest one first. -/
def openIn : List (Item α) → List (Item α)
  | [] => []
  | x :: rest => openIn rest ++ if rest.all (x.2.1.encloses ·.2.1) then [x] else []

/-- A capture that is open was placed. -/
theorem mem_of_mem_openIn {placed : List (Item α)} {x : Item α} (h : x ∈ openIn placed) :
    x ∈ placed := by
  induction placed with
  | nil => cases h
  | cons y placed ih =>
    rw [openIn] at h
    rcases List.mem_append.1 h with h | h
    · exact List.mem_cons_of_mem _ (ih h)
    · split at h
      · exact List.mem_singleton.1 h ▸ List.mem_cons_self
      · cases h

/-- Each capture that is open lies in those that were opened before it. -/
theorem pairwise_openIn (placed : List (Item α)) :
    (openIn placed).Pairwise fun a b ↦ b.2.1.encloses a.2.1 = true := by
  induction placed with
  | nil => exact .nil
  | cons x placed ih =>
    rw [openIn]
    split
    · rename_i hall
      refine List.pairwise_append.2 ⟨ih, List.pairwise_singleton _ _, fun a ha b hb ↦ ?_⟩
      rw [List.mem_singleton.1 hb]
      exact List.all_eq_true.1 hall a (mem_of_mem_openIn ha)
    · rwa [List.append_nil]

/-- A capture is opened in those that are open and hold it. -/
theorem openIn_concat (placed : List (Item α)) (x : Item α) :
    openIn (placed ++ [x]) = x :: (openIn placed).filter (·.2.1.encloses x.2.1) := by
  induction placed with
  | nil => rfl
  | cons y placed ih =>
    rw [List.cons_append, openIn, openIn, ih, List.filter_append, List.all_append, List.cons_append]
    congr 2
    cases hall : placed.all (y.2.1.encloses ·.2.1) <;>
      cases hx : y.2.1.encloses x.2.1 <;> simp [hx]

/-- What is dropped from the front of a row is all that fails a test, if nothing fails it after one
that passes it. -/
theorem dropWhile_eq_filter {keep : Item α → Bool} {opened : List (Item α)}
    (h : opened.Pairwise fun a b ↦ keep a = true → keep b = true) :
    opened.dropWhile (!keep ·) = opened.filter keep := by
  induction opened with
  | nil => rfl
  | cons x opened ih =>
    obtain ⟨hfirst, hrest⟩ := List.pairwise_cons.1 h
    cases hx : keep x with
    | false =>
      rw [List.dropWhile_cons_of_pos (by simp [hx]), List.filter_cons_of_neg (by simp [hx]),
        ih hrest]
    | true => rw [List.dropWhile_cons_of_neg (by simp [hx]), List.filter_eq_self.2 fun y hy ↦ by
        rcases List.mem_cons.1 hy with rfl | hy
        · exact hx
        · exact hfirst y hy hx]

/-- The captures that are left open, by their spans. -/
theorem map_item_settle (keep : Item α → Bool) (opened roots : List (CaptureTree α)) :
    (settle (keep ·.item) opened roots).1.map item = (opened.map item).dropWhile (!keep ·) := by
  fun_induction settle (fun t : CaptureTree α ↦ keep t.item) opened roots with
  | case1 => rfl
  | case2 t hkeep => simp [hkeep]
  | case3 t hclose => simp [hclose]
  | case4 t parent rest hkeep => simp [hkeep]
  | case5 t parent rest hclose ih =>
    rw [ih, List.map_cons (l := parent :: rest), List.dropWhile_cons_of_pos (by simp [hclose])]
    rfl

/-- Those of the open captures are left that hold the next one. -/
theorem map_item_settle_encloses {done : List (Item α)} {opened : List (CaptureTree α)}
    (h : opened.map item = openIn done) (roots : List (CaptureTree α)) (s : Span) :
    (settle (·.span.encloses s) opened roots).1.map item =
      (openIn done).filter (·.2.1.encloses s) := by
  have hdrop := map_item_settle (·.2.1.encloses s) opened roots
  rw [h, dropWhile_eq_filter ((pairwise_openIn done).imp fun hencloses ha ↦ ?_)] at hdrop
  · exact hdrop
  · simp only [Span.encloses_eq_true] at hencloses ha ⊢
    omega

/-- What captures lie in if they are placed one after the other, some having been placed before. -/
def linksFrom (done : List (Item α)) : List (Item α) → List (Item α × Option (Item α))
  | [] => []
  | x :: rest =>
    (x, (openIn done).find? (·.2.1.encloses x.2.1)) :: linksFrom (done ++ [x]) rest

/-- Every capture that is placed gets one link, in the order of placing. -/
theorem map_fst_linksFrom (done placed : List (Item α)) :
    (linksFrom done placed).map (·.1) = placed := by
  induction placed generalizing done with
  | nil => rfl
  | cons x placed ih => rw [linksFrom, List.map_cons, ih]

/-- Placing captures one by one links each of them to the one that it lies in, by induction on the
captures to be placed. -/
theorem linksOfAll_foldl_insert (done placed : List (Item α))
    (state : List (CaptureTree α) × List (CaptureTree α)) (h : state.1.map item = openIn done) :
    linksOfAll none (placed.foldl insert state).2 ++ openLinks (placed.foldl insert state).1 =
      linksOfAll none state.2 ++ openLinks state.1 ++ linksFrom done placed := by
  induction placed generalizing done state with
  | nil => exact (List.append_nil _).symm
  | cons x placed ih =>
    have hsettle := map_item_settle_encloses h state.2 x.2.1
    have hopen : (insert state x).1.map item = openIn (done ++ [x]) := by
      rw [openIn_concat, ← hsettle, insert]
      rfl
    rw [List.foldl_cons, ih (done ++ [x]) _ hopen, linksOfAll_insert, linksFrom,
      ← List.head?_filter, ← hsettle, List.head?_map, List.append_assoc]
    rfl

/-- **Each capture of a forest lies in the innermost one that was open when it was placed.** -/
theorem linksOfAll_forest (m : Match) (labels : List (Nat × α)) :
    linksOfAll none (forest m labels) = linksFrom [] ((items m labels).mergeSort itemLE) := by
  have hfold := linksOfAll_foldl_insert [] ((items m labels).mergeSort itemLE) ([], []) rfl
  have hclosed := linksOfAll_settle (fun _ ↦ false)
    (((items m labels).mergeSort itemLE).foldl insert ([], [])).1
    (((items m labels).mergeSort itemLE).foldl insert ([], [])).2
  rw [settle_false, hfold] at hclosed
  exact (List.append_nil _).symm.trans hclosed

/-- The captures of a forest, from the outside in, are in the order in which they were placed. -/
theorem preorder_forest (m : Match) (labels : List (Nat × α)) :
    preorder (forest m labels) = (items m labels).mergeSort itemLE := by
  rw [preorder, linksOfAll_forest, map_fst_linksFrom]

/-! ### The order in which captures are placed -/

/-- Captures are placed by their starts, the longer ones first, and those of equal ranges by their
indices. -/
theorem itemLE_iff {a b : Item α} :
    itemLE a b = true ↔ a.2.1.start < b.2.1.start ∨
      a.2.1.start = b.2.1.start ∧
        (b.2.1.stop < a.2.1.stop ∨ a.2.1.stop = b.2.1.stop ∧ a.1 ≤ b.1) := by
  simp [itemLE]

/-- The order of placing is transitive, so that captures can be sorted by it. -/
theorem itemLE_trans (a b c : Item α) (hab : itemLE a b = true) (hbc : itemLE b c = true) :
    itemLE a c = true := by
  rw [itemLE_iff] at hab hbc ⊢
  omega

/-- Any two captures are in order one way or the other. -/
theorem itemLE_total (a b : Item α) : (itemLE a b || itemLE b a) = true := by
  rw [Bool.or_eq_true, itemLE_iff, itemLE_iff]
  omega

/-- Captures are placed in order. -/
theorem pairwise_itemLE (items : List (Item α)) :
    (items.mergeSort itemLE).Pairwise fun a b ↦ itemLE a b = true :=
  List.pairwise_mergeSort itemLE_trans itemLE_total items

/-- Captures of one group are placed in the order of their labels. -/
theorem filter_mergeSort_items (m : Match) (labels : List (Nat × α)) (index : Nat) :
    ((items m labels).mergeSort itemLE).filter (·.1 == index) =
      (items m labels).filter (·.1 == index) := by
  have hle : ((items m labels).filter (·.1 == index)).Pairwise fun a b ↦ itemLE a b = true := by
    refine List.pairwise_of_forall_mem_list fun a ha b hb ↦ ?_
    obtain ⟨ha, hindex⟩ := List.mem_filter.1 ha
    obtain ⟨hb, hindex'⟩ := List.mem_filter.1 hb
    have heq : a.1 = b.1 := (beq_iff_eq.1 hindex).trans (beq_iff_eq.1 hindex').symm
    -- both have the span of the group
    have hspan : a.2.1 = b.2.1 :=
      Option.some.inj ((of_mem_items ha).1.symm.trans (heq ▸ (of_mem_items hb).1))
    rw [itemLE_iff, heq, hspan]
    omega
  have hsublist := (List.sublist_mergeSort itemLE_trans itemLE_total hle List.filter_sublist).filter
    (·.1 == index)
  rw [List.filter_filter] at hsublist
  simp only [Bool.and_self] at hsublist
  exact (hsublist.eq_of_length ((List.mergeSort_perm _ _).filter _).length_eq.symm).symm

/-! ### Rows of captures -/

/-- No capture of a row lies in the one right before it, each holds its children, and these are
arranged in the same way. -/
inductive Arranged : List (CaptureTree α) → Prop
  | row {ts : List (CaptureTree α)} (apart : ts.IsChain fun a b ↦ a.span.encloses b.span = false)
      (inside : ∀ t ∈ ts, ∀ c ∈ t.children, t.span.encloses c.span = true)
      (inner : ∀ t ∈ ts, Arranged t.children) : Arranged ts

theorem Arranged.nil : Arranged ([] : List (CaptureTree α)) :=
  .row .nil (by simp) (by simp)

/-- The row grows by a capture that does not lie in its last one. -/
theorem Arranged.concat {ts : List (CaptureTree α)} {t : CaptureTree α} (h : Arranged ts)
    (hapart : ∀ c ∈ ts.getLast?, c.span.encloses t.span = false)
    (hinside : ∀ c ∈ t.children, t.span.encloses c.span = true) (hinner : Arranged t.children) :
    Arranged (ts ++ [t]) := by
  cases h with
  | row apart inside inner =>
    refine .row (List.isChain_append.2 ⟨apart, .singleton t, fun c hc c' hc' ↦ ?_⟩)
      (fun t' ht' ↦ ?_) fun t' ht' ↦ ?_
    · rw [← Option.some.inj hc']
      exact hapart c hc
    · rcases List.mem_append.1 ht' with ht' | ht'
      · exact inside t' ht'
      · rwa [List.mem_singleton.1 ht']
    · rcases List.mem_append.1 ht' with ht' | ht'
      · exact inner t' ht'
      · rwa [List.mem_singleton.1 ht']

/-- The row that a capture comes to stand in if none is closed before. -/
def rowOf (opened roots : List (CaptureTree α)) : List (CaptureTree α) :=
  match opened with
  | [] => roots
  | t :: _ => t.children

/-- The captures placed so far are arranged: the roots, and in each open capture those that were
closed in it. An open capture does not lie in the last one that was closed in the same row. -/
inductive ArrangedUpTo (roots : List (CaptureTree α)) : List (CaptureTree α) → Prop
  | closed (hroots : Arranged roots) : ArrangedUpTo roots []
  | opened {t : CaptureTree α} {ts : List (CaptureTree α)} (around : ArrangedUpTo roots ts)
      (apart : ∀ c ∈ (rowOf ts roots).getLast?, c.span.encloses t.span = false)
      (within : ∀ parent ∈ ts.head?, parent.span.encloses t.span = true)
      (inside : ∀ c ∈ t.children, t.span.encloses c.span = true)
      (inner : Arranged t.children) : ArrangedUpTo roots (t :: ts)

/-- **Captures that are closed are arranged.** What comes to stand last in a row was not kept. -/
theorem ArrangedUpTo.settle {opened roots : List (CaptureTree α)} (h : ArrangedUpTo roots opened)
    (keep : CaptureTree α → Bool) (hlast : ∀ c ∈ (rowOf opened roots).getLast?, keep c = false) :
    ArrangedUpTo (settle keep opened roots).2 (settle keep opened roots).1 ∧
      ∀ c ∈ (rowOf (CaptureTree.settle keep opened roots).1
        (CaptureTree.settle keep opened roots).2).getLast?, keep c = false := by
  fun_induction CaptureTree.settle keep opened roots with
  | case1 => exact ⟨h, hlast⟩
  | case2 => exact ⟨h, hlast⟩
  | case3 t hclose =>
    cases h with
    | opened around apart _ inside inner =>
      cases around with
      | closed hroots =>
        refine ⟨.closed (hroots.concat apart inside inner), fun c hc ↦ ?_⟩
        rw [rowOf, List.getLast?_concat] at hc
        rw [← Option.some.inj hc]
        exact Bool.eq_false_iff.2 hclose
  | case4 => exact ⟨h, hlast⟩
  | case5 t parent rest hclose ih =>
    cases h with
    | opened around apart within inside inner =>
      cases around with
      | opened around apart' within' inside' inner' =>
        refine ih (.opened around apart' within' (fun c hc ↦ ?_) ?_) fun c hc ↦ ?_
        · rcases List.mem_append.1 hc with hc | hc
          · exact inside' c hc
          · rw [List.mem_singleton.1 hc]
            exact within parent rfl
        · exact inner'.concat apart inside inner
        · rw [rowOf, addChild, List.getLast?_concat] at hc
          rw [← Option.some.inj hc]
          exact Bool.eq_false_iff.2 hclose

/-- Forests stay arranged when captures are placed one by one. -/
theorem ArrangedUpTo.foldl_insert (placed : List (Item α))
    (state : List (CaptureTree α) × List (CaptureTree α)) (h : ArrangedUpTo state.2 state.1)
    (hrow : rowOf state.1 state.2 = []) :
    ArrangedUpTo (placed.foldl insert state).2 (placed.foldl insert state).1 := by
  induction placed generalizing state with
  | nil => exact h
  | cons x placed ih =>
    obtain ⟨hsettled, hlast⟩ := h.settle (·.span.encloses x.2.1) (by simp [hrow])
    have hkeep := @keep_of_settle _ (fun t ↦ t.span.encloses x.2.1) state.1 state.2
    -- the capture has been opened just now, and nothing is in it yet
    exact ih _ (.opened hsettled hlast hkeep (by simp) .nil) rfl

/-- **The rows of a forest are arranged.** -/
theorem arranged_forest (m : Match) (labels : List (Nat × α)) : Arranged (forest m labels) := by
  have hplaced := ArrangedUpTo.foldl_insert ((items m labels).mergeSort itemLE) ([], [])
    (.closed .nil) rfl
  obtain ⟨hsettled, -⟩ := hplaced.settle (fun _ ↦ false) (by simp)
  rw [settle_false] at hsettled
  cases hsettled with
  | closed hroots => exact hroots

/-! ### What a forest consists of -/

/-- The labels of groups that take part in a match and hold text, each with the span of its
group. -/
def captured (m : Match) (labels : List (Nat × α)) : List (Item α) :=
  labels.filterMap fun l ↦
    ((m.group? l.1).filter fun s ↦ s.start < s.stop).map fun s ↦ (l.1, s, l.2)

theorem items_eq_captured (m : Match) (labels : List (Nat × α)) :
    items m labels = captured m labels := by
  refine List.filterMap_congr fun l _ ↦ ?_
  dsimp only
  cases m.group? l.1 with
  | none => rfl
  | some s =>
    by_cases hlt : s.start < s.stop
    · simp [Option.filter, hlt, Span.isEmpty_eq_false.2 hlt]
    · simp [Option.filter, hlt, Span.isEmpty_eq_true.2 (Nat.le_of_not_lt hlt)]

/-- **A forest in order.** The forest of a match has the captures that take part in it, hold text
and have a label, once for each label. From the outside in these are sorted by start, longer ones
first, then by index, and those of one index are in the order of their labels. Each one holds its
children, and none lies in the one right before it in its row. Nothing is asked of the captures:
they may overlap. -/
theorem forest_in_order (m : Match) (labels : List (Nat × α)) :
    (preorder (forest m labels)).Perm (captured m labels) ∧
      ((preorder (forest m labels)).Pairwise fun a b ↦ a.2.1.start < b.2.1.start ∨
        a.2.1.start = b.2.1.start ∧
          (b.2.1.stop < a.2.1.stop ∨ a.2.1.stop = b.2.1.stop ∧ a.1 ≤ b.1)) ∧
      (∀ index, (preorder (forest m labels)).filter (·.1 == index) =
        (captured m labels).filter (·.1 == index)) ∧
      Arranged (forest m labels) := by
  rw [preorder_forest, ← items_eq_captured]
  refine ⟨List.mergeSort_perm _ _, (pairwise_itemLE _).imp itemLE_iff.1, fun index ↦ ?_,
    arranged_forest m labels⟩
  exact filter_mergeSort_items m labels index

end CaptureTree

end ScopeGrammar
