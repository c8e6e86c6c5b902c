import ScopeGrammar.Proofs.Capture.Forest

/-!
# How captures nest

A capture is opened inside those that enclose it and nowhere else, so that in the forest of a match
every capture lies in the one above it, and all of them in the match (`nestedIn_of_mem_forest`).
While the forest is built the open captures are a chain, each of which lies in the next.
-/

namespace ScopeGrammar

namespace Match

variable {m : Match} {i : Nat} {s : Span}

/-- A cut group lies in the match. -/
theorem encloses_of_clipped (hm : m.start ≤ m.stop) (h : m.clipped.group? i = some s) :
    m.whole.encloses s = true := by
  cases i with
  | zero =>
    obtain rfl : m.whole = s := Option.some.inj h
    simp
  | succ i =>
    obtain ⟨g, -, hclip⟩ := exists_group_of_clipped h
    rw [clipSpan] at hclip
    split at hclip
    · obtain rfl := Option.some.inj hclip
      rw [start, stop] at hm
      simp only [Span.encloses_eq_true, clampInto]
      omega
    · contradiction

end Match

namespace CaptureTree

variable {α : Type} {outer : Span}

/-- All captures of a tree hold text and lie in the one above them, the uppermost in a span. -/
inductive NestedIn : CaptureTree α → Span → Prop
  | node {t : CaptureTree α} {outer : Span} (inside : outer.encloses t.span = true)
      (nonempty : t.span.start < t.span.stop) (children : ∀ c ∈ t.children, NestedIn c t.span) :
      NestedIn t outer

namespace NestedIn

variable {t : CaptureTree α}

/-- A capture lies in the text around it. -/
theorem inside (h : t.NestedIn outer) : outer.start ≤ t.span.start ∧ t.span.stop ≤ outer.stop := by
  cases h with
  | node inside _ _ => exact Span.encloses_eq_true.1 inside

/-- A capture has some text. -/
theorem nonempty (h : t.NestedIn outer) : t.span.start < t.span.stop := by
  cases h with
  | node _ nonempty _ => exact nonempty

/-- The captures in a capture lie in its text. -/
theorem children (h : t.NestedIn outer) : ∀ c ∈ t.children, c.NestedIn t.span := by
  cases h with
  | node _ _ children => exact children

/-- A capture that lies in another one can be put into it. -/
theorem addChild {child : CaptureTree α} (ht : t.NestedIn outer) (hchild : child.NestedIn t.span) :
    (t.addChild child).NestedIn outer := by
  refine .node (Span.encloses_eq_true.2 ht.inside) ht.nonempty fun c hc ↦ ?_
  rcases List.mem_append.1 hc with hc | hc
  · exact ht.children c hc
  · rw [List.mem_singleton.1 hc]
    exact hchild

end NestedIn

/-- Each of the open captures lies in the next, and the last one in a span. -/
def IsChainIn (outer : Span) : List (CaptureTree α) → Prop
  | [] => True
  | [t] => t.NestedIn outer
  | t :: parent :: rest => t.NestedIn parent.span ∧ IsChainIn outer (parent :: rest)

/-- A capture that is closed is put into the one around it. -/
theorem IsChainIn.addChild {t parent : CaptureTree α} {rest : List (CaptureTree α)}
    (h : IsChainIn outer (t :: parent :: rest)) : IsChainIn outer (parent.addChild t :: rest) := by
  obtain ⟨ht, hrest⟩ := h
  cases rest with
  | nil => exact NestedIn.addChild hrest ht
  | cons _ _ => exact ⟨hrest.1.addChild ht, hrest.2⟩

/-- Closing captures keeps each in the one around it. -/
theorem IsChainIn.settle {keep : CaptureTree α → Bool} {opened roots : List (CaptureTree α)}
    (ho : IsChainIn outer opened) (hr : ∀ t ∈ roots, t.NestedIn outer) :
    IsChainIn outer (settle keep opened roots).1 ∧
      ∀ t ∈ (settle keep opened roots).2, t.NestedIn outer := by
  fun_induction CaptureTree.settle keep opened roots with
  | case1 => exact ⟨ho, hr⟩
  | case2 t hkeep => exact ⟨ho, hr⟩
  | case3 t hkeep =>
    refine ⟨True.intro, fun t' hmem ↦ ?_⟩
    rcases List.mem_append.1 hmem with hmem | hmem
    · exact hr t' hmem
    · rw [List.mem_singleton.1 hmem]
      exact ho
  | case4 t parent rest hkeep => exact ⟨ho, hr⟩
  | case5 t parent rest hkeep ih => exact ih ho.addChild

/-- The innermost capture that is left open is one to keep. -/
theorem keep_of_settle {keep : CaptureTree α → Bool} {opened roots : List (CaptureTree α)} :
    ∀ t ∈ (settle keep opened roots).1.head?, keep t = true := by
  fun_induction settle keep opened roots with
  | case1 => simp
  | case2 t hkeep => simpa using hkeep
  | case3 t hkeep => simp
  | case4 t parent rest hkeep => simpa using hkeep
  | case5 t parent rest hkeep ih => exact ih

/-- In the end all captures are closed. -/
theorem settle_false (opened roots : List (CaptureTree α)) :
    (settle (fun _ ↦ false) opened roots).1 = [] := by
  have hkeep := @keep_of_settle _ (fun _ : CaptureTree α ↦ false) opened roots
  cases h : (settle (fun _ ↦ false) opened roots).1 with
  | nil => rfl
  | cons t ts =>
    rw [h] at hkeep
    exact absurd (hkeep t rfl) (by simp)

/-- A capture that holds text and lies in the span can be opened. -/
theorem IsChainIn.insert {state : List (CaptureTree α) × List (CaptureTree α)}
    {item : Nat × Span × α} (ho : IsChainIn outer state.1) (hr : ∀ t ∈ state.2, t.NestedIn outer)
    (hitem : outer.encloses item.2.1 = true) (hpos : item.2.1.start < item.2.1.stop) :
    IsChainIn outer (insert state item).1 ∧ ∀ t ∈ (insert state item).2, t.NestedIn outer := by
  have hsettled := @IsChainIn.settle _ _ (fun t ↦ t.span.encloses item.2.1) _ _ ho hr
  have hkeep := @keep_of_settle _ (fun t ↦ t.span.encloses item.2.1) state.1 state.2
  refine ⟨?_, hsettled.2⟩
  rw [CaptureTree.insert]
  generalize CaptureTree.settle (fun t ↦ t.span.encloses item.2.1) state.1 state.2 = settled at *
  obtain ⟨opened, roots⟩ := settled
  cases opened with
  | nil => exact .node hitem hpos (by simp)
  | cons parent rest => exact ⟨.node (hkeep parent rfl) hpos (by simp), hsettled.1⟩

/-- **In the forest of a match every capture lies in the one above it.** -/
theorem nestedIn_of_mem_forest {m : Match} {labels : List (Nat × α)}
    (h : ∀ item ∈ items m labels, outer.encloses item.2.1 = true) :
    ∀ t ∈ forest m labels, t.NestedIn outer := by
  have hfold : ∀ (placed : List (Nat × Span × α))
      (state : List (CaptureTree α) × List (CaptureTree α)),
      (∀ item ∈ placed, item ∈ items m labels) → IsChainIn outer state.1 →
      (∀ t ∈ state.2, t.NestedIn outer) →
      IsChainIn outer (placed.foldl insert state).1 ∧
        ∀ t ∈ (placed.foldl insert state).2, t.NestedIn outer := by
    intro placed
    induction placed with
    | nil => exact fun state _ ho hr ↦ ⟨ho, hr⟩
    | cons item placed ih =>
      intro state hplaced ho hr
      have hitem := hplaced item List.mem_cons_self
      obtain ⟨ho, hr⟩ := ho.insert hr (h item hitem) (of_mem_items hitem).2.1
      exact ih _ (fun item hitem ↦ hplaced item (List.mem_cons_of_mem _ hitem)) ho hr
  obtain ⟨ho, hr⟩ := hfold ((items m labels).mergeSort itemLE) ([], [])
    (fun item hitem ↦ List.mem_mergeSort.1 hitem) True.intro (by simp)
  exact (ho.settle hr).2

/-- Captures that are clipped to the match lie in it. -/
theorem nestedIn_of_mem_clipped {m : Match} {labels : List (Nat × α)} (hm : m.start ≤ m.stop) :
    ∀ t ∈ forest m.clipped labels, t.NestedIn m.whole :=
  nestedIn_of_mem_forest fun _ hitem ↦ Match.encloses_of_clipped hm (of_mem_items hitem).1

end CaptureTree

end ScopeGrammar
