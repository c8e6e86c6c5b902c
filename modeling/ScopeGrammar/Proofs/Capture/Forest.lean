import ScopeGrammar.Capture.Tree
import ScopeGrammar.Proofs.Text.Boundary

/-!
# What capture forests are made of

Arranging captures makes up no span and no label: what holds of every capture of a match that has a
label holds of every node of its forest (`all_of_mem_forest`). The captures in turn are the groups
of the match, cut to its span, so that their ends are ends of groups or of the match.
-/

namespace ScopeGrammar

/-! ### Cut groups -/

namespace Match

/-- A position that is moved into a span stays, or comes to one of its ends. -/
theorem clampInto_eq (s : Span) (p : Nat) :
    clampInto s p = p ∨ clampInto s p = s.start ∨ clampInto s p = s.stop := by
  rw [clampInto]
  omega

variable {m : Match} {i : Nat} {s : Span}

theorem exists_group_of_clipped (h : m.clipped.group? (i + 1) = some s) :
    ∃ g, m.groups[i]? = some (some g) ∧ clipSpan m.whole g = some s := by
  rw [group?, clipped, List.getElem?_map] at h
  rcases hg : m.groups[i]? with - | - | g
  · simp [hg] at h
  · simp [hg] at h
  · exact ⟨g, rfl, by simpa [hg] using h⟩

/-- The ends of a cut group are ends of groups or of the match. -/
theorem ends_of_clipped {Q : Nat → Prop}
    (h : ∀ s, some s ∈ m.captures → Q s.start ∧ Q s.stop) (hs : m.clipped.group? i = some s) :
    Q s.start ∧ Q s.stop := by
  have hwhole : Q m.start ∧ Q m.stop := h m.whole List.mem_cons_self
  have hclamp : ∀ p, Q p → Q (clampInto m.whole p) := by
    intro p hp
    rcases clampInto_eq m.whole p with heq | heq | heq
    · rwa [heq]
    · rw [heq]
      exact hwhole.1
    · rw [heq]
      exact hwhole.2
  cases i with
  | zero =>
    obtain rfl : m.whole = s := Option.some.inj hs
    exact hwhole
  | succ i =>
    obtain ⟨g, hg, hclip⟩ := exists_group_of_clipped hs
    obtain ⟨hstart, hstop⟩ := h g (List.mem_cons_of_mem _ (List.mem_of_getElem? hg))
    rw [clipSpan] at hclip
    split at hclip
    · rw [← Option.some.inj hclip]
      exact ⟨hclamp _ hstart, hclamp _ hstop⟩
    · contradiction

end Match

namespace CaptureTree

variable {α : Type} {Q : Span → α → Prop}

/-- Every node of the tree has a property. -/
inductive All (Q : Span → α → Prop) : CaptureTree α → Prop
  | node {t : CaptureTree α} (own : Q t.span t.label) (children : ∀ c ∈ t.children, All Q c) :
      All Q t

theorem All.own {t : CaptureTree α} (h : t.All Q) : Q t.span t.label := by
  cases h with
  | node own _ => exact own

theorem All.children {t : CaptureTree α} (h : t.All Q) : ∀ c ∈ t.children, c.All Q := by
  cases h with
  | node _ children => exact children

theorem All.addChild {parent child : CaptureTree α} (hp : parent.All Q) (hc : child.All Q) :
    (parent.addChild child).All Q := by
  refine .node hp.own fun c hmem ↦ ?_
  rcases List.mem_append.1 hmem with hmem | hmem
  · exact hp.children c hmem
  · rw [List.mem_singleton.1 hmem]
    exact hc

theorem all_of_settle {keep : CaptureTree α → Bool} {opened roots : List (CaptureTree α)}
    (ho : ∀ t ∈ opened, t.All Q) (hr : ∀ t ∈ roots, t.All Q) :
    (∀ t ∈ (settle keep opened roots).1, t.All Q) ∧
      ∀ t ∈ (settle keep opened roots).2, t.All Q := by
  fun_induction settle keep opened roots with
  | case1 => exact ⟨ho, hr⟩
  | case2 t hkeep => exact ⟨ho, hr⟩
  | case3 t hkeep =>
    refine ⟨by simp, fun t' hmem ↦ ?_⟩
    rcases List.mem_append.1 hmem with hmem | hmem
    · exact hr t' hmem
    · exact ho t' hmem
  | case4 t parent rest hkeep => exact ⟨ho, hr⟩
  | case5 t parent rest hkeep ih =>
    -- the tree becomes a child of its parent, which may be settled next
    refine ih fun t' hmem ↦ ?_
    rcases List.mem_cons.1 hmem with rfl | hmem
    · exact (ho parent (by simp)).addChild (ho t (by simp))
    · exact ho t' (by simp [hmem])

theorem all_of_foldl_insert {placed : List (Nat × Span × α)}
    {state : List (CaptureTree α) × List (CaptureTree α)}
    (h : ∀ item ∈ placed, Q item.2.1 item.2.2) (ho : ∀ t ∈ state.1, t.All Q)
    (hr : ∀ t ∈ state.2, t.All Q) :
    (∀ t ∈ (placed.foldl insert state).1, t.All Q) ∧
      ∀ t ∈ (placed.foldl insert state).2, t.All Q := by
  induction placed generalizing state with
  | nil => exact ⟨ho, hr⟩
  | cons item placed ih =>
    have hsettled := @all_of_settle _ Q (fun t ↦ t.span.encloses item.2.1) _ _ ho hr
    refine ih (fun i hi ↦ h i (List.mem_cons_of_mem _ hi)) (fun t hmem ↦ ?_) hsettled.2
    rcases List.mem_cons.1 hmem with rfl | hmem
    · exact .node (h item List.mem_cons_self) (by simp)
    · exact hsettled.1 t hmem

/-- **What holds of the captures of a match holds of all nodes of their forest.** -/
theorem all_of_mem_forest {m : Match} {labels : List (Nat × α)}
    (h : ∀ item ∈ items m labels, Q item.2.1 item.2.2) : ∀ t ∈ forest m labels, t.All Q := by
  have hplaced : ∀ item ∈ (items m labels).mergeSort itemLE, Q item.2.1 item.2.2 :=
    fun item hitem ↦ h item (List.mem_mergeSort.1 hitem)
  have hnone : ∀ t ∈ ([] : List (CaptureTree α)), t.All Q := by simp
  obtain ⟨ho, hr⟩ := @all_of_foldl_insert _ _ _ ([], []) hplaced hnone hnone
  exact (all_of_settle ho hr).2

/-- A capture that is placed is a group of the match that holds text, with its label. -/
theorem of_mem_items {m : Match} {labels : List (Nat × α)} {item : Nat × Span × α}
    (h : item ∈ items m labels) :
    m.group? item.1 = some item.2.1 ∧ item.2.1.start < item.2.1.stop ∧
      (item.1, item.2.2) ∈ labels := by
  obtain ⟨⟨i, a⟩, hmem, heq⟩ := List.mem_filterMap.1 h
  dsimp only at heq
  split at heq
  · rename_i s hs
    split at heq
    · contradiction
    · rename_i hempty
      obtain rfl := Option.some.inj heq
      exact ⟨hs, Span.isEmpty_eq_false.1 (Bool.eq_false_iff.2 hempty), hmem⟩
  · contradiction

end CaptureTree

end ScopeGrammar
