import Mathlib.Data.Finset.Card
import ScopeGrammar.Proofs.Scope.Interning

/-!
# Room for names

A table has as many atoms to give as there are numbers of 32 bits, and it gives one to each segment
once. So whether names can be made from a table is a matter of counting: of the segments that it
holds and those of the names, each once (`Interning.internAll_eq_error_iff`).
-/

namespace ScopeGrammar

namespace AtomTable

variable {t : AtomTable} {s : String}

/-- The segments that a table holds. -/
def held (t : AtomTable) : Finset String :=
  t.segments.toList.toFinset

/-- A new segment is held besides the others. -/
theorem held_add (t : AtomTable) (s : String) : (t.add s).held = insert s t.held := by
  rw [held, add, Array.toList_push, List.toFinset_append, Finset.union_comm, Finset.insert_eq]
  rfl

namespace IsExact

/-- A segment with an atom is held. -/
theorem mem_held (h : t.IsExact) {a : UInt32} (ha : t.atoms[s]? = some a) : s ∈ t.held := by
  rw [h.getElem?_atoms, Names, ← Array.getElem?_toList] at ha
  exact List.mem_toFinset.2 (List.mem_of_getElem? ha)

/-- An exact table holds each of its segments once. -/
theorem card_held (h : t.IsExact) : t.held.card = t.segments.size := by
  rw [held, List.toFinset_card_of_nodup h.nodup, Array.length_toList]

/-- There are never more segments than atoms. -/
theorem card_held_le (h : t.IsExact) : t.held.card ≤ UInt32.size := by
  rw [h.card_held]
  exact h.size_le

end IsExact

end AtomTable

/-- The segments of some names. -/
def segmentsOf (ns : List ScopeName) : Finset String :=
  (ns.flatMap ScopeName.segments).toFinset

theorem segmentsOf_cons (n : ScopeName) (ns : List ScopeName) :
    segmentsOf (n :: ns) = n.segments.toFinset ∪ segmentsOf ns := by
  rw [segmentsOf, List.flatMap_cons, List.toFinset_append]
  rfl

namespace Interning

variable {t : AtomTable}

/-- What a computation does to an exact table that is to hold some more segments: it leaves the
table exact, with just these segments more, unless there are more of them than atoms. -/
def Holds {α : Type} (x : Interning α) (t : AtomTable) (added : Finset String) : Prop :=
  ∃ t' : AtomTable, t'.IsExact ∧
    ((∃ a, x t = .ok a t' ∧ t'.held = t.held ∪ added) ∨
      x t = .error .tableFull t' ∧ UInt32.size < (t.held ∪ added).card)

/-- **A step holds its segment**, or all atoms are given and none of them to the segment. -/
theorem holds_atom (h : t.IsExact) (s : String) : Holds (atom s) t {s} := by
  rw [Holds, atom_apply, Finset.union_comm, ← Finset.insert_eq]
  cases ha : t.atoms[s]? with
  | some a =>
    exact ⟨t, h, .inl ⟨a, rfl, (Finset.insert_eq_of_mem (h.mem_held ha)).symm⟩⟩
  | none =>
    have hnew : s ∉ t.held := fun hs ↦ h.notMem_of_none ha (List.mem_toFinset.1 hs)
    by_cases hsize : t.segments.size < UInt32.size
    · exact ⟨t.add s, h.add ha hsize, .inl ⟨t.nextAtom, if_pos hsize, t.held_add s⟩⟩
    · refine ⟨t, h, .inr ⟨if_neg hsize, ?_⟩⟩
      rw [Finset.card_insert_of_notMem hnew, h.card_held]
      exact Nat.lt_succ_of_le (Nat.le_of_not_lt hsize)

/-- A sequence holds what its parts hold. If the table has become full on the way, it is too small
for what comes later all the more. -/
theorem Holds.bind {α β : Type} {x : Interning α} {f : α → Interning β} {a b : Finset String}
    (hx : Holds x t a) (hf : ∀ v (t' : AtomTable), t'.IsExact → Holds (f v) t' b) :
    Holds (x >>= f) t (a ∪ b) := by
  rw [Holds, bind_apply, ← Finset.union_assoc]
  obtain ⟨t₁, h₁, ⟨v, hrun, hheld⟩ | ⟨hrun, hfull⟩⟩ := hx
  · rw [hrun, ← hheld]
    exact hf v t₁ h₁
  · refine ⟨t₁, h₁, .inr ⟨by rw [hrun], ?_⟩⟩
    exact Nat.lt_of_lt_of_le hfull (Finset.card_le_card Finset.subset_union_left)

theorem Holds.map {α β : Type} {x : Interning α} {a : Finset String} (hx : Holds x t a)
    (f : α → β) : Holds (f <$> x) t a := by
  rw [Holds, map_apply]
  obtain ⟨t', h', ⟨v, hrun, hheld⟩ | ⟨hrun, hfull⟩⟩ := hx
  · exact ⟨t', h', .inl ⟨f v, by rw [hrun], hheld⟩⟩
  · exact ⟨t', h', .inr ⟨by rw [hrun], hfull⟩⟩

theorem holds_pure {α : Type} (h : t.IsExact) (a : α) : Holds (pure a) t ∅ :=
  ⟨t, h, .inl ⟨a, rfl, (Finset.union_empty _).symm⟩⟩

/-- All steps of a name together hold its segments. -/
theorem holds_mapM_atom (h : t.IsExact) (ss : List String) :
    Holds (ss.mapM atom) t ss.toFinset := by
  induction ss generalizing t with
  | nil => exact holds_pure h []
  | cons s ss ih =>
    rw [List.mapM_cons, List.toFinset_cons, Finset.insert_eq]
    refine (holds_atom h s).bind fun a t₁ h₁ ↦ ?_
    rw [← Finset.union_empty ss.toFinset]
    exact (ih h₁).bind fun as t₂ h₂ ↦ holds_pure h₂ _

/-- All names together hold their segments. -/
theorem holds_internAll (h : t.IsExact) (ns : List ScopeName) :
    Holds (internAll ns) t (segmentsOf ns) := by
  rw [internAll]
  induction ns generalizing t with
  | nil => exact holds_pure h []
  | cons n ns ih =>
    rw [List.mapM_cons, segmentsOf_cons]
    refine ((holds_mapM_atom h n.segments).map InternedName.mk).bind fun a t₁ h₁ ↦ ?_
    rw [← Finset.union_empty (segmentsOf ns)]
    exact (ih h₁).bind fun as t₂ h₂ ↦ holds_pure h₂ _

/-- **Names are made just if there are atoms for all segments**, those that the table holds and
those of the names, each counted once. -/
theorem internAll_eq_error_iff (h : t.IsExact) (ns : List ScopeName) :
    (∃ e t', internAll ns t = .error e t') ↔ UInt32.size < (t.held ∪ segmentsOf ns).card := by
  obtain ⟨t', h', ⟨names, hrun, hheld⟩ | ⟨hrun, hfull⟩⟩ := holds_internAll h ns
  · rw [← hheld]
    refine iff_of_false ?_ (Nat.not_lt_of_le h'.card_held_le)
    rintro ⟨e, left, herror⟩
    rw [hrun] at herror
    cases herror
  · exact iff_of_true ⟨_, _, hrun⟩ hfull

end Interning

end ScopeGrammar
