import Mathlib.Data.List.Forall2
import Mathlib.Data.List.NodupEquivFin
import ScopeGrammar.Selector.Expression

/-!
# Paths of names

A condition that asks for some names holds of the scopes of a place if the names cover some of the
scopes in order. The test takes for every name the first scope that it covers and never another,
which loses nothing: where the names cover scopes in order, the first of these can be exchanged for
an earlier one (`pathHolds_iff_sublistForall₂`). So the test is complete for increasing places
among the scopes (`holds_path_iff_exists_strictMono`).
-/

namespace ScopeGrammar

namespace ScopeName

theorem covers_iff {n m : ScopeName} : n.covers m = true ↔ n.segments <+: m.segments :=
  List.isPrefixOf_iff_prefix

end ScopeName

open List (SublistForall₂)

/-- What is covered in order is still covered if one goes without the first element of both
lists. -/
theorem sublistForall₂_of_cons_cons {α β : Type*} {R : α → β → Prop} {a : α} {b : β} {as : List α}
    {bs : List β} (h : SublistForall₂ R (a :: as) (b :: bs)) : SublistForall₂ R as bs := by
  obtain ⟨taken, hcover, htaken⟩ := List.sublistForall₂_iff.mp h
  obtain ⟨first, rest, -, hrest, rfl⟩ := List.forall₂_cons_left_iff.mp hcover
  exact List.sublistForall₂_iff.mpr ⟨rest, hrest, htaken.tail⟩

/-- Elements that are taken in order stand at places that increase. -/
theorem sublistForall₂_iff_exists_strictMono {α β : Type*} {R : α → β → Prop} {as : List α}
    {bs : List β} :
    SublistForall₂ R as bs ↔ ∃ place : Fin as.length → Fin bs.length, StrictMono place ∧
      ∀ i, R (as.get i) (bs.get (place i)) := by
  rw [List.sublistForall₂_iff]
  constructor
  · rintro ⟨taken, hcover, htaken⟩
    obtain ⟨place, hplace⟩ := List.sublist_iff_exists_fin_orderEmbedding_get_eq.mp htaken
    refine ⟨fun i ↦ place (i.cast hcover.length_eq), fun i j hij ↦ place.strictMono hij, ?_⟩
    intro i
    rw [← hplace]
    exact hcover.get i.isLt _
  · rintro ⟨place, hmono, hcover⟩
    refine ⟨List.ofFn fun i ↦ bs.get (place i), ?_, ?_⟩
    · exact List.forall₂_iff_get.mpr ⟨by simp, fun i hi _ ↦ by simpa using hcover ⟨i, hi⟩⟩
    · rw [List.sublist_iff_exists_fin_orderEmbedding_get_eq]
      exact ⟨(Fin.castOrderIso List.length_ofFn).toOrderEmbedding.trans
        (OrderEmbedding.ofStrictMono place hmono), fun i ↦ List.get_ofFn _ i⟩

namespace ScopeCondition

/-- **Nothing is lost by taking the first scope that is covered**: the test holds exactly when the
names cover some of the scopes in order. -/
theorem pathHolds_iff_sublistForall₂ {names scopes : List ScopeName} :
    pathHolds names scopes = true ↔ SublistForall₂ (fun n s ↦ n.covers s = true) names scopes := by
  fun_induction pathHolds names scopes with
  | case1 scopes => exact iff_of_true rfl .nil
  | case2 n names => exact iff_of_false Bool.false_ne_true nofun
  | case3 n names s scopes hn ih =>
    -- Whichever scope is taken for `n`, those for the names after it come later than `s`.
    exact ih.trans ⟨.cons hn, sublistForall₂_of_cons_cons⟩
  | case4 n names s scopes hn ih =>
    rw [ih]
    constructor
    · exact .cons_right
    · rintro (_ | ⟨hs, -⟩ | h)
      · exact absurd hs hn
      · exact h

/-- **The test for a path is complete**: it holds of the scopes of a place exactly when there are
places among them, increasing and one for each name, such that the segments of the name begin the
segments of the scope at its place. -/
theorem holds_path_iff_exists_strictMono (names scopes : List ScopeName) :
    (path names).holds scopes = true ↔
      ∃ place : Fin names.length → Fin scopes.length, StrictMono place ∧
        ∀ i, (names.get i).segments <+: (scopes.get (place i)).segments := by
  rw [holds, pathHolds_iff_sublistForall₂, sublistForall₂_iff_exists_strictMono]
  simp only [ScopeName.covers_iff]

/-- The first scope that `a` covers is taken, and a name without segments covers any scope after
it, but not that same scope again. -/
example :
    (path [⟨["a"]⟩, ⟨[]⟩]).holds [⟨["a", "b"]⟩, ⟨["a"]⟩] = true ∧
      (path [⟨["a"]⟩, ⟨[]⟩]).holds [⟨["c"]⟩, ⟨["a"]⟩] = false := by
  decide

end ScopeCondition

end ScopeGrammar
