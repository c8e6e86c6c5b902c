import Mathlib.Logic.Relation
import ScopeGrammar.Proofs.Registry.Closed

/-!
# What rules lead to

A group that is not disabled leads to the rules that it holds, and an include that is not disabled
to the rule that it means: those are the rules that are visited in the place of another (`LeadsTo`).
The candidates that some rules have are among those that they lead to in any number of steps
(`exists_reaches_of_candidatesFrom`).
-/

namespace ScopeGrammar

namespace Registry

variable {r : Registry} {base : GrammarId} {ref : RuleRef}

/-- A rule is visited in the place of another. -/
def LeadsTo (r : Registry) (base : GrammarId) (ref ref' : RuleRef) : Prop :=
  ∃ places event, r.visit base ref = .ok (some places, event) ∧ ref' ∈ places

/-- A rule is that of another, or is visited in its place in the end. -/
def Reaches (r : Registry) (base : GrammarId) : RuleRef → RuleRef → Prop :=
  Relation.ReflTransGen (r.LeadsTo base)

/-- What holds of the rules that are pending, and of those that they lead to, holds of all that an
expansion finds. -/
theorem of_mem_expand {Q : RuleRef → Prop}
    (hQ : ∀ ref ref', Q ref → r.LeadsTo base ref ref' → Q ref')
    {room : Nat} {e e' : Expansion} {pending : List RuleRef} (hpending : ∀ ref ∈ pending, Q ref)
    (hfound : ∀ ref ∈ e.found, Q ref) (h : r.expand base room e pending = .ok e') :
    ∀ ref ∈ e'.found, Q ref := by
  fun_induction expand r base room e pending with
  | case1 =>
    obtain rfl := Except.ok.inj h
    exact hfound
  | case2 => cases h
  | case3 e pending ref rest room heq ih =>
    obtain ⟨⟨places, event⟩, hvisit, h⟩ := exists_of_bind_eq_ok h
    have href : Q ref := hpending ref (mem_pending heq List.mem_cons_self)
    refine ih places event (fun ref' hmem ↦ ?_) (fun ref' hmem ↦ ?_) h
    · rcases List.mem_append.1 hmem with hmem | hmem
      · cases places with
        | none => simp at hmem
        | some places => exact hQ ref ref' href ⟨places, event, hvisit, hmem⟩
      · exact hpending ref' (mem_pending heq (List.mem_cons_of_mem _ hmem))
    · dsimp only at hmem
      split at hmem
      · rcases List.mem_cons.1 hmem with rfl | hmem
        · exact href
        · exact hfound ref' hmem
      · exact hfound ref' hmem

/-- **The candidates of some rules are rules that they lead to.** -/
theorem exists_reaches_of_candidatesFrom {refs found : List RuleRef} {log : Array Event}
    (h : r.candidatesFrom base refs = .ok (found, log)) :
    ∀ c ∈ found, ∃ ref ∈ refs, r.Reaches base ref c := by
  obtain ⟨e, he, h⟩ := exists_of_bind_eq_ok h
  obtain ⟨rfl, -⟩ := Prod.mk.inj (Except.ok.inj h)
  intro c hc
  refine of_mem_expand (Q := fun c ↦ ∃ ref ∈ refs, r.Reaches base ref c) ?_ ?_ ?_ he c
    (List.mem_reverse.1 hc)
  · rintro c c' ⟨ref, hmem, hreaches⟩ hleads
    exact ⟨ref, hmem, hreaches.tail hleads⟩
  · exact fun ref hmem ↦ ⟨ref, hmem, .refl⟩
  · simp

/-- A rule can be tried wherever another one is searched: one of those that it holds leads to it. -/
def Holds (r : Registry) (base : GrammarId) (owner ref : RuleRef) : Prop :=
  ∃ rule, r.rule owner = .ok rule ∧ ∃ id ∈ rule.patterns, r.Reaches base ⟨owner.grammar, id⟩ ref

theorem holds_of_childCandidates {owner : RuleRef} {found : List RuleRef} {log : Array Event}
    (h : r.childCandidates base owner = .ok (found, log)) :
    ∀ c ∈ found, r.Holds base owner c := by
  obtain ⟨rule, hrule, h⟩ := exists_of_bind_eq_ok h
  intro c hc
  obtain ⟨ref, hmem, hreaches⟩ := exists_reaches_of_candidatesFrom h c hc
  obtain ⟨id, hid, rfl⟩ := List.mem_map.1 hmem
  exact ⟨rule, hrule, id, hid, hreaches⟩

theorem reaches_of_entryCandidates {found : List RuleRef} {log : Array Event}
    (h : r.entryCandidates base ref = .ok (found, log)) : ∀ c ∈ found, r.Reaches base ref c := by
  intro c hc
  obtain ⟨ref', hmem, hreaches⟩ := exists_reaches_of_candidatesFrom h c hc
  rwa [List.mem_singleton.1 hmem] at hreaches

end Registry

end ScopeGrammar
