import Mathlib.Data.Set.Insert
import ScopeGrammar.Proofs.Registry.Reaching

/-!
# The order in which rules are come to

What a rule leads to is said here by what it is (`Opens`, `IsMatching`), and no longer by the
visit of it. An expansion comes to rules one after the other, each at most once (`Traverses`), and
finds those with a pattern of their own (`exists_traverses_of_expand`).

Once the rules that are pending have all been come to, so have those that they lead to
(`Traverses.mem_iff`). Therefore rules that were come to before in this way could be left out
without any effect on the order of the others (`Traverses.filter`): all that would be come to
through them is left out as well.
-/

namespace ScopeGrammar

namespace Registry

variable {r : Registry} {base : GrammarId} {ref ref' : RuleRef}

/-! ### Groups and includes -/

/-- A rule that is not disabled is a group that holds another one, or an include that means it. -/
def Opens (r : Registry) (base : GrammarId) (ref ref' : RuleRef) : Prop :=
  ∃ rule, r.rule ref = .ok rule ∧ rule.disabled = false ∧
    ((∃ group, rule.body = .group group ∧ ∃ id ∈ group.patterns, ref' = ⟨ref.grammar, id⟩) ∨
      ∃ target, rule.body = .includes target ∧ r.resolve base ref target = .ok (some ref'))

/-- A rule is not disabled and has a pattern of its own. -/
def IsMatching (r : Registry) (ref : RuleRef) : Prop :=
  ∃ rule, r.rule ref = .ok rule ∧ rule.disabled = false ∧
    ((∃ single, rule.body = .single single) ∨ ∃ region, rule.body = .region region)

/-- What a visit finds, by the kind of the rule. -/
theorem cases_of_visit {places : Option (List RuleRef)} {event : Option Event}
    (h : r.visit base ref = .ok (places, event)) :
    ∃ rule, r.rule ref = .ok rule ∧
      (rule.disabled = true ∧ places = some [] ∨
        rule.disabled = false ∧
          (((∃ single, rule.body = .single single) ∨ ∃ region, rule.body = .region region) ∧
              places = none ∨
            (∃ group, rule.body = .group group ∧
              places = some (group.patterns.map (⟨ref.grammar, ·⟩))) ∨
            ∃ target found, rule.body = .includes target ∧
              r.resolve base ref target = .ok found ∧ places = some found.toList)) := by
  obtain ⟨g, hg, h⟩ := exists_of_bind_eq_ok h
  obtain ⟨rule, hrule, h⟩ := exists_of_bind_eq_ok h
  have hfound : r.rule ref = .ok rule := by rw [Registry.rule, hg]; exact hrule
  refine ⟨rule, hfound, ?_⟩
  split at h
  · rename_i hdisabled
    obtain ⟨_, -, h⟩ := exists_of_bind_eq_ok h
    obtain ⟨rfl, -⟩ := Prod.mk.inj (Except.ok.inj h)
    exact .inl ⟨hdisabled, rfl⟩
  · rename_i henabled
    refine .inr ⟨by simpa using henabled, ?_⟩
    split at h
    · rename_i single hbody
      obtain ⟨rfl, -⟩ := Prod.mk.inj (Except.ok.inj h)
      exact .inl ⟨.inl ⟨single, hbody⟩, rfl⟩
    · rename_i region hbody
      obtain ⟨rfl, -⟩ := Prod.mk.inj (Except.ok.inj h)
      exact .inl ⟨.inr ⟨region, hbody⟩, rfl⟩
    · rename_i group hbody
      obtain ⟨rfl, -⟩ := Prod.mk.inj (Except.ok.inj h)
      exact .inr (.inl ⟨group, hbody, rfl⟩)
    · rename_i target hbody
      obtain ⟨found, hresolve, h⟩ := exists_of_bind_eq_ok h
      refine .inr (.inr ⟨target, found, hbody, hresolve, ?_⟩)
      cases found with
      | none => exact (Prod.mk.inj (Except.ok.inj h)).1.symm
      | some ref' => exact (Prod.mk.inj (Except.ok.inj h)).1.symm

/-- **A visit finds the rules that the rule is opened to.** -/
theorem mem_places_iff {places : Option (List RuleRef)} {event : Option Event}
    (h : r.visit base ref = .ok (places, event)) :
    ref' ∈ places.getD [] ↔ r.Opens base ref ref' := by
  obtain ⟨rule, hrule, hcases⟩ := cases_of_visit h
  have hunfold : r.Opens base ref ref' ↔ rule.disabled = false ∧
      ((∃ group, rule.body = .group group ∧ ∃ id ∈ group.patterns, ref' = ⟨ref.grammar, id⟩) ∨
        ∃ target, rule.body = .includes target ∧ r.resolve base ref target = .ok (some ref')) := by
    rw [Opens, hrule]
    simp
  rw [hunfold]
  obtain ⟨hdisabled, rfl⟩ | ⟨henabled, hcases⟩ := hcases
  · simp [hdisabled]
  · obtain ⟨⟨single, hbody⟩ | ⟨region, hbody⟩, rfl⟩ | ⟨group, hbody, rfl⟩ |
      ⟨target, found, hbody, hresolve, rfl⟩ := hcases
    · simp [hbody]
    · simp [hbody]
    · simp [hbody, henabled, eq_comm]
    · simp [hbody, henabled, hresolve]

/-- **A visit finds that the rule is a candidate if it has a pattern of its own.** -/
theorem places_eq_none_iff {places : Option (List RuleRef)} {event : Option Event}
    (h : r.visit base ref = .ok (places, event)) : places = none ↔ r.IsMatching ref := by
  obtain ⟨rule, hrule, hcases⟩ := cases_of_visit h
  have hunfold : r.IsMatching ref ↔ rule.disabled = false ∧
      ((∃ single, rule.body = .single single) ∨ ∃ region, rule.body = .region region) := by
    rw [IsMatching, hrule]
    simp
  rw [hunfold]
  obtain ⟨hdisabled, rfl⟩ | ⟨henabled, hcases⟩ := hcases
  · simp [hdisabled]
  · obtain ⟨⟨single, hbody⟩ | ⟨region, hbody⟩, rfl⟩ | ⟨group, hbody, rfl⟩ |
      ⟨target, found, hbody, hresolve, rfl⟩ := hcases
    · simp [hbody, henabled]
    · simp [hbody, henabled]
    · simp [hbody]
    · simp [hbody]

/-- In a registry whose identifiers name something, the rules that another one leads to are those
that it is opened to. -/
theorem IsClosed.leadsTo_iff_opens (h : r.IsClosed) (hbase : base < r.grammars.size) :
    r.LeadsTo base ref ref' ↔ r.Opens base ref ref' := by
  constructor
  · rintro ⟨places, event, hvisit, hmem⟩
    exact (mem_places_iff hvisit).1 hmem
  · intro hopens
    obtain ⟨rule, hrule, -⟩ := id hopens
    obtain ⟨⟨places, event⟩, hvisit, -⟩ := h.faultless_visit hbase (hasRule_of_rule hrule)
    have hmem := (mem_places_iff hvisit).2 hopens
    cases places with
    | none => cases hmem
    | some places => exact ⟨places, event, hvisit, hmem⟩

theorem IsClosed.reaches_eq (h : r.IsClosed) (hbase : base < r.grammars.size) :
    r.Reaches base = Relation.ReflTransGen (r.Opens base) := by
  have heq : r.LeadsTo base = r.Opens base :=
    funext₂ fun _ _ ↦ propext (h.leadsTo_iff_opens hbase)
  rw [Reaches, heq]

/-! ### Traversals -/

/-- `Traverses r base seen pending order` says that the rules that are come to through those of
`pending` are those of `order`, in this order, where those of `seen` are not come to again. -/
inductive Traverses (r : Registry) (base : GrammarId) :
    Set RuleRef → List RuleRef → List RuleRef → Prop
  | nil {seen : Set RuleRef} : Traverses r base seen [] []
  | skip {seen : Set RuleRef} {ref : RuleRef} {pending order : List RuleRef} (hseen : ref ∈ seen)
      (h : Traverses r base seen pending order) : Traverses r base seen (ref :: pending) order
  | visit {seen : Set RuleRef} {ref : RuleRef} {pending order : List RuleRef}
      {places : Option (List RuleRef)} {event : Option Event} (hnew : ref ∉ seen)
      (hvisit : r.visit base ref = .ok (places, event))
      (h : Traverses r base (insert ref seen) (places.getD [] ++ pending) order) :
      Traverses r base seen (ref :: pending) (ref :: order)

namespace Traverses

variable {seen : Set RuleRef} {pending order : List RuleRef}

/-- What has been seen is passed over at once. -/
theorem of_dropWhile {p : RuleRef → Bool} (hp : ∀ ref, p ref = true → ref ∈ seen)
    (h : r.Traverses base seen (pending.dropWhile p) order) :
    r.Traverses base seen pending order := by
  induction pending with
  | nil => exact h
  | cons ref pending ih =>
    rw [List.dropWhile_cons] at h
    split at h
    · rename_i href
      exact .skip (hp ref href) (ih h)
    · exact h

/-- The order is determined. -/
theorem unique {order' : List RuleRef} (h : r.Traverses base seen pending order)
    (h' : r.Traverses base seen pending order') : order = order' := by
  induction h generalizing order' with
  | nil =>
    cases h'
    rfl
  | skip hseen _ ih =>
    cases h' with
    | skip _ h' => exact ih h'
    | visit hnew _ _ => exact absurd hseen hnew
  | visit hnew hvisit _ ih =>
    cases h' with
    | skip hseen _ => exact absurd hseen hnew
    | visit _ hvisit' h' =>
      obtain ⟨rfl, -⟩ := Prod.mk.inj (Except.ok.inj (hvisit.symm.trans hvisit'))
      rw [ih h']

theorem not_mem_seen (h : r.Traverses base seen pending order) : ∀ ref ∈ order, ref ∉ seen := by
  induction h with
  | nil => exact fun _ hmem ↦ by cases hmem
  | skip _ _ ih => exact ih
  | visit hnew _ _ ih =>
    intro ref' hmem
    rcases List.mem_cons.1 hmem with rfl | hmem
    · exact hnew
    · exact fun hseen ↦ ih ref' hmem (Set.mem_insert_of_mem _ hseen)

/-- **No rule is come to twice.** -/
theorem nodup (h : r.Traverses base seen pending order) : order.Nodup := by
  induction h with
  | nil => exact List.nodup_nil
  | skip _ _ ih => exact ih
  | visit _ _ h ih =>
    exact List.nodup_cons.2 ⟨fun hmem ↦ h.not_mem_seen _ hmem (Set.mem_insert _ _), ih⟩

/-- What comes later starts with all that was seen by then. -/
theorem exists_of_append {first second : List RuleRef}
    (h : r.Traverses base seen (first ++ second) order) :
    ∃ before after, order = before ++ after ∧ r.Traverses base seen first before ∧
      r.Traverses base (seen ∪ {ref | ref ∈ before}) second after := by
  generalize hpending : first ++ second = pending at h
  induction h generalizing first with
  | nil =>
    obtain ⟨rfl, rfl⟩ := List.append_eq_nil_iff.1 hpending
    exact ⟨[], [], rfl, .nil, .nil⟩
  | @skip seen ref pending order hseen h ih =>
    cases first with
    | nil =>
      rw [List.nil_append] at hpending
      subst hpending
      exact ⟨[], order, rfl, .nil, by simpa using .skip hseen h⟩
    | cons ref' first =>
      obtain ⟨rfl, rfl⟩ := List.cons.inj hpending
      obtain ⟨before, after, rfl, hbefore, hafter⟩ := ih rfl
      exact ⟨before, after, rfl, .skip hseen hbefore, hafter⟩
  | @visit seen ref pending order places event hnew hvisit h ih =>
    cases first with
    | nil =>
      rw [List.nil_append] at hpending
      subst hpending
      exact ⟨[], ref :: order, rfl, .nil, by simpa using .visit hnew hvisit h⟩
    | cons ref' first =>
      obtain ⟨rfl, rfl⟩ := List.cons.inj hpending
      obtain ⟨before, after, rfl, hbefore, hafter⟩ :=
        ih (List.append_assoc (places.getD []) first second)
      refine ⟨ref' :: before, after, rfl, .visit hnew hvisit hbefore, ?_⟩
      have hset : seen ∪ {ref | ref ∈ ref' :: before} =
          insert ref' seen ∪ {ref | ref ∈ before} := by
        ext ref
        simp [or_assoc, or_left_comm]
      rwa [hset]

/-- Everything that is pending is seen in the end. -/
theorem mem_of_pending (h : r.Traverses base seen pending order) :
    ∀ ref ∈ pending, ref ∈ seen ∨ ref ∈ order := by
  induction h with
  | nil => exact fun _ hmem ↦ by cases hmem
  | skip hseen _ ih =>
    intro ref' hmem
    rcases List.mem_cons.1 hmem with rfl | hmem
    · exact .inl hseen
    · exact ih ref' hmem
  | visit _ _ _ ih =>
    intro ref' hmem
    rcases List.mem_cons.1 hmem with rfl | hmem
    · exact .inr List.mem_cons_self
    · obtain (rfl | hseen) | horder := ih ref' (List.mem_append_right _ hmem)
      · exact .inr List.mem_cons_self
      · exact .inl hseen
      · exact .inr (List.mem_cons_of_mem _ horder)

/-- **What is come to leads to rules that are seen in the end.** -/
theorem mem_of_leadsTo (h : r.Traverses base seen pending order) :
    ∀ ref ∈ order, ∀ ref', r.LeadsTo base ref ref' → ref' ∈ seen ∨ ref' ∈ order := by
  induction h with
  | nil => exact fun _ hmem ↦ by cases hmem
  | skip _ _ ih => exact ih
  | @visit seen ref pending order places event hnew hvisit h ih =>
    intro ref₁ hmem ref' hleads
    have hlater : ref' ∈ insert ref seen ∨ ref' ∈ order := by
      rcases List.mem_cons.1 hmem with rfl | hmem
      · obtain ⟨places', event', hvisit', hmem'⟩ := hleads
        obtain ⟨rfl, -⟩ := Prod.mk.inj (Except.ok.inj (hvisit.symm.trans hvisit'))
        exact h.mem_of_pending ref' (List.mem_append_left _ hmem')
      · exact ih ref₁ hmem ref' hleads
    obtain (rfl | hseen) | horder := hlater
    · exact .inr List.mem_cons_self
    · exact .inl hseen
    · exact .inr (List.mem_cons_of_mem _ horder)

/-- What is come to is led to by something that was pending. -/
theorem exists_reaches (h : r.Traverses base seen pending order) :
    ∀ ref ∈ order, ∃ ref₀ ∈ pending, r.Reaches base ref₀ ref := by
  induction h with
  | nil => exact fun _ hmem ↦ by cases hmem
  | skip _ _ ih =>
    intro ref' hmem
    obtain ⟨ref₀, hpending, hreaches⟩ := ih ref' hmem
    exact ⟨ref₀, List.mem_cons_of_mem _ hpending, hreaches⟩
  | @visit seen ref pending order places event hnew hvisit h ih =>
    intro ref' hmem
    rcases List.mem_cons.1 hmem with rfl | hmem
    · exact ⟨ref', List.mem_cons_self, .refl⟩
    · obtain ⟨ref₀, hpending, hreaches⟩ := ih ref' hmem
      rcases List.mem_append.1 hpending with hplaces | hpending
      · cases places with
        | none => cases hplaces
        | some places =>
          exact ⟨ref, List.mem_cons_self, .head ⟨places, event, hvisit, hplaces⟩ hreaches⟩
      · exact ⟨ref₀, List.mem_cons_of_mem _ hpending, hreaches⟩

/-- What is skipped later can be skipped now. -/
theorem of_append (h : ∀ ref ∈ pending, ref ∈ seen) {pending' : List RuleRef}
    (h' : r.Traverses base seen (pending ++ pending') order) :
    r.Traverses base seen pending' order := by
  induction pending with
  | nil => exact h'
  | cons ref pending ih =>
    obtain ⟨hseen, h⟩ := List.forall_mem_cons.1 h
    cases h' with
    | skip _ h' => exact ih h h'
    | visit hnew _ _ => exact absurd hseen hnew

end Traverses

/-! ### Sets of rules that lead nowhere else -/

/-- The rules of a set lead to rules of the set only. -/
def IsClosedUnder (r : Registry) (base : GrammarId) (rules : Set RuleRef) : Prop :=
  ∀ ref ∈ rules, ∀ ref', r.LeadsTo base ref ref' → ref' ∈ rules

theorem IsClosedUnder.mem_of_reaches {rules : Set RuleRef} (h : r.IsClosedUnder base rules)
    (href : ref ∈ rules) (hreaches : r.Reaches base ref ref') : ref' ∈ rules := by
  induction hreaches with
  | refl => exact href
  | tail _ hleads ih => exact h _ ih _ hleads

namespace Traverses

variable {seen : Set RuleRef} {pending order : List RuleRef}

/-- **After a traversal, what was seen leads nowhere else.** -/
theorem isClosedUnder (h : r.Traverses base seen pending order)
    (hseen : r.IsClosedUnder base seen) :
    r.IsClosedUnder base (seen ∪ {ref | ref ∈ order}) := by
  rintro ref (hmem | hmem) ref' hleads
  · exact .inl (hseen ref hmem ref' hleads)
  · exact h.mem_of_leadsTo ref hmem ref' hleads

/-- **What is come to from the start is what is led to.** -/
theorem mem_iff (h : r.Traverses base ∅ pending order) :
    ref ∈ order ↔ ∃ ref₀ ∈ pending, r.Reaches base ref₀ ref := by
  refine ⟨h.exists_reaches ref, fun ⟨ref₀, hmem, hreaches⟩ ↦ ?_⟩
  have hclosed := h.isClosedUnder fun _ hmem ↦ absurd hmem (Set.notMem_empty _)
  rw [Set.empty_union] at hclosed
  have hfirst := (h.mem_of_pending ref₀ hmem).resolve_left (Set.notMem_empty _)
  exact hclosed.mem_of_reaches hfirst hreaches

open Classical in
/-- **Rules that lead only to each other can be left out.** The other ones are come to in the same
order. -/
theorem filter (h : r.Traverses base seen pending order) {rules : Set RuleRef}
    (hrules : r.IsClosedUnder base rules) :
    r.Traverses base (seen ∪ rules) pending (order.filter (· ∉ rules)) := by
  induction h with
  | nil => exact .nil
  | skip hseen _ ih => exact .skip (.inl hseen) ih
  | @visit seen ref pending order places event hnew hvisit h ih =>
    by_cases hmem : ref ∈ rules
    · -- all that is visited in its place is left out as well
      have hplaces : ∀ ref' ∈ places.getD [], ref' ∈ insert ref seen ∪ rules := by
        intro ref' hplace
        cases places with
        | none => cases hplace
        | some places => exact .inr (hrules ref hmem ref' ⟨places, event, hvisit, hplace⟩)
      have hset : insert ref seen ∪ rules = seen ∪ rules := by
        rw [Set.insert_union, Set.insert_eq_of_mem (.inr hmem)]
      have hrest := of_append hplaces ih
      rw [hset] at hrest
      rw [List.filter_cons_of_neg (by simpa using hmem)]
      exact .skip (.inr hmem) hrest
    · rw [List.filter_cons_of_pos (by simpa using hmem)]
      refine .visit (fun hseen ↦ hseen.elim hnew hmem) hvisit ?_
      rwa [← Set.insert_union]

/-- Leaving a rule out makes no difference as long as it is not come to. -/
theorem isPrefix_of_insert {before after order' : List RuleRef}
    (h : r.Traverses base seen pending (before ++ after)) (href : ref ∉ before)
    (h' : r.Traverses base (insert ref seen) pending order') : before <+: order' := by
  generalize horder : before ++ after = order at h
  induction h generalizing before order' with
  | nil =>
    obtain ⟨rfl, -⟩ := List.append_eq_nil_iff.1 horder
    exact List.nil_prefix
  | skip hseen _ ih =>
    cases h' with
    | skip _ h' => exact ih href h' horder
    | visit hnew _ _ => exact absurd (.inr hseen) hnew
  | visit hnew hvisit _ ih =>
    cases before with
    | nil => exact List.nil_prefix
    | cons first before =>
      obtain ⟨rfl, rfl⟩ := List.cons.inj horder
      cases h' with
      | skip hseen _ =>
        exact absurd hseen fun hmem ↦ hmem.elim (fun heq ↦ href (heq ▸ List.mem_cons_self)) hnew
      | visit _ hvisit' h' =>
        obtain ⟨rfl, -⟩ := Prod.mk.inj (Except.ok.inj (hvisit.symm.trans hvisit'))
        rw [Set.insert_comm] at h'
        exact (List.prefix_cons_inj _).2 (ih (fun hmem ↦ href (List.mem_cons_of_mem _ hmem)) h' rfl)

end Traverses

/-! ### Expansions -/

open Classical in
/-- **An expansion comes to rules in this order, and finds those with a pattern of their own.** -/
theorem exists_traverses_of_expand {room : Nat} {e e' : Expansion} {pending : List RuleRef}
    (h : r.expand base room e pending = .ok e') :
    ∃ order, r.Traverses base {ref | ref ∈ e.visited} pending order ∧
      e'.found.reverse = e.found.reverse ++ order.filter (r.IsMatching ·) := by
  fun_induction expand r base room e pending with
  | case1 room e pending heq =>
    obtain rfl := Except.ok.inj h
    have hrest : r.Traverses base {ref | ref ∈ e.visited}
        (pending.dropWhile (· ∈ e.visited)) [] := by
      rw [heq]
      exact .nil
    exact ⟨[], hrest.of_dropWhile fun ref href ↦ of_decide_eq_true href, by simp⟩
  | case2 => cases h
  | case3 e pending ref rest room heq ih =>
    obtain ⟨⟨places, event⟩, hvisit, h⟩ := exists_of_bind_eq_ok h
    obtain ⟨order, horder, hfound⟩ := ih places event h
    have hset : {ref' | ref' ∈ e.visited.insert ref} = insert ref {ref' | ref' ∈ e.visited} := by
      ext ref'
      rw [Set.mem_ofPred_eq, Std.HashSet.mem_insert, beq_iff_eq, Set.mem_insert_iff, eq_comm]
      rfl
    rw [hset] at horder
    have hrest : r.Traverses base {ref | ref ∈ e.visited}
        (pending.dropWhile (· ∈ e.visited)) (ref :: order) := by
      rw [heq]
      exact .visit (not_mem_visited heq) hvisit horder
    refine ⟨ref :: order, hrest.of_dropWhile fun ref href ↦ of_decide_eq_true href, ?_⟩
    rw [hfound]
    by_cases hmatching : r.IsMatching ref
    · obtain rfl := (places_eq_none_iff hvisit).2 hmatching
      simp [hmatching]
    · have hsome := mt (places_eq_none_iff hvisit).1 hmatching
      simp [hmatching, hsome]

open Classical in
/-- The candidates of some rules are those that are come to from the start. -/
theorem exists_traverses_of_candidatesFrom {refs found : List RuleRef} {log : Array Event}
    (h : r.candidatesFrom base refs = .ok (found, log)) :
    ∃ order, r.Traverses base ∅ refs order ∧ found = order.filter (r.IsMatching ·) := by
  obtain ⟨e, he, h⟩ := exists_of_bind_eq_ok h
  obtain ⟨rfl, -⟩ := Prod.mk.inj (Except.ok.inj h)
  obtain ⟨order, horder, hfound⟩ := exists_traverses_of_expand he
  have hset : {ref | ref ∈ ({} : Expansion).visited} = ∅ := by
    ext ref
    simp
  exact ⟨order, hset ▸ horder, by simpa using hfound⟩

end Registry

end ScopeGrammar
