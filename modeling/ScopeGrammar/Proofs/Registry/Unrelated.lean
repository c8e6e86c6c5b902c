import ScopeGrammar.Proofs.Registry.Reaching
import ScopeGrammar.Proofs.Registry.Records
import ScopeGrammar.Proofs.Tokenizer.Confined

/-!
# Unrelated grammars

A grammar is unrelated to a registry if nothing in the registry has its scope name or includes it,
and if it exports nothing to the documents of interest (`IsUnrelated`). There is no other way to
come from one grammar to another, so that what is found from rules of the registry is the same when
the grammar is added (`sees_add`): rules lead to rules of the registry only, and there is more room
to visit them than before. So are the injections (`injectionsFor_add`).
-/

namespace ScopeGrammar

/-- The grammar of the rule is one of the registry. -/
def RuleRef.IsIn (ref : RuleRef) (r : Registry) : Prop :=
  ref.grammar < r.grammars.size

namespace Registry

variable {r r' : Registry} {base id : GrammarId} {ref : RuleRef} {h : Grammar} {gs : List Grammar}

/-- No rule of the registry includes the grammars of a scope name. -/
def NeverIncludes (r : Registry) (scopeName : String) : Prop :=
  ∀ ref rule, r.rule ref = .ok rule → ∀ entry, rule.body ≠ .includes (.grammar scopeName entry)

/-- A grammar has nothing to do with the grammars of the registry and with the documents of a
grammar. -/
structure IsUnrelated (r : Registry) (base h : Grammar) : Prop where
  unregistered : r.idByScopeName? h.scopeName = none
  unincluded : r.NeverIncludes h.scopeName
  /-- Nothing is exported to the documents. -/
  inactive : h.exported = none ∨ h.scopeName ∉ r.injectionScopes ∧ base.scopeName ∉ h.injectTo

/-- The other registry holds the same grammars under their numbers, and finds the same from their
rules when documents of a grammar are tokenized. -/
structure Sees (r r' : Registry) (base : GrammarId) : Prop where
  grammar_eq : ∀ id < r.grammars.size, r'.grammar id = r.grammar id
  fresh_eq : ∀ ref, ref.IsIn r → ∀ kind,
    r'.freshCandidates base ref kind = r.freshCandidates base ref kind
  /-- Rules of the registry lead to rules of the registry. -/
  leads : ∀ ref ref', ref.IsIn r → r.LeadsTo base ref ref' → ref'.IsIn r

namespace Sees

variable (hsees : r.Sees r' base)

include hsees

/-- A rule of the smaller registry is the same in the larger one. -/
theorem rule_eq (href : ref.IsIn r) : r'.rule ref = r.rule ref := by
  rw [rule, rule, hsees.grammar_eq _ href]

/-- A rule of the smaller registry is described the same way. -/
theorem describe_eq (href : ref.IsIn r) : r'.describe ref = r.describe ref := by
  rw [describe, describe, hsees.grammar_eq _ href]

/-- Rules of a registry reach rules of that registry only. -/
theorem isIn_of_reaches {ref' : RuleRef} (href : ref.IsIn r) (hreaches : r.Reaches base ref ref') :
    ref'.IsIn r := by
  induction hreaches with
  | refl => exact href
  | tail _ hleads ih => exact hsees.leads _ _ ih hleads

end Sees

/-! ### Rules of the registry -/

theorem isIn_of_grammar {g : Grammar} (hg : r.grammar ref.grammar = .ok g) : ref.IsIn r :=
  (Array.getElem?_eq_some_iff.1 (grammar_eq_ok_iff.1 hg)).1

/-- A rule that is found is in the registry. -/
theorem isIn_of_rule {rule : Rule} (hrule : r.rule ref = .ok rule) : ref.IsIn r := by
  obtain ⟨g, hg, -⟩ := exists_of_bind_eq_ok hrule
  exact isIn_of_grammar hg

/-- An include leads to a rule of the registry. -/
theorem isIn_of_resolve (hr : r.Records gs) (hbase : base < r.grammars.size) (href : ref.IsIn r)
    {target : IncludeTarget} {ref' : RuleRef}
    (hresolve : r.resolve base ref target = .ok (some ref')) : ref'.IsIn r := by
  cases target with
  | self =>
    obtain rfl := Option.some.inj (Except.ok.inj hresolve)
    exact href
  | base =>
    obtain rfl := Option.some.inj (Except.ok.inj hresolve)
    exact hbase
  | entry name =>
    obtain ⟨g, -, hresolve⟩ := exists_of_bind_eq_ok hresolve
    obtain ⟨rule?, -, hresolve⟩ := exists_of_bind_eq_ok hresolve
    obtain ⟨rule, -, rfl⟩ := Option.map_eq_some_iff.1 (Except.ok.inj hresolve)
    exact href
  | grammar scopeName entry =>
    have hlt := (hr.isLast_of_resolve hresolve).lt
    rwa [hr.length_eq] at hlt
  | unknown source => cases hresolve

/-- What is visited is a rule. -/
theorem hasRule_of_visit {visited : Option (List RuleRef) × Option Event}
    (hvisit : r.visit base ref = .ok visited) : r.HasRule ref := by
  obtain ⟨g, hg, hvisit⟩ := exists_of_bind_eq_ok hvisit
  obtain ⟨rule, hrule, -⟩ := exists_of_bind_eq_ok hvisit
  exact hasRule_of_rule (rule_eq_ok_iff.2
    ⟨g, grammar_eq_ok_iff.1 hg, Grammar.rule_eq_ok_iff.1 hrule⟩)

/-- Visiting a rule that is not there is a fault. -/
theorem visit_of_not_hasRule (href : ref.IsIn r) (hnone : ¬r.HasRule ref) :
    r.visit base ref = .error .unknownRule := by
  obtain ⟨g, hg, hg'⟩ := faultless_grammar href
  have hrule : g.rule ref.rule = .error .unknownRule := by
    have hsize : g.rules.size ≤ ref.rule := Nat.le_of_not_lt fun hlt ↦ hnone ⟨g, hg', hlt⟩
    rw [Grammar.rule, Array.getElem?_eq_none hsize]
  rw [visit, hg]
  show (g.rule ref.rule).bind _ = _
  rw [hrule]
  rfl

/-- A rule leads to others of its grammar, or includes them. -/
theorem LeadsTo.cases {ref' : RuleRef} (hleads : r.LeadsTo base ref ref') :
    ref'.grammar = ref.grammar ∨ ∃ target, r.resolve base ref target = .ok (some ref') := by
  obtain ⟨places, event, hvisit, hmem⟩ := hleads
  obtain ⟨g, hg, hvisit⟩ := exists_of_bind_eq_ok hvisit
  obtain ⟨rule, hrule, hvisit⟩ := exists_of_bind_eq_ok hvisit
  split at hvisit
  · obtain ⟨_, -, hvisit⟩ := exists_of_bind_eq_ok hvisit
    cases hvisit
    cases hmem
  · split at hvisit
    · cases hvisit
    · cases hvisit
    · cases hvisit
      obtain ⟨_, -, rfl⟩ := List.mem_map.1 hmem
      exact .inl rfl
    · rename_i target _
      obtain ⟨found, hfound, hvisit⟩ := exists_of_bind_eq_ok hvisit
      split at hvisit
      · cases hvisit
        rw [List.mem_singleton.1 hmem]
        exact .inr ⟨target, hfound⟩
      · cases hvisit
        cases hmem

/-- Rules of the registry lead to rules of the registry. -/
theorem LeadsTo.isIn (hr : r.Records gs) (hbase : base < r.grammars.size) {ref' : RuleRef}
    (href : ref.IsIn r) (hleads : r.LeadsTo base ref ref') : ref'.IsIn r := by
  obtain hsame | ⟨target, hresolve⟩ := hleads.cases
  · rwa [RuleRef.IsIn, hsame]
  · exact isIn_of_resolve hr hbase href hresolve

/-! ### Adding a grammar -/

section Add

variable (hadd : r.add h = .ok (id, r'))

include hadd

/-- A grammar that is there keeps its identifier when another one is added. -/
theorem grammar_add_of_lt {id' : GrammarId} (hlt : id' < r.grammars.size) :
    r'.grammar id' = r.grammar id' := by
  obtain ⟨g, hg, -⟩ := faultless_grammar hlt
  rw [hg, extends_add hadd id' g hg]

/-- A rule that is there is the same when another grammar is added. -/
theorem rule_add (href : ref.IsIn r) : r'.rule ref = r.rule ref := by
  rw [rule, rule, grammar_add_of_lt hadd href]

/-- All other scope names lead where they did. -/
theorem idByScopeName?_add {scopeName : String} (hne : h.scopeName ≠ scopeName) :
    r'.idByScopeName? scopeName = r.idByScopeName? scopeName := by
  obtain ⟨-, -, rfl⟩ := add_eq_ok_iff.1 hadd
  rw [idByScopeName?, Std.HashMap.getElem?_insert, if_neg (by simpa using hne)]
  rfl

theorem ruleCount_add : r'.ruleCount = r.ruleCount + h.rules.size := by
  obtain ⟨-, -, rfl⟩ := add_eq_ok_iff.1 hadd
  rw [ruleCount, Array.foldl_push]
  rfl

/-- **An include leads to where it led before**, unless it is one of the grammar that is added. -/
theorem resolve_add (hr : r.Records gs) (href : ref.IsIn r) {target : IncludeTarget}
    (htarget : ∀ entry, target ≠ .grammar h.scopeName entry) :
    r'.resolve base ref target = r.resolve base ref target := by
  cases target with
  | self => rfl
  | base => rfl
  | entry name =>
    show (r'.grammar ref.grammar).bind _ = (r.grammar ref.grammar).bind _
    rw [grammar_add_of_lt hadd href]
  | grammar scopeName entry =>
    have hne : h.scopeName ≠ scopeName := fun heq ↦ htarget entry (by rw [heq])
    rw [resolve.eq_def, resolve.eq_def]
    dsimp only
    rw [idByScopeName?_add hadd hne]
    cases hid : r.idByScopeName? scopeName with
    | none => rfl
    | some id =>
      cases entry with
      | none => rfl
      | some name =>
        dsimp only
        rw [grammar_add_of_lt hadd (hr.lt_of_byScopeName hid)]
  | unknown source => rfl

/-- **A rule is visited the same way with an unrelated grammar added**, since it includes nothing of
it. -/
theorem visit_add (hr : r.Records gs) (hnever : r.NeverIncludes h.scopeName) (href : ref.IsIn r) :
    r'.visit base ref = r.visit base ref := by
  rw [visit, visit, grammar_add_of_lt hadd href]
  cases hg : r.grammar ref.grammar with
  | error f => rfl
  | ok g =>
    show (g.rule ref.rule).bind _ = (g.rule ref.rule).bind _
    cases hrule : g.rule ref.rule with
    | error f => rfl
    | ok rule =>
      show (if rule.disabled then _ else _) = (if rule.disabled then _ else _)
      cases hbody : rule.body with
      | includes target =>
        have hrule : r.rule ref = .ok rule := by
          rw [Registry.rule, hg]
          exact hrule
        have htarget : ∀ entry, target ≠ .grammar h.scopeName entry := by
          rintro entry rfl
          exact hnever ref rule hrule entry hbody
        dsimp only
        rw [resolve_add hadd hr href htarget]
      | single _ => rfl
      | region _ => rfl
      | group _ => rfl

/-- **An expansion comes to the same with another grammar**, which only adds to the room. Without
room all rules have been visited, and a reference that is left means none of them. -/
theorem expand_add (hr : r.Records gs) (hnever : r.NeverIncludes h.scopeName)
    (hbase : base < r.grammars.size) {room extra : Nat} {e : Expansion} {pending : List RuleRef}
    (hvisited : ∀ ref ∈ e.visited, r.HasRule ref) (hroom : r.ruleCount ≤ room + e.visited.size)
    (hpending : ∀ ref ∈ pending, ref.IsIn r) :
    r'.expand base (room + extra) e pending = r.expand base room e pending := by
  fun_induction expand r base room e pending with
  | case1 e pending room heq => rw [expand.eq_def, heq]
  | case2 e pending ref rest heq =>
    have hnone : ¬r.HasRule ref := fun href ↦ by
      have hlt := size_lt_ruleCount hvisited href (not_mem_visited heq)
      omega
    have href : ref.IsIn r := hpending ref (mem_pending heq List.mem_cons_self)
    have hvisit : r'.visit base ref = .error .unknownRule := by
      rw [visit_add hadd hr hnever href, visit_of_not_hasRule href hnone]
    rw [expand.eq_def, heq]
    cases extra with
    | zero => rfl
    | succ extra =>
      show (r'.visit base ref).bind _ = _
      rw [hvisit]
      rfl
  | case3 e pending ref rest room heq ih =>
    have href : ref.IsIn r := hpending ref (mem_pending heq List.mem_cons_self)
    rw [expand.eq_def, heq, Nat.succ_add]
    show (r'.visit base ref).bind _ = (r.visit base ref).bind _
    rw [visit_add hadd hr hnever href]
    cases hvisit : r.visit base ref with
    | error f => rfl
    | ok visited =>
      obtain ⟨places, event⟩ := visited
      refine ih places event (fun ref' hmem ↦ ?_) ?_ fun ref' hmem ↦ ?_
      · rcases Std.HashSet.mem_insert.1 hmem with heq' | hmem
        · rw [← eq_of_beq heq']
          exact hasRule_of_visit hvisit
        · exact hvisited ref' hmem
      · rw [Std.HashSet.size_insert, if_neg (not_mem_visited heq)]
        omega
      · rcases List.mem_append.1 hmem with hmem | hmem
        · cases places with
          | none => cases hmem
          | some places => exact LeadsTo.isIn hr hbase href ⟨places, event, hvisit, hmem⟩
        · exact hpending ref' (mem_pending heq (List.mem_cons_of_mem _ hmem))

/-- Rules lead to the same candidates with an unrelated grammar added. -/
theorem candidatesFrom_add (hr : r.Records gs) (hnever : r.NeverIncludes h.scopeName)
    (hbase : base < r.grammars.size) {refs : List RuleRef} (hrefs : ∀ ref ∈ refs, ref.IsIn r) :
    r'.candidatesFrom base refs = r.candidatesFrom base refs := by
  have hvisited : ∀ ref ∈ (∅ : Std.HashSet RuleRef), r.HasRule ref :=
    fun ref hmem ↦ (Std.HashSet.not_mem_empty hmem).elim
  rw [candidatesFrom, candidatesFrom, ruleCount_add hadd,
    expand_add hadd hr hnever hbase hvisited (Nat.le_add_right _ _) hrefs]

/-- A rule has the same candidates with an unrelated grammar added, in either way. -/
theorem freshCandidates_add (hr : r.Records gs) (hnever : r.NeverIncludes h.scopeName)
    (hbase : base < r.grammars.size) (href : ref.IsIn r) (kind : CandidateKind) :
    r'.freshCandidates base ref kind = r.freshCandidates base ref kind := by
  cases kind with
  | children =>
    show (r'.rule ref).bind _ = (r.rule ref).bind _
    rw [rule_add hadd href]
    congr 1
    funext rule
    refine candidatesFrom_add hadd hr hnever hbase fun ref' hmem ↦ ?_
    obtain ⟨_, -, rfl⟩ := List.mem_map.1 hmem
    exact href
  | entry =>
    exact candidatesFrom_add hadd hr hnever hbase fun ref' hmem ↦ by
      rwa [List.mem_singleton.1 hmem]

/-- **What is found from the rules of a registry does not change with an unrelated grammar.** -/
theorem sees_add (hr : r.Records gs) (hnever : r.NeverIncludes h.scopeName)
    (hbase : base < r.grammars.size) : r.Sees r' base where
  grammar_eq _ hlt := grammar_add_of_lt hadd hlt
  fresh_eq _ href kind := freshCandidates_add hadd hr hnever hbase href kind
  leads _ _ href hleads := hleads.isIn hr hbase href

/-- The grammar exports nothing to the documents. -/
theorem exportedInjection?_of_isUnrelated {g : Grammar} (hunrelated : r.IsUnrelated g h)
    (id' : GrammarId) : r'.exportedInjection? base g h id' = none := by
  rw [exportedInjection?]
  split
  · rfl
  · rename_i hactive
    rcases hunrelated.inactive with hnone | hinactive
    · rw [hnone]
      rfl
    · obtain ⟨-, -, rfl⟩ := add_eq_ok_iff.1 hadd
      refine (hactive ?_).elim
      simp [exportsTo, hinactive]

/-- **The injections into the documents do not change either.** -/
theorem injectionsFor_add (hr : r.Records gs) {g : Grammar} (hg : r.grammar base = .ok g)
    (hunrelated : r.IsUnrelated g h) : r'.injectionsFor base = r.injectionsFor base := by
  have hsame : ∀ q ∈ r.grammars.toList.zipIdx,
      r'.exportedInjection? base g q.1 q.2 = r.exportedInjection? base g q.1 q.2 := by
    intro q hmem
    have hq : q.1 ∈ r.grammars.toList := List.mem_of_getElem? (List.mem_zipIdx_iff_getElem?.1 hmem)
    -- the scope name of a grammar of the registry is another one
    have hne : h.scopeName ≠ q.1.scopeName := by
      have hlast := hr.byScopeName h.scopeName
      rw [hunrelated.unregistered, ← hr.grammars] at hlast
      exact fun heq ↦ hlast q.1 hq heq.symm
    rw [exportedInjection?, exportedInjection?, idByScopeName?_add hadd hne]
    obtain ⟨-, -, rfl⟩ := add_eq_ok_iff.1 hadd
    rfl
  have hgrammars : r'.grammars.toList = r.grammars.toList ++ [h] := by
    obtain ⟨-, -, rfl⟩ := add_eq_ok_iff.1 hadd
    exact Array.toList_push
  have hexported : r'.grammars.toList.zipIdx.filterMap
      (fun q ↦ r'.exportedInjection? base g q.1 q.2) =
        r.grammars.toList.zipIdx.filterMap fun q ↦ r.exportedInjection? base g q.1 q.2 := by
    rw [hgrammars, List.zipIdx_append, List.filterMap_append, List.filterMap_congr hsame]
    simp [exportedInjection?_of_isUnrelated hadd hunrelated]
  have hg' : r'.grammar base = .ok g := extends_add hadd base g hg
  rw [injectionsFor, injectionsFor, hg, hg']
  exact congrArg (fun found ↦ Except.ok (g.injections.map (base, ·) ++ found)) hexported

end Add

end Registry

end ScopeGrammar
