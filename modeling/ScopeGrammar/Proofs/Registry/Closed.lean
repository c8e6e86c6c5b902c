import Mathlib.Data.List.Perm.Subperm
import ScopeGrammar.Proofs.Faultless
import ScopeGrammar.Proofs.Grammar.Closed
import ScopeGrammar.Proofs.Registry.References
import ScopeGrammar.Registry.Candidates
import ScopeGrammar.Registry.Injections

/-!
# Registries of compiled grammars

In a registry that grammars were compiled for and added to (`Loaded`), every identifier that a rule,
a name or an injection gives names something (`IsClosed`). So looking for candidates finds no fault:
each rule that is come to is one of the registry, and each is visited once, so that there is always
room for another one (`faultless_expand`).
-/

namespace ScopeGrammar

/-- All identifiers in the registry name something. -/
structure Registry.IsClosed (r : Registry) : Prop where
  grammars : ∀ (id : GrammarId) (g : Grammar), r.grammars[id]? = some g → g.IsClosed
  named : ∀ (name : String) (id : GrammarId), r.idByScopeName? name = some id →
    id < r.grammars.size

/-- The registries that come about by adding compiled grammars and injections. Sessions may have
left filled-in patterns behind. -/
inductive Registry.Loaded (E : Engine) : Registry → Prop
  | empty : Loaded E {}
  | add {r r' : Registry} {d : GrammarDefinition} {g : Grammar} {id : GrammarId}
      (hr : Loaded E r) (hg : (Grammar.compile d E).result = .ok g) (h : r.add g = .ok (id, r')) :
      Loaded E r'
  | injection {r : Registry} (hr : Loaded E r) (scopeName : String) :
      Loaded E (r.addInjectionScope scopeName)
  | filled {r : Registry} (hr : Loaded E r) (patterns : PatternCache) :
      Loaded E { r with patterns := patterns }

namespace Registry

variable {r : Registry}

/-- A registry of compiled grammars is closed, since each of its grammars is. -/
theorem Loaded.isClosed {E : Engine} (h : r.Loaded E) : r.IsClosed := by
  induction h with
  | empty =>
    refine ⟨fun id g hg ↦ by simp at hg, fun name id hid ↦ ?_⟩
    rw [idByScopeName?, Std.HashMap.getElem?_empty] at hid
    contradiction
  | add hr hg h ih =>
    rw [Registry.add] at h
    split at h
    · obtain ⟨rfl, rfl⟩ := Prod.mk.inj (Except.ok.inj h)
      refine ⟨fun id g' hg' ↦ ?_, fun name id hid ↦ ?_⟩
      · rw [Array.getElem?_push] at hg'
        split at hg'
        · rw [← Option.some.inj hg']
          exact Grammar.compile_isClosed hg
        · exact ih.grammars id g' hg'
      · rw [Array.size_push]
        rw [idByScopeName?, Std.HashMap.getElem?_insert] at hid
        split at hid
        · rw [← Option.some.inj hid]
          exact Nat.lt_succ_self _
        · exact Nat.lt_succ_of_lt (ih.named name id hid)
    · contradiction
  | injection hr scopeName ih =>
    rw [addInjectionScope]
    split
    · exact ih
    · exact ⟨ih.grammars, ih.named⟩
  | filled hr patterns ih => exact ⟨ih.grammars, ih.named⟩

end Registry

/-! ### Rules of a grammar -/

namespace Grammar

variable {g : Grammar}

/-- An identifier in range names a rule. -/
theorem faultless_rule {id : RuleId} (h : id < g.rules.size) :
    Faultless (g.rule id) fun rule ↦ g.rules[id]? = some rule := by
  rw [rule, Array.getElem?_eq_getElem h]
  exact faultless_ok rfl

/-- An identifier in range names a pattern. -/
theorem faultless_regex {id : RegexId} (h : id < g.regexes.size) :
    Faultless (g.regex id) fun _ ↦ True := by
  rw [regex, Array.getElem?_eq_getElem h]
  exact faultless_ok trivial

/-- A pattern in range can be described. -/
theorem faultless_describePattern {kind : String} {id : RegexId} (h : id < g.regexes.size) :
    Faultless (g.describePattern kind id) fun _ ↦ True :=
  (faultless_regex h).bind fun _ _ ↦ faultless_pure trivial

/-- A rule whose identifiers are in range can be described. -/
theorem faultless_describeBody {body : RuleBody} (h : body.IsClosed g.rules.size g.regexes.size) :
    Faultless (g.describeBody body) fun _ ↦ True := by
  cases body with
  | single r => exact faultless_describePattern h.1
  | region r =>
    rw [describeBody]
    cases r.kind with
    | beginEnd => exact faultless_describePattern h.1
    | beginWhile => exact faultless_describePattern h.1
  | includes target => exact faultless_pure trivial
  | group r => exact faultless_pure trivial

namespace IsClosed

/-- The rules of a closed grammar refer to nothing that is not there. -/
theorem body (hg : g.IsClosed) {id : RuleId} {rule : Rule} (hrule : g.rules[id]? = some rule) :
    rule.body.IsClosed g.rules.size g.regexes.size :=
  hg.bodies id rule hrule

/-- A rule of a closed grammar can be described. -/
theorem faultless_describe (hg : g.IsClosed) {id : RuleId} (h : id < g.rules.size) :
    Faultless (g.describe id) fun _ ↦ True :=
  (faultless_rule h).bind fun _ hrule ↦
    (faultless_describeBody (hg.body hrule)).bind fun _ _ ↦ faultless_pure trivial

/-- The rules that a rule holds are rules of the grammar. -/
theorem pattern_lt (hg : g.IsClosed) {id : RuleId} {rule : Rule} (hrule : g.rules[id]? = some rule)
    {held : RuleId} (h : held ∈ rule.patterns) : held < g.rules.size := by
  have hbody := hg.body hrule
  rw [Rule.patterns] at h
  split at h <;> rename_i heq
  · rw [heq] at hbody
    exact hbody.2.2.2.2.1 held h
  · rw [heq] at hbody
    exact hbody.1 held h
  · cases h
  · cases h

/-- The rules that a rule names are rules of the grammar. -/
theorem named_lt (hg : g.IsClosed) {id : RuleId} {rule : Rule} (hrule : g.rules[id]? = some rule)
    {name : String} {held : RuleId} (h : rule.repository.lookup name = some held) :
    held < g.rules.size := by
  have hbody := hg.body hrule
  obtain ⟨before, after, heq, -⟩ := List.lookup_eq_some_iff.1 h
  have hmem : (name, held) ∈ rule.repository := by simp [heq]
  rw [Rule.repository] at hmem
  split at hmem <;> rename_i heq
  · rw [heq] at hbody
    exact hbody.2.2.2.2.2 _ hmem
  · rw [heq] at hbody
    exact hbody.2 _ hmem
  · cases hmem
  · cases hmem

/-- **A name that means a rule means one of the grammar.** The rules that are asked for it are rules
of the grammar as well, since each of them has a smaller index than the one before. -/
theorem faultless_lookup (hg : g.IsClosed) {inside : RuleId} (h : inside < g.rules.size)
    (name : String) :
    Faultless (g.lookup inside name) fun found ↦ ∀ id, found = some id → id < g.rules.size := by
  induction inside using Nat.strongRecOn with
  | _ inside ih =>
    rw [lookup]
    refine (faultless_rule h).bind fun rule hrule ↦ ?_
    split
    · rename_i held hheld
      refine faultless_pure fun id hid ↦ ?_
      rw [← Option.some.inj hid]
      exact hg.named_lt hrule hheld
    · split
      · exact faultless_pure fun id hid ↦ by cases hid
      · rename_i parent hparent
        split
        · rename_i hlt
          exact ih parent hlt (Nat.lt_trans hlt h)
        · exact faultless_pure fun id hid ↦ by cases hid

end IsClosed

end Grammar

/-! ### Rules of a registry -/

namespace Registry

variable {r : Registry} {base id : GrammarId} {ref : RuleRef}

/-- The reference means a rule. -/
def HasRule (r : Registry) (ref : RuleRef) : Prop :=
  ∃ g, r.grammars[ref.grammar]? = some g ∧ ref.rule < g.rules.size

/-- The reference means a rule with a pattern of its own. -/
def IsCandidate (r : Registry) (ref : RuleRef) : Prop :=
  ∃ g rule, r.grammars[ref.grammar]? = some g ∧ g.rules[ref.rule]? = some rule ∧
    ((∃ single, rule.body = .single single) ∨ ∃ region, rule.body = .region region)

/-- The references of a registry are those to its rules. -/
theorem mem_refs_iff_hasRule : ref ∈ r.refs ↔ r.HasRule ref := by
  rw [mem_refs_iff]
  constructor
  · rintro ⟨rule, hrule⟩
    obtain ⟨g, hg, hrule⟩ := rule_eq_ok_iff.1 hrule
    exact ⟨g, hg, (Array.getElem?_eq_some_iff.1 hrule).1⟩
  · rintro ⟨g, hg, hlt⟩
    exact ⟨g.rules[ref.rule], rule_eq_ok_iff.2 ⟨g, hg, Array.getElem?_eq_getElem hlt⟩⟩

/-- A rule that is found is in the registry. -/
theorem hasRule_of_rule {rule : Rule} (h : r.rule ref = .ok rule) : r.HasRule ref :=
  mem_refs_iff_hasRule.1 (mem_refs_iff.2 ⟨rule, h⟩)

theorem faultless_grammar (h : id < r.grammars.size) :
    Faultless (r.grammar id) fun g ↦ r.grammars[id]? = some g := by
  rw [grammar, Array.getElem?_eq_getElem h]
  exact faultless_ok rfl

namespace HasRule

/-- A rule of a registry is one of a grammar of the registry. -/
theorem grammar_lt (h : r.HasRule ref) : ref.grammar < r.grammars.size := by
  obtain ⟨g, hg, -⟩ := h
  exact (Array.getElem?_eq_some_iff.1 hg).1

/-- A reference that means a rule finds its grammar, which has the rule. -/
theorem faultless_grammar (h : r.HasRule ref) :
    Faultless (r.grammar ref.grammar) fun g ↦
      r.grammars[ref.grammar]? = some g ∧ ref.rule < g.rules.size := by
  obtain ⟨g, hg, hlt⟩ := h
  exact ⟨g, by rw [grammar, hg], hg, hlt⟩

theorem faultless_rule (h : r.HasRule ref) :
    Faultless (r.rule ref) fun rule ↦
      ∃ g, r.grammars[ref.grammar]? = some g ∧ g.rules[ref.rule]? = some rule :=
  h.faultless_grammar.bind fun g hg ↦
    (g.faultless_rule hg.2).mono fun _ hrule ↦ ⟨g, hg.1, hrule⟩

end HasRule

namespace IsClosed

/-- Every grammar of a closed registry has a root. -/
theorem hasRule_root (h : r.IsClosed) (hid : id < r.grammars.size) : r.HasRule (.root id) :=
  have hg : r.grammars[id]? = some r.grammars[id] := Array.getElem?_eq_getElem hid
  ⟨_, hg, (h.grammars id _ hg).rooted⟩

/-- A rule that is found refers to rules and patterns of its grammar. -/
theorem exists_body (h : r.IsClosed) {rule : Rule} (hrule : r.rule ref = .ok rule) :
    ∃ g, r.grammars[ref.grammar]? = some g ∧ rule.body.IsClosed g.rules.size g.regexes.size := by
  obtain ⟨g, hg, hrule⟩ := rule_eq_ok_iff.1 hrule
  exact ⟨g, hg, (h.grammars _ g hg).body hrule⟩

/-- A rule of a closed registry can be described. -/
theorem faultless_describe (h : r.IsClosed) (href : r.HasRule ref) :
    Faultless (r.describe ref) fun _ ↦ True :=
  href.faultless_grammar.bind fun g hg ↦ (h.grammars _ g hg.1).faultless_describe hg.2

/-- The rules that a rule holds mean rules. -/
theorem hasRule_of_mem_patterns (h : r.IsClosed) {g : Grammar} {rule : Rule}
    (hg : r.grammars[ref.grammar]? = some g) (hrule : g.rules[ref.rule]? = some rule)
    {ref' : RuleRef} (hmem : ref' ∈ rule.patterns.map (⟨ref.grammar, ·⟩)) : r.HasRule ref' := by
  obtain ⟨held, hheld, rfl⟩ := List.mem_map.1 hmem
  exact ⟨g, hg, (h.grammars _ g hg).pattern_lt hrule hheld⟩

/-- **An include leads to a rule or nowhere.** -/
theorem faultless_resolve (h : r.IsClosed) (hbase : base < r.grammars.size) (href : r.HasRule ref)
    (target : IncludeTarget) :
    Faultless (r.resolve base ref target) fun found ↦
      ∀ ref', found = some ref' → r.HasRule ref' := by
  have hnamed : ∀ {id : GrammarId} {g : Grammar}, r.grammars[id]? = some g →
      ∀ {found : Option RuleId}, (∀ i, found = some i → i < g.rules.size) →
      ∀ ref', found.map (⟨id, ·⟩) = some ref' → r.HasRule ref' := by
    intro id g hg found hfound ref' href'
    obtain ⟨i, hi, rfl⟩ := Option.map_eq_some_iff.1 href'
    exact ⟨g, hg, hfound i hi⟩
  cases target with
  | self =>
    refine faultless_ok fun ref' href' ↦ ?_
    rw [← Option.some.inj href']
    exact h.hasRule_root href.grammar_lt
  | base =>
    refine faultless_ok fun ref' href' ↦ ?_
    rw [← Option.some.inj href']
    exact h.hasRule_root hbase
  | entry name =>
    refine href.faultless_grammar.bind fun g hg ↦ ?_
    refine ((h.grammars _ g hg.1).faultless_lookup hg.2 name).bind fun found hfound ↦ ?_
    exact faultless_pure (hnamed hg.1 hfound)
  | grammar scopeName entry =>
    unfold resolve
    dsimp only
    split
    · exact faultless_ok fun ref' href' ↦ by cases href'
    · rename_i id hid
      refine faultless_ok fun ref' href' ↦ ?_
      rw [← Option.some.inj href']
      exact h.hasRule_root (h.named _ id hid)
    · rename_i id name hid
      refine (Registry.faultless_grammar (h.named _ id hid)).bind fun g hg ↦ ?_
      have hclosed := h.grammars _ g hg
      refine (hclosed.faultless_lookup hclosed.rooted name).bind fun found hfound ↦ ?_
      exact faultless_pure (hnamed hg hfound)
  | unknown source => exact faultless_ok fun ref' href' ↦ by cases href'

/-- **A rule without a pattern of its own gives its place to rules.** -/
theorem faultless_visit (h : r.IsClosed) (hbase : base < r.grammars.size) (href : r.HasRule ref) :
    Faultless (r.visit base ref) fun visited ↦
      (visited.1 = none → r.IsCandidate ref) ∧
        ∀ ref' ∈ visited.1.getD [], r.HasRule ref' := by
  refine href.faultless_grammar.bind fun g hg ↦ (g.faultless_rule hg.2).bind fun rule hrule ↦ ?_
  have hnowhere : ((some [] : Option (List RuleRef)) = none → r.IsCandidate ref) ∧
      ∀ ref' ∈ ([] : List RuleRef), r.HasRule ref' :=
    ⟨fun hnone ↦ by contradiction, fun _ hmem ↦ by cases hmem⟩
  split
  · exact ((h.grammars _ g hg.1).faultless_describe hg.2).bind fun _ _ ↦ faultless_pure hnowhere
  · split
    · rename_i single hbody
      refine faultless_pure ⟨fun _ ↦ ⟨g, rule, hg.1, hrule, .inl ⟨single, hbody⟩⟩, ?_⟩
      exact fun _ hmem ↦ by cases hmem
    · rename_i region hbody
      refine faultless_pure ⟨fun _ ↦ ⟨g, rule, hg.1, hrule, .inr ⟨region, hbody⟩⟩, ?_⟩
      exact fun _ hmem ↦ by cases hmem
    · rename_i group hbody
      refine faultless_pure ⟨fun hnone ↦ by contradiction, fun ref' hmem ↦ ?_⟩
      refine h.hasRule_of_mem_patterns hg.1 hrule ?_
      rw [Rule.patterns, hbody]
      exact hmem
    · rename_i target hbody
      refine (h.faultless_resolve hbase href target).bind fun found hfound ↦ ?_
      split
      · rename_i ref'
        refine faultless_pure ⟨fun hnone ↦ by contradiction, fun ref'' hmem ↦ ?_⟩
        rw [List.mem_singleton.1 hmem]
        exact hfound ref' rfl
      · exact faultless_pure hnowhere

end IsClosed

/-! ### Candidates -/

/-- What has been visited means rules, and what has been found are candidates. -/
structure Expansion.IsSound (r : Registry) (e : Expansion) : Prop where
  visited : ∀ ref ∈ e.visited, r.HasRule ref
  found : ∀ ref ∈ e.found, r.IsCandidate ref

/-- An expansion begins with nothing visited. -/
theorem Expansion.isSound_empty (r : Registry) : Expansion.IsSound r {} where
  visited := fun ref hmem ↦ (Std.HashSet.not_mem_empty hmem).elim
  found := fun ref hmem ↦ by cases hmem

/-- A rule that was not visited leaves room for itself. -/
theorem size_lt_ruleCount {visited : Std.HashSet RuleRef} (h : ∀ ref ∈ visited, r.HasRule ref)
    (href : r.HasRule ref) (hnew : ref ∉ visited) : visited.size < r.ruleCount := by
  have hdistinct : (ref :: visited.toList).Nodup := by
    refine List.nodup_cons.2 ⟨fun hmem ↦ hnew (Std.HashSet.mem_toList.1 hmem), ?_⟩
    exact Std.HashSet.distinct_toList.imp fun hne heq ↦ by simp [heq] at hne
  have hsub : ref :: visited.toList ⊆ r.refs := by
    intro ref' hmem
    rcases List.mem_cons.1 hmem with rfl | hmem
    · exact mem_refs_iff_hasRule.2 href
    · exact mem_refs_iff_hasRule.2 (h ref' (Std.HashSet.mem_toList.1 hmem))
  -- there are no more references to rules than there are rules
  have hle := (List.subperm_of_subset hdistinct hsub).length_le
  rwa [List.length_cons, Std.HashSet.length_toList, length_refs] at hle

/-- What comes next was not visited before. -/
theorem not_mem_visited {e : Expansion} {pending rest : List RuleRef}
    (h : pending.dropWhile (· ∈ e.visited) = ref :: rest) : ref ∉ e.visited := by
  have hhead := List.head?_dropWhile_not (· ∈ e.visited) pending
  rw [h] at hhead
  simpa using hhead

/-- Leaving out what was visited adds nothing to what is pending. -/
theorem mem_pending {e : Expansion} {pending rest : List RuleRef}
    (h : pending.dropWhile (· ∈ e.visited) = rest) {ref' : RuleRef} (hmem : ref' ∈ rest) :
    ref' ∈ pending :=
  (List.dropWhile_sublist _).subset (h ▸ hmem)

namespace IsClosed

/-- **An expansion finds no fault as long as there is room for all rules.** A rule is visited only
if it was not before, and then takes room that is there for it alone. -/
theorem faultless_expand (h : r.IsClosed) (hbase : base < r.grammars.size) {room : Nat}
    {e : Expansion} {pending : List RuleRef} (he : e.IsSound r)
    (hroom : r.ruleCount ≤ room + e.visited.size) (hpending : ∀ ref ∈ pending, r.HasRule ref) :
    Faultless (r.expand base room e pending) (Expansion.IsSound r) := by
  fun_induction expand r base room e pending with
  | case1 => exact faultless_ok he
  | case2 e pending ref rest heq =>
    -- without room all rules would have been visited already
    have href := hpending ref (mem_pending heq List.mem_cons_self)
    have hlt := size_lt_ruleCount he.visited href (not_mem_visited heq)
    omega
  | case3 e pending ref rest room heq ih =>
    have href := hpending ref (mem_pending heq List.mem_cons_self)
    refine (h.faultless_visit hbase href).bind fun (places, event) hvisited ↦ ?_
    refine ih places event ⟨fun ref' hmem ↦ ?_, fun ref' hmem ↦ ?_⟩ ?_ fun ref' hmem ↦ ?_
    · rcases Std.HashSet.mem_insert.1 hmem with heq' | hmem
      · rw [← eq_of_beq heq']
        exact href
      · exact he.visited ref' hmem
    · dsimp only at hmem
      split at hmem
      · rename_i hnone
        rcases List.mem_cons.1 hmem with rfl | hmem
        · exact hvisited.1 (Option.isNone_iff_eq_none.1 hnone)
        · exact he.found ref' hmem
      · exact he.found ref' hmem
    · rw [Std.HashSet.size_insert, if_neg (not_mem_visited heq)]
      omega
    · rcases List.mem_append.1 hmem with hmem | hmem
      · exact hvisited.2 ref' hmem
      · exact hpending ref' (mem_pending heq (List.mem_cons_of_mem _ hmem))

/-- Rules of a closed registry lead to candidates that can be searched. -/
theorem faultless_candidatesFrom (h : r.IsClosed) (hbase : base < r.grammars.size)
    {refs : List RuleRef} (hrefs : ∀ ref ∈ refs, r.HasRule ref) :
    Faultless (r.candidatesFrom base refs) fun found ↦ ∀ ref ∈ found.1, r.IsCandidate ref := by
  have hroom : r.ruleCount ≤ r.ruleCount + (∅ : Std.HashSet RuleRef).size := Nat.le_add_right _ _
  refine (h.faultless_expand hbase (Expansion.isSound_empty r) hroom hrefs).bind fun e he ↦ ?_
  exact faultless_pure fun ref hmem ↦ he.found ref (List.mem_reverse.1 hmem)

/-- **Looking for the candidates of a rule finds no fault.** -/
theorem faultless_childCandidates (h : r.IsClosed) (hbase : base < r.grammars.size)
    (href : r.HasRule ref) :
    Faultless (r.childCandidates base ref) fun found ↦ ∀ ref ∈ found.1, r.IsCandidate ref := by
  refine href.faultless_rule.bind fun rule ⟨g, hg, hrule⟩ ↦ ?_
  exact h.faultless_candidatesFrom hbase fun ref' hmem ↦ h.hasRule_of_mem_patterns hg hrule hmem

/-- A rule of a closed registry, when it is injected, leads to candidates that can be searched. -/
theorem faultless_entryCandidates (h : r.IsClosed) (hbase : base < r.grammars.size)
    (href : r.HasRule ref) :
    Faultless (r.entryCandidates base ref) fun found ↦ ∀ ref ∈ found.1, r.IsCandidate ref :=
  h.faultless_candidatesFrom hbase fun ref' hmem ↦ by rwa [List.mem_singleton.1 hmem]

/-! ### Injections -/

/-- The rules of the injections into the documents of a grammar are rules. -/
theorem hasRule_of_mem_injectionsFor (h : r.IsClosed) {injections : List (GrammarId × Injection)}
    (hinjections : r.injectionsFor base = .ok injections) {i : GrammarId × Injection}
    (hmem : i ∈ injections) : r.HasRule ⟨i.1, i.2.rule⟩ := by
  rw [injectionsFor] at hinjections
  obtain ⟨g, hg, hinjections⟩ := exists_of_bind_eq_ok hinjections
  rw [← Except.ok.inj hinjections] at hmem
  rcases List.mem_append.1 hmem with hmem | hmem
  · obtain ⟨own, hown, rfl⟩ := List.mem_map.1 hmem
    have hg := grammar_eq_ok_iff.1 hg
    exact ⟨g, hg, (h.grammars base g hg).injections own hown⟩
  · obtain ⟨⟨g', id⟩, hg', hexported⟩ := List.mem_filterMap.1 hmem
    change r.exportedInjection? base g g' id = some i at hexported
    rw [exportedInjection?] at hexported
    split at hexported
    · contradiction
    · obtain ⟨exported, heq, rfl⟩ := Option.map_eq_some_iff.1 hexported
      have hg' : r.grammars[id]? = some g' := by
        simpa using List.mem_zipIdx_iff_getElem?.1 hg'
      exact ⟨g', hg', (h.grammars id g' hg').exported exported heq⟩

end IsClosed

end Registry

end ScopeGrammar
