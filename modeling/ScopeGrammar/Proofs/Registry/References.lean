import ScopeGrammar.Proofs.Faultless
import ScopeGrammar.Registry.Candidates

/-!
# The rules of a registry

A registry has finitely many rules: `refs` lists the references that mean one (`mem_refs_iff`), and
there are as many as `ruleCount` says (`length_refs`). This bounds the number of rules that can be
visited, or be entered at a place, one after the other.

An expansion visits the rules that it has not visited yet (`expand_of_new`). So what a rule leads to
is worked out visit by visit in a small registry: at once where the rule is a candidate itself,
after one more visit where it is an include of one.
-/

namespace ScopeGrammar

theorem Grammar.rule_eq_ok_iff {g : Grammar} {id : RuleId} {rule : Rule} :
    g.rule id = .ok rule ↔ g.rules[id]? = some rule := by
  rw [Grammar.rule]
  split
  · rename_i rule' hrule'
    rw [hrule', Except.ok.injEq, Option.some.injEq]
  · rename_i hnone
    simp [hnone]

theorem Grammar.regex_eq_ok_iff {g : Grammar} {id : RegexId} {regex : Regex} :
    g.regex id = .ok regex ↔ g.regexes[id]? = some regex := by
  rw [Grammar.regex]
  split
  · rename_i regex' hregex'
    rw [hregex', Except.ok.injEq, Option.some.injEq]
  · rename_i hnone
    simp [hnone]

namespace Registry

variable {r : Registry} {ref : RuleRef}

theorem grammar_eq_ok_iff {id : GrammarId} {g : Grammar} :
    r.grammar id = .ok g ↔ r.grammars[id]? = some g := by
  rw [grammar]
  split
  · rename_i g' hg'
    rw [hg', Except.ok.injEq, Option.some.injEq]
  · rename_i hnone
    simp [hnone]

theorem rule_eq_ok_iff {rule : Rule} :
    r.rule ref = .ok rule ↔
      ∃ g, r.grammars[ref.grammar]? = some g ∧ g.rules[ref.rule]? = some rule := by
  constructor
  · intro h
    obtain ⟨g, hg, hrule⟩ := exists_of_bind_eq_ok h
    exact ⟨g, grammar_eq_ok_iff.1 hg, Grammar.rule_eq_ok_iff.1 hrule⟩
  · rintro ⟨g, hg, hrule⟩
    rw [Registry.rule, grammar_eq_ok_iff.2 hg]
    exact Grammar.rule_eq_ok_iff.2 hrule

/-- The references to the rules of a grammar. -/
def refsOf (g : Grammar) (id : GrammarId) : List RuleRef :=
  (List.range g.rules.size).map (⟨id, ·⟩)

@[simp] theorem length_refsOf (g : Grammar) (id : GrammarId) :
    (refsOf g id).length = g.rules.size := by
  simp [refsOf]

/-- The references to all rules. -/
def refs (r : Registry) : List RuleRef :=
  r.grammars.toList.zipIdx.flatMap fun (g, id) ↦ refsOf g id

/-- **The references that mean a rule are listed.** -/
theorem mem_refs_iff : ref ∈ r.refs ↔ ∃ rule, r.rule ref = .ok rule := by
  rw [refs, List.mem_flatMap]
  constructor
  · rintro ⟨⟨g, id⟩, hmem, href⟩
    obtain ⟨i, hi, rfl⟩ := List.mem_map.1 href
    have hg := (List.mem_zipIdx_iff_getElem?.1 hmem)
    have hi := List.mem_range.1 hi
    refine ⟨g.rules[i], rule_eq_ok_iff.2 ⟨g, by simpa using hg, ?_⟩⟩
    exact Array.getElem?_eq_getElem hi
  · rintro ⟨rule, hrule⟩
    obtain ⟨g, hg, hrule⟩ := rule_eq_ok_iff.1 hrule
    refine ⟨(g, ref.grammar), List.mem_zipIdx_iff_getElem?.2 (by simpa using hg), ?_⟩
    obtain ⟨hlt, -⟩ := Array.getElem?_eq_some_iff.1 hrule
    exact List.mem_map.2 ⟨ref.rule, List.mem_range.2 hlt, rfl⟩

theorem length_flatMap_refsOf (grammars : List Grammar) (first : GrammarId) (n : Nat) :
    n + ((grammars.zipIdx first).flatMap fun (g, id) ↦ refsOf g id).length =
      grammars.foldl (fun n g ↦ n + g.rules.size) n := by
  induction grammars generalizing first n with
  | nil => rfl
  | cons g grammars ih =>
    rw [List.zipIdx_cons, List.flatMap_cons, List.length_append, List.foldl_cons, ← ih (first + 1),
      length_refsOf, Nat.add_assoc]

/-- **There are as many as there are rules.** -/
theorem length_refs (r : Registry) : r.refs.length = r.ruleCount := by
  have h := length_flatMap_refsOf r.grammars.toList 0 0
  rw [Nat.zero_add] at h
  rw [refs, ruleCount, h, Array.foldl_toList]

/-! ### Expansions visit by visit -/

variable {base : GrammarId}

/-- A rule that was not visited is visited next, if there is room. -/
theorem expand_of_new {room : Nat} {e : Expansion} {pending : List RuleRef}
    {places : Option (List RuleRef)} (hnew : ref ∉ e.visited)
    (hvisit : r.visit base ref = .ok (places, none)) :
    r.expand base (room + 1) e (ref :: pending) =
      r.expand base room
        { visited := e.visited.insert ref
          found := if places.isNone then ref :: e.found else e.found
          log := e.log }
        (places.getD [] ++ pending) := by
  have hfirst : (ref :: pending).dropWhile (· ∈ e.visited) = ref :: pending := by
    rw [List.dropWhile_cons, if_neg (by simpa using hnew)]
  rw [expand.eq_3 _ _ _ _ _ _ _ hfirst, hvisit]
  rfl

/-- A rule with a pattern of its own is its only candidate. -/
theorem candidatesFrom_of_matching (hroom : 1 ≤ r.ruleCount)
    (hvisit : r.visit base ref = .ok (none, none)) :
    r.candidatesFrom base [ref] = .ok ([ref], #[]) := by
  obtain ⟨room, hroom⟩ := Nat.exists_eq_add_of_le' hroom
  rw [candidatesFrom, hroom, expand_of_new Std.HashSet.not_mem_empty hvisit]
  cases room <;> rfl

/-- An include of a rule with a pattern leads to that rule. -/
theorem candidatesFrom_of_include {target : RuleRef} (hroom : 2 ≤ r.ruleCount) (hne : target ≠ ref)
    (hvisit : r.visit base ref = .ok (some [target], none))
    (htarget : r.visit base target = .ok (none, none)) :
    r.candidatesFrom base [ref] = .ok ([target], #[]) := by
  obtain ⟨room, hroom⟩ := Nat.exists_eq_add_of_le' hroom
  have hnew : target ∉ (∅ : Std.HashSet RuleRef).insert ref := by simpa using hne.symm
  rw [candidatesFrom, hroom, expand_of_new Std.HashSet.not_mem_empty hvisit]
  show (r.expand base (room + 1) ⟨(∅ : Std.HashSet RuleRef).insert ref, [], #[]⟩
    [target]).bind _ = _
  rw [expand_of_new hnew htarget]
  cases room <;> rfl

/-- An include of an entry leads to the rule that the name is looked up to. -/
theorem visit_of_entry {g : Grammar} {rule : Rule} {name : String} {found : RuleId}
    (hg : r.grammar ref.grammar = .ok g) (hrule : g.rule ref.rule = .ok rule)
    (henabled : rule.disabled = false) (hbody : rule.body = .includes (.entry name))
    (hlookup : g.lookup ref.rule name = .ok (some found)) :
    r.visit base ref = .ok (some [⟨ref.grammar, found⟩], none) := by
  have hresolve : r.resolve base ref (.entry name) = .ok (some ⟨ref.grammar, found⟩) := by
    rw [resolve, hg]
    show (g.lookup ref.rule name >>= _) = _
    rw [hlookup]
    rfl
  rw [visit, hg]
  show (g.rule ref.rule >>= _) = _
  rw [hrule]
  show (if rule.disabled = true then _ else _) = _
  rw [henabled, if_neg Bool.false_ne_true, hbody]
  show (r.resolve base ref (.entry name) >>= _) = _
  rw [hresolve]
  rfl

end Registry

end ScopeGrammar
