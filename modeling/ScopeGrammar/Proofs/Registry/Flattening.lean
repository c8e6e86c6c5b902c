import ScopeGrammar.Proofs.Engine
import ScopeGrammar.Proofs.Registry.Traversal

/-!
# Flattening groups and includes

The candidates of the rules that a rule holds are found without a fault, each once, and are the
rules with a pattern of their own that can be come to through groups and includes
(`childCandidates_flatten`). They come in the order in which the rules that are held find them one
by one, where what an earlier one has found is dropped.

A group can be searched for what its rules lead to, or be looked for itself, as when it is included.
Both find the same rules, in the same order as long as the group does not lead to itself
(`entryCandidates_agree`). If it does, the order may differ (`candidates_disagree`), since only the
second way does not open the group again.
-/

namespace ScopeGrammar

theorem eraseDups_of_nodup {α : Type} [BEq α] [LawfulBEq α] {l : List α} (h : l.Nodup) :
    l.eraseDups = l := by
  induction l with
  | nil => rfl
  | cons a l ih =>
    obtain ⟨hnew, h⟩ := List.nodup_cons.1 h
    have hothers : (l.filter fun b ↦ !b == a) = l :=
      List.filter_eq_self.2 fun b hb ↦ by
        have hne : b ≠ a := fun heq ↦ hnew (heq ▸ hb)
        simpa using hne
    rw [List.eraseDups_cons, hothers, ih h]

namespace Registry

variable {r : Registry} {base : GrammarId} {ref : RuleRef}

theorem isMatching_of_entryCandidates {entry : List RuleRef × Array Event}
    (h : r.entryCandidates base ref = .ok entry) : ∀ c ∈ entry.1, r.IsMatching c := by
  classical
  obtain ⟨order, -, hfound⟩ := exists_traverses_of_candidatesFrom h
  intro c hc
  rw [hfound, List.mem_filter] at hc
  exact of_decide_eq_true hc.2

open Classical in
/-- **What was come to before is dropped.** The rules of `refs` are come to after a set of rules
that leads nowhere else: so each of them adds what it would find by itself, less what is in that set
or was found by the ones before it. The induction is on these rules; the set grows by what the first
of them comes to. -/
theorem filter_isMatching_of_traverses {seen : Set RuleRef} (hseen : r.IsClosedUnder base seen)
    {refs order : List RuleRef} {entries : List (List RuleRef × Array Event)}
    (h : r.Traverses base seen refs order)
    (hentries : refs.mapM (r.entryCandidates base) = .ok entries) :
    (∀ c ∈ entries.flatMap Prod.fst, r.IsMatching c) ∧
      order.filter (r.IsMatching ·) =
        ((entries.flatMap Prod.fst).filter (· ∉ seen)).eraseDups := by
  induction refs generalizing seen order entries with
  | nil =>
    rw [List.mapM_nil] at hentries
    obtain rfl := Except.ok.inj hentries
    cases h
    exact ⟨by simp, rfl⟩
  | cons ref refs ih =>
    obtain ⟨entry, rest, hentry, hrest, rfl⟩ := exists_of_mapM_cons_eq_ok hentries
    rw [← List.singleton_append] at h
    obtain ⟨before, after, rfl, hbefore, hafter⟩ := h.exists_of_append
    obtain ⟨hmatching, ih⟩ := ih (hbefore.isClosedUnder hseen) hafter hrest
    -- what the first rule finds after those of the set, and what it finds by itself
    obtain ⟨own, hown, hfound⟩ := exists_traverses_of_candidatesFrom hentry
    have hfirst : before.filter (r.IsMatching ·) = entry.1.filter (· ∉ seen) := by
      have hskipped := hown.filter hseen
      rw [Set.empty_union] at hskipped
      rw [hfound, List.filter_comm, hbefore.unique hskipped]
    have hnodup : (entry.1.filter (· ∉ seen)).Nodup := hfirst ▸ hbefore.nodup.filter _
    refine ⟨fun c hc ↦ ?_, ?_⟩
    · rcases List.mem_append.1 hc with hc | hc
      · exact isMatching_of_entryCandidates hentry c hc
      · exact hmatching c hc
    · rw [List.filter_append, hfirst, ih, List.flatMap_cons, List.filter_append,
        List.eraseDups_append, eraseDups_of_nodup hnodup, List.removeAll, List.filter_filter]
      -- of candidates, what was come to first is what was found first
      congr 2
      refine List.filter_congr fun c hc ↦ ?_
      have hmem : c ∈ before ↔ c ∈ entry.1.filter (· ∉ seen) := by
        rw [← hfirst, List.mem_filter, decide_eq_true (hmatching c hc)]
        simp
      by_cases hc : c ∈ seen <;> simp_all

end Registry

/-! ### Grammars that include themselves -/

/-- A grammar that includes itself in a group before the last of its rules. -/
def GrammarDefinition.circular : GrammarDefinition where
  scopeName := "circular"
  patterns :=
    [{ patterns := [{ target := some "$self" }, { matchPattern := some "a" }] },
      { matchPattern := some "b" }]

/-- That grammar, compiled. -/
def Grammar.circular : Grammar where
  name := ""
  scopeName := "circular"
  scope := .ofString "circular"
  rules :=
    #[⟨0, none, false, .group ⟨[1, 4], []⟩⟩,
      ⟨1, some 0, false, .group ⟨[2, 3], []⟩⟩,
      ⟨2, some 1, false, .includes .self⟩,
      ⟨3, some 1, false, .single ⟨none, 0, ⟨[]⟩⟩⟩,
      ⟨4, some 0, false, .single ⟨none, 1, ⟨[]⟩⟩⟩]
  regexes := #[.ofPattern "a" "patterns[0].patterns[1].match", .ofPattern "b" "patterns[1].match"]
  injections := []
  exported := none
  injectTo := []

theorem Grammar.compile_circular (matcher : List Char → Matcher) :
    (compile .circular (.ofMatcher matcher)).result = .ok .circular :=
  rfl

/-- A grammar that includes itself after all of its rules. -/
def GrammarDefinition.repeating : GrammarDefinition where
  scopeName := "repeating"
  patterns := [{ matchPattern := some "a" }, { target := some "$self" }]

/-- That grammar, compiled. -/
def Grammar.repeating : Grammar where
  name := ""
  scopeName := "repeating"
  scope := .ofString "repeating"
  rules :=
    #[⟨0, none, false, .group ⟨[1, 2], []⟩⟩,
      ⟨1, some 0, false, .single ⟨none, 0, ⟨[]⟩⟩⟩,
      ⟨2, some 0, false, .includes .self⟩]
  regexes := #[.ofPattern "a" "patterns[0].match"]
  injections := []
  exported := none
  injectTo := []

theorem Grammar.compile_repeating (matcher : List Char → Matcher) :
    (compile .repeating (.ofMatcher matcher)).result = .ok .repeating :=
  rfl

namespace Registry

/-- The registry of both grammars. -/
def circular : Registry where
  grammars := #[.circular, .repeating]
  byScopeName := Std.HashMap.insert (Std.HashMap.insert {} "circular" 0) "repeating" 1

theorem loaded_circular : circular.Loaded .literal := by
  have hfirst : add {} .circular =
      .ok (0, { grammars := #[.circular], byScopeName := Std.HashMap.insert {} "circular" 0 }) :=
    rfl
  have hsecond : add { grammars := #[.circular]
                       byScopeName := Std.HashMap.insert {} "circular" 0 } .repeating =
      .ok (1, circular) := rfl
  exact .add (.add .empty (Grammar.compile_circular _) hfirst) (Grammar.compile_repeating _) hsecond

/-- The rules that the rules of the first grammar lead to: itself, before the rule after the
include. -/
theorem traverses_circular :
    circular.Traverses 0 ∅ [⟨0, 1⟩, ⟨0, 4⟩] [⟨0, 1⟩, ⟨0, 2⟩, ⟨0, 0⟩, ⟨0, 4⟩, ⟨0, 3⟩] := by
  refine .visit (by simp) (rfl : visit _ _ _ = .ok (some [⟨0, 2⟩, ⟨0, 3⟩], none)) ?_
  refine .visit (by simp) (rfl : visit _ _ _ = .ok (some [⟨0, 0⟩], none)) ?_
  refine .visit (by simp) (rfl : visit _ _ _ = .ok (some [⟨0, 1⟩, ⟨0, 4⟩], none)) ?_
  refine .skip (by simp) (.visit (by simp) (rfl : visit _ _ _ = .ok (none, none)) ?_)
  refine .visit (by simp) (rfl : visit _ _ _ = .ok (none, none)) ?_
  exact .skip (by simp) .nil

/-- The rules that the first grammar as a whole leads to. -/
theorem traverses_root_circular :
    circular.Traverses 0 ∅ [⟨0, 0⟩] [⟨0, 0⟩, ⟨0, 1⟩, ⟨0, 2⟩, ⟨0, 3⟩, ⟨0, 4⟩] := by
  refine .visit (by simp) (rfl : visit _ _ _ = .ok (some [⟨0, 1⟩, ⟨0, 4⟩], none)) ?_
  refine .visit (by simp) (rfl : visit _ _ _ = .ok (some [⟨0, 2⟩, ⟨0, 3⟩], none)) ?_
  refine .visit (by simp) (rfl : visit _ _ _ = .ok (some [⟨0, 0⟩], none)) ?_
  refine .skip (by simp) (.visit (by simp) (rfl : visit _ _ _ = .ok (none, none)) ?_)
  exact .visit (by simp) (rfl : visit _ _ _ = .ok (none, none)) .nil

theorem isMatching_circular {id : Nat} (h : id < 5) :
    circular.IsMatching ⟨0, id⟩ ↔ id = 3 ∨ id = 4 := by
  obtain rfl | rfl | rfl | rfl | rfl : id = 0 ∨ id = 1 ∨ id = 2 ∨ id = 3 ∨ id = 4 := by omega
  all_goals
    rw [← places_eq_none_iff (rfl : visit _ 0 _ = .ok (_, _))]
    simp

/-! ### The candidates of a rule -/

variable {r : Registry} {base : GrammarId}

/-- **The candidates of a rule are what groups and includes are flattened to.** They are found
without a fault. There are no duplicates among them, they are the rules with a pattern of their own
that the rules held by `owner` can be opened to, and they come in the order in which these rules
find them one by one, each at its first place. -/
theorem childCandidates_flatten {E : Engine} (hr : r.Loaded E) (hbase : base < r.grammars.size)
    {owner : RuleRef} {rule : Rule} (hrule : r.rule owner = .ok rule) :
    (∃ entry, r.entryCandidates base owner = .ok entry) ∧
      ∃ found log entries, r.childCandidates base owner = .ok (found, log) ∧
        (rule.patterns.map (⟨owner.grammar, ·⟩)).mapM (r.entryCandidates base) = .ok entries ∧
        found.Nodup ∧
        (∀ c, c ∈ found ↔ r.IsMatching c ∧
          ∃ id ∈ rule.patterns, Relation.ReflTransGen (r.Opens base) ⟨owner.grammar, id⟩ c) ∧
        found = (entries.flatMap Prod.fst).eraseDups := by
  classical
  have hclosed := hr.isClosed
  have howner := hasRule_of_rule hrule
  obtain ⟨g, hg, hheld⟩ := rule_eq_ok_iff.1 hrule
  obtain ⟨entry, hentry, -⟩ := hclosed.faultless_entryCandidates hbase howner
  obtain ⟨⟨found, log⟩, hfound, -⟩ := hclosed.faultless_childCandidates hbase howner
  obtain ⟨entries, hentries, -⟩ := faultless_mapM (R := fun _ ↦ True) fun ref hmem ↦
    (hclosed.faultless_entryCandidates hbase
      (hclosed.hasRule_of_mem_patterns hg hheld hmem)).mono fun _ _ ↦ trivial
  have hrefs : r.candidatesFrom base (rule.patterns.map (⟨owner.grammar, ·⟩)) =
      .ok (found, log) := by
    rwa [childCandidates, hrule] at hfound
  obtain ⟨order, horder, rfl⟩ := exists_traverses_of_candidatesFrom hrefs
  refine ⟨⟨entry, hentry⟩, _, log, entries, hfound, hentries, horder.nodup.filter _, fun c ↦ ?_, ?_⟩
  · rw [List.mem_filter, decide_eq_true_eq, and_comm, horder.mem_iff, hclosed.reaches_eq hbase]
    simp only [List.mem_map, exists_exists_and_eq_and]
  · have hempty : r.IsClosedUnder base ∅ := fun _ hmem ↦ absurd hmem (Set.notMem_empty _)
    rw [(filter_isMatching_of_traverses hempty horder hentries).2]
    simp

/-- The root of the first grammar is flattened in spite of the cycle. -/
theorem childCandidates_flatten_circular :
    circular.Loaded .literal ∧ 0 < circular.grammars.size ∧
      circular.rule (.root 0) = .ok ⟨0, none, false, .group ⟨[1, 4], []⟩⟩ ∧
      ∃ found log entries, circular.childCandidates 0 (.root 0) = .ok (found, log) ∧
        [⟨0, 1⟩, ⟨0, 4⟩].mapM (circular.entryCandidates 0) = .ok entries ∧ found.Nodup ∧
        (∀ c, c ∈ found ↔ circular.IsMatching c ∧
          ∃ id ∈ [1, 4], Relation.ReflTransGen (circular.Opens 0) ⟨0, id⟩ c) ∧
        found = (entries.flatMap Prod.fst).eraseDups :=
  ⟨loaded_circular, by decide, rfl,
    (childCandidates_flatten loaded_circular (by decide)
      (rfl : circular.rule (.root 0) = .ok _)).2⟩

/-! ### A group and what it holds -/

/-- The rules of a group lead to the group again, and only then to some candidate. -/
def ReturnsEarly (r : Registry) (base : GrammarId) (owner : RuleRef) : Prop :=
  ∃ rule before after, r.rule owner = .ok rule ∧
    r.Traverses base ∅ (rule.patterns.map (⟨owner.grammar, ·⟩)) (before ++ owner :: after) ∧
    ∃ c ∈ after, r.IsMatching c

/-- What is come to through a group that is enabled: the group, then what its rules lead to. -/
theorem exists_traverses_of_group {owner : RuleRef} {rule : Rule} {group : GroupRule}
    (hrule : r.rule owner = .ok rule) (henabled : rule.disabled = false)
    (hgroup : rule.body = .group group) {order : List RuleRef}
    (h : r.Traverses base ∅ [owner] order) :
    ∃ inner, order = owner :: inner ∧
      r.Traverses base {owner} (rule.patterns.map (⟨owner.grammar, ·⟩)) inner := by
  cases h with
  | skip hseen _ => exact absurd hseen (Set.notMem_empty _)
  | @visit _ _ _ inner places event hnew hvisit h =>
    obtain ⟨rule', hrule', hcases⟩ := cases_of_visit hvisit
    obtain rfl := Except.ok.inj (hrule.symm.trans hrule')
    have hplaces : places = some (rule.patterns.map (⟨owner.grammar, ·⟩)) := by
      obtain ⟨hdisabled, -⟩ | ⟨-, ⟨⟨_, hbody⟩ | ⟨_, hbody⟩, -⟩ | ⟨group', hbody, rfl⟩ |
        ⟨_, _, hbody, -⟩⟩ := hcases
      · exact absurd (henabled.symm.trans hdisabled) Bool.false_ne_true
      · cases hgroup.symm.trans hbody
      · cases hgroup.symm.trans hbody
      · rw [Rule.patterns, hbody]
      · cases hgroup.symm.trans hbody
    rw [hplaces, insert_empty_eq, Option.getD_some, List.append_nil] at h
    exact ⟨inner, rfl, h⟩

/-- A group has the candidates of its rules. -/
theorem IsClosed.reaches_iff_of_group (hr : r.IsClosed) (hbase : base < r.grammars.size)
    {owner c : RuleRef} {rule : Rule} {group : GroupRule} (hrule : r.rule owner = .ok rule)
    (henabled : rule.disabled = false) (hgroup : rule.body = .group group) (hc : c ≠ owner) :
    r.Reaches base owner c ↔
      ∃ ref ∈ rule.patterns.map (⟨owner.grammar, ·⟩), r.Reaches base ref c := by
  have hleads : ∀ ref, r.LeadsTo base owner ref ↔
      ref ∈ rule.patterns.map (⟨owner.grammar, ·⟩) := by
    intro ref
    rw [hr.leadsTo_iff_opens hbase, Opens, hrule, List.mem_map, Rule.patterns, hgroup]
    simp [henabled, hgroup, @eq_comm _ ref]
  constructor
  · intro hreaches
    obtain rfl | ⟨ref, hfirst, hrest⟩ := hreaches.cases_head
    · exact absurd rfl hc
    · exact ⟨ref, (hleads ref).1 hfirst, hrest⟩
  · rintro ⟨ref, hmem, hreaches⟩
    exact .head ((hleads ref).2 hmem) hreaches

theorem not_isMatching_of_group {owner : RuleRef} {rule : Rule} {group : GroupRule}
    (hrule : r.rule owner = .ok rule) (hgroup : rule.body = .group group) :
    ¬ r.IsMatching owner := by
  rw [IsMatching, hrule]
  simp [hgroup]

open Classical in
/-- Through a group and through its rules, the same candidates are come to. -/
theorem IsClosed.filter_isMatching_perm (hr : r.IsClosed) (hbase : base < r.grammars.size)
    {owner : RuleRef} {rule : Rule} {group : GroupRule} (hrule : r.rule owner = .ok rule)
    (henabled : rule.disabled = false) (hgroup : rule.body = .group group)
    {order order' : List RuleRef}
    (h : r.Traverses base ∅ (rule.patterns.map (⟨owner.grammar, ·⟩)) order)
    (h' : r.Traverses base ∅ [owner] order') :
    (order'.filter (r.IsMatching ·)).Perm (order.filter (r.IsMatching ·)) := by
  refine (List.perm_ext_iff_of_nodup (h'.nodup.filter _) (h.nodup.filter _)).2 fun c ↦ ?_
  rw [List.mem_filter, List.mem_filter, h'.mem_iff, h.mem_iff]
  refine and_congr_left fun hc ↦ ?_
  have hne : c ≠ owner := fun heq ↦
    not_isMatching_of_group hrule hgroup (heq ▸ of_decide_eq_true hc)
  rw [← hr.reaches_iff_of_group hbase hrule henabled hgroup hne]
  simp

open Classical in
/-- If a group does not come up in itself too early, all its candidates are found before. -/
theorem exists_of_not_returnsEarly {owner : RuleRef} {rule : Rule} {group : GroupRule}
    (hrule : r.rule owner = .ok rule) (hgroup : rule.body = .group group) {order : List RuleRef}
    (h : r.Traverses base ∅ (rule.patterns.map (⟨owner.grammar, ·⟩)) order)
    (hlate : ¬ r.ReturnsEarly base owner) :
    ∃ before after, order = before ++ after ∧ owner ∉ before ∧
      after.filter (r.IsMatching ·) = [] := by
  by_cases hmem : owner ∈ order
  · obtain ⟨before, after, rfl, hnew⟩ := List.eq_append_cons_of_mem hmem
    refine ⟨before, owner :: after, rfl, hnew, ?_⟩
    have howner := not_isMatching_of_group hrule hgroup
    rw [List.filter_cons_of_neg (by simpa using howner), List.filter_eq_nil_iff]
    intro c hc hmatching
    exact hlate ⟨rule, before, after, hrule, h, c, hc, of_decide_eq_true hmatching⟩
  · exact ⟨order, [], by simp, hmem, rfl⟩

/-- **The two ways to flatten a group differ only once the group comes up in itself.** The
candidates of a group that is enabled and those of the rules that it holds are the same rules, each
once. They come in the same order up to the point where these rules lead to the group again, and so
in the same order throughout if no candidate is left by then. -/
theorem entryCandidates_agree {E : Engine} (hr : r.Loaded E) (hbase : base < r.grammars.size)
    {owner : RuleRef} {rule : Rule} {group : GroupRule} (hrule : r.rule owner = .ok rule)
    (henabled : rule.disabled = false) (hgroup : rule.body = .group group) :
    ∃ child entry log log',
      r.childCandidates base owner = .ok (child, log) ∧
      r.entryCandidates base owner = .ok (entry, log') ∧
      child.Nodup ∧ entry.Perm child ∧
      (∀ before after,
        r.Traverses base ∅ (rule.patterns.map (⟨owner.grammar, ·⟩)) (before ++ after) →
        owner ∉ before →
        ∃ first, (∀ c, c ∈ first ↔ c ∈ before ∧ r.IsMatching c) ∧
          first <+: child ∧ first <+: entry) ∧
      (¬ r.ReturnsEarly base owner → entry = child) := by
  classical
  have hclosed := hr.isClosed
  have howner := hasRule_of_rule hrule
  obtain ⟨⟨entry, log'⟩, hentry, -⟩ := hclosed.faultless_entryCandidates hbase howner
  obtain ⟨⟨child, log⟩, hchild, -⟩ := hclosed.faultless_childCandidates hbase howner
  have hrefs : r.candidatesFrom base (rule.patterns.map (⟨owner.grammar, ·⟩)) =
      .ok (child, log) := by
    rwa [childCandidates, hrule] at hchild
  obtain ⟨order, horder, rfl⟩ := exists_traverses_of_candidatesFrom hrefs
  obtain ⟨order', horder', rfl⟩ := exists_traverses_of_candidatesFrom hentry
  obtain ⟨inner, rfl, hinner⟩ := exists_traverses_of_group hrule henabled hgroup horder'
  have hfiltered : (owner :: inner).filter (r.IsMatching ·) = inner.filter (r.IsMatching ·) :=
    List.filter_cons_of_neg (by simpa using not_isMatching_of_group hrule hgroup)
  have hperm := hclosed.filter_isMatching_perm hbase hrule henabled hgroup horder horder'
  -- until the group is come to again, both come to the same rules
  have hstarts : ∀ before after, order = before ++ after → owner ∉ before → before <+: inner :=
    fun before after heq hnew ↦ (heq ▸ horder).isPrefix_of_insert hnew (by simpa using hinner)
  refine ⟨_, _, log, log', hchild, hentry, horder.nodup.filter _, hperm, ?_, ?_⟩
  · intro before after h hnew
    obtain rfl := horder.unique h
    refine ⟨before.filter (r.IsMatching ·), fun c ↦ by simp, ?_, ?_⟩
    · exact (List.prefix_append before after).filter _
    · rw [hfiltered]
      exact (hstarts before after rfl hnew).filter _
  · intro hlate
    obtain ⟨before, after, rfl, hnew, hrest⟩ :=
      exists_of_not_returnsEarly hrule hgroup horder hlate
    -- what both find first is all that one of them finds, and they find equally much
    have hall : (before ++ after).filter (r.IsMatching ·) = before.filter (r.IsMatching ·) := by
      rw [List.filter_append, hrest, List.append_nil]
    have hfirst : before.filter (r.IsMatching ·) <+: (owner :: inner).filter (r.IsMatching ·) := by
      rw [hfiltered]
      exact (hstarts before after rfl hnew).filter _
    rw [hall] at hperm ⊢
    exact (hfirst.eq_of_length hperm.length_eq.symm).symm

/-- The second grammar leads to itself only when its rules have all been found. -/
theorem entryCandidates_agree_repeating :
    circular.Loaded .literal ∧ 1 < circular.grammars.size ∧
      circular.rule (.root 1) = .ok ⟨0, none, false, .group ⟨[1, 2], []⟩⟩ ∧
      ¬ circular.ReturnsEarly 1 (.root 1) ∧
      ∃ found log log', circular.childCandidates 1 (.root 1) = .ok (found, log) ∧
        circular.entryCandidates 1 (.root 1) = .ok (found, log') := by
  have hrule : circular.rule (.root 1) = .ok ⟨0, none, false, .group ⟨[1, 2], []⟩⟩ := rfl
  have horder : circular.Traverses 1 ∅ [⟨1, 1⟩, ⟨1, 2⟩] [⟨1, 1⟩, ⟨1, 2⟩, ⟨1, 0⟩] := by
    refine .visit (by simp) (rfl : visit _ _ _ = .ok (none, none)) ?_
    refine .visit (by simp) (rfl : visit _ _ _ = .ok (some [⟨1, 0⟩], none)) ?_
    refine .visit (by simp) (rfl : visit _ _ _ = .ok (some [⟨1, 1⟩, ⟨1, 2⟩], none)) ?_
    exact .skip (by simp) (.skip (by simp) .nil)
  have hlate : ¬ circular.ReturnsEarly 1 (.root 1) := by
    rintro ⟨rule, before, after, hrule', h, c, hc, -⟩
    obtain rfl := Except.ok.inj (hrule.symm.trans hrule')
    have heq := horder.unique h
    obtain _ | ⟨_, _ | ⟨_, _ | ⟨_, before⟩⟩⟩ := before <;> simp_all [RuleRef.root, rootRule]
  obtain ⟨child, entry, log, log', hchild, hentry, -, -, -, heq⟩ :=
    entryCandidates_agree loaded_circular (by decide : 1 < circular.grammars.size) hrule rfl rfl
  obtain rfl := heq hlate
  exact ⟨loaded_circular, by decide, hrule, hlate, entry, log, log', hchild, hentry⟩

/-- The rules of a group that leads to itself again are found in another order than those of the
group as a whole: the rule after the include comes first. -/
theorem candidates_disagree :
    circular.Loaded .literal ∧ 0 < circular.grammars.size ∧
      circular.rule (.root 0) = .ok ⟨0, none, false, .group ⟨[1, 4], []⟩⟩ ∧
      (∃ log, circular.childCandidates 0 (.root 0) = .ok ([⟨0, 4⟩, ⟨0, 3⟩], log)) ∧
      ∃ log, circular.entryCandidates 0 (.root 0) = .ok ([⟨0, 3⟩, ⟨0, 4⟩], log) := by
  classical
  have hbase : 0 < circular.grammars.size := by decide
  have hrule : circular.rule (.root 0) = .ok ⟨0, none, false, .group ⟨[1, 4], []⟩⟩ := rfl
  have hclosed := loaded_circular.isClosed
  have howner := hasRule_of_rule hrule
  obtain ⟨⟨child, log⟩, hchild, -⟩ := hclosed.faultless_childCandidates hbase howner
  obtain ⟨⟨entry, log'⟩, hentry, -⟩ := hclosed.faultless_entryCandidates hbase howner
  obtain ⟨order, horder, rfl⟩ := exists_traverses_of_candidatesFrom
    (show circular.candidatesFrom 0 [⟨0, 1⟩, ⟨0, 4⟩] = .ok (child, log) from hchild)
  obtain ⟨order', horder', rfl⟩ := exists_traverses_of_candidatesFrom hentry
  rw [horder.unique traverses_circular] at hchild
  rw [horder'.unique traverses_root_circular] at hentry
  have hfirst : [⟨0, 1⟩, ⟨0, 2⟩, ⟨0, 0⟩, ⟨0, 4⟩, ⟨0, 3⟩].filter (circular.IsMatching ·) =
      [⟨0, 4⟩, ⟨0, 3⟩] := by
    simp [isMatching_circular]
  have hsecond : [⟨0, 0⟩, ⟨0, 1⟩, ⟨0, 2⟩, ⟨0, 3⟩, ⟨0, 4⟩].filter (circular.IsMatching ·) =
      [⟨0, 3⟩, ⟨0, 4⟩] := by
    simp [isMatching_circular]
  exact ⟨loaded_circular, hbase, hrule, ⟨log, hfirst ▸ hchild⟩, log', hsecond ▸ hentry⟩

end Registry

end ScopeGrammar
