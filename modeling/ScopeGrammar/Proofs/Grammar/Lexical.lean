import ScopeGrammar.Proofs.Grammar.Closed
import ScopeGrammar.Proofs.Grammar.Layout
import ScopeGrammar.Proofs.Engine

/-!
# Names in a compiled grammar

Names of rules are scoped as the definition is nested: inside a definition, a name stands for the
entry of the innermost repository around that has it (`RuleDefinition.entry?`, `Site.keeper?`). A
compiled grammar has no nesting any more, only rules that know which rule holds them.

`Grammar.Lineage` ties the two together. It is a chain of sites, each a definition and the rule that
it was compiled to, from the inside out and up to the root, where each definition is written
directly in the next one. Every rule of a compiled grammar has such a chain, and looking up a name
in the rule gives what the chain says (`Grammar.compile_isLexical`).
-/

namespace ScopeGrammar

/-! ### Nesting of definitions -/

namespace RuleDefinition

/-- Whether the rule of a definition keeps its repository and its list of rules. Those of an include
or a single pattern are not even compiled. -/
def keepsRules (d : RuleDefinition) : Bool :=
  d.target.isNone && d.matchPattern.isNone

/-- The tables of captures that the rule of a definition has, and the keys that they count under. -/
def captureTables (d : RuleDefinition) : List (String × List (String × RuleDefinition)) :=
  match d.target, d.matchPattern, d.beginPattern, d.exit? with
  | none, some _, _, _ => [("captures", d.captures.getD [])]
  | none, none, some _, some (kind, _) =>
    [("beginCaptures", d.capturesAtBegin), (kind.exitKey ++ "Captures", d.capturesAtExit kind)]
  | _, _, _, _ => []

/-- **A definition is written directly in another one**: as an entry of its repository, as one of
its rules, or as the group for one of its captures. -/
inductive Holds (outer : RuleDefinition) (location : String) : String → RuleDefinition → Prop
  | entry {name : String} {d : RuleDefinition} (hkeeps : outer.keepsRules = true)
      (hentry : (name, d) ∈ outer.repository) :
      Holds outer location (joinLocation location ("repository." ++ name)) d
  | pattern {i : Nat} {d : RuleDefinition} (hkeeps : outer.keepsRules = true)
      (hpattern : outer.patterns[i]? = some d) :
      Holds outer location (joinLocation location ("patterns[" ++ toString i ++ "]")) d
  | capture {table key : String} {entries : List (String × RuleDefinition)} {d : RuleDefinition}
      {index : Nat} (htable : (table, entries) ∈ outer.captureTables)
      (hentry : (key, d) ∈ entries) (hkey : signedIndex? key.toList = some index)
      (hpatterns : d.patterns ≠ []) :
      Holds outer location (joinLocation (joinLocation location table) key) d.capturedGroup

/-- The entry of a name in the repository of a definition, if its rule keeps one. -/
def entry? (d : RuleDefinition) (name : String) : Option RuleDefinition :=
  if d.keepsRules then d.repository.lookup name else none

/-- A name that is found is written in the repository of a definition that keeps its rules. -/
theorem of_entry?_eq_some {d r : RuleDefinition} {name : String} (h : d.entry? name = some r) :
    d.keepsRules = true ∧ (name, r) ∈ d.repository := by
  rw [RuleDefinition.entry?] at h
  split at h
  · rename_i hkeeps
    obtain ⟨before, after, heq, -⟩ := List.lookup_eq_some_iff.1 h
    exact ⟨hkeeps, by simp [heq]⟩
  · contradiction

end RuleDefinition

/-- A definition, where it is written, and the rule that it was compiled to. -/
structure Site where
  rule : RuleId
  location : String
  definition : RuleDefinition

namespace Site

/-- The root of a grammar. -/
def root (d : GrammarDefinition) : Site :=
  ⟨rootRule, "", d.root⟩

/-- The site of an entry of the repository of another one. -/
def entry (keeper : Site) (name : String) (id : RuleId) (d : RuleDefinition) : Site :=
  ⟨id, joinLocation keeper.location ("repository." ++ name), d⟩

/-- The entry that a name stands for: the innermost site that keeps one of the name, with those
around it. -/
def keeper? (name : String) : List Site → Option (RuleDefinition × Site × List Site)
  | [] => none
  | s :: outer =>
    match s.definition.entry? name with
    | some d => some (d, s, outer)
    | none => keeper? name outer

end Site

/-- The rules that captures are tokenized by. -/
def Captures.groups (c : Captures) : List RuleId :=
  c.entries.filterMap (·.2.patterns)

/-- The rules that a rule refers to as its own: those of its captures, of its repository and of its
list. -/
def RuleBody.held : RuleBody → List RuleId
  | .single r => r.captures.groups
  | .region r =>
    r.beginCaptures.groups ++ r.exitCaptures.groups ++ r.repository.map Prod.snd ++ r.patterns
  | .includes _ => []
  | .group r => r.repository.map Prod.snd ++ r.patterns

namespace Grammar

section

variable (E : Engine) (d : GrammarDefinition) (g : Grammar)

/-- The rule of a site is what its definition was compiled to, and `parent` holds it. -/
def Compiles (parent : Option RuleId) (s : Site) : Prop :=
  ∃ hi, CompiledRule E g.rules g.regexes parent s.location s.definition s.rule hi

/-- **The definitions that a rule is written in**, from its own to that of the whole grammar, and
the rules that they were compiled to. -/
inductive Lineage : List Site → Prop
  | root (h : g.Compiles E none (.root d)) : Lineage [.root d]
  | injection {source : String} {r : RuleDefinition} {id : RuleId} (hroot : Lineage [.root d])
      (hr : (source, r) ∈ d.injections) (hlt : rootRule < id)
      (h : g.Compiles E (some rootRule) ⟨id, "injections." ++ source, r⟩) :
      Lineage [⟨id, "injections." ++ source, r⟩, .root d]
  | held {inner outer : Site} {rest : List Site} (houter : Lineage (outer :: rest))
      (hholds : outer.definition.Holds outer.location inner.location inner.definition)
      (hlt : outer.rule < inner.rule) (h : g.Compiles E (some outer.rule) inner) :
      Lineage (inner :: outer :: rest)

/-- The rule was compiled from some definition in the grammar. -/
def IsWritten (id : RuleId) : Prop :=
  ∃ s outer, s.rule = id ∧ Lineage E d g (s :: outer)

/-- **The rules of a grammar stand for its definition**: they know their places and what holds them,
and names mean what they mean in the definition. -/
structure IsLexical : Prop where
  ids : ∀ (id : RuleId) (rule : Rule), g.rules[id]? = some rule → rule.id = id
  parentless : ∀ (id : RuleId) (rule : Rule), g.rules[id]? = some rule →
    (rule.parent = none ↔ id = rootRule)
  parent_lt : ∀ (id : RuleId) (rule : Rule), g.rules[id]? = some rule →
    ∀ parent, rule.parent = some parent → parent < id
  closed : g.IsClosed
  held_parent : ∀ (id : RuleId) (rule : Rule), g.rules[id]? = some rule →
    ∀ id' ∈ rule.body.held, ∃ rule', g.rules[id']? = some rule' ∧ rule'.parent = some id
  written : ∀ id, id < g.rules.size → IsWritten E d g id
  named : ∀ s outer, Lineage E d g (s :: outer) → ∀ name,
    match Site.keeper? name (s :: outer) with
    | none => g.lookup s.rule name = .ok none
    | some (r, keeper, rest) => ∃ id rule, g.lookup s.rule name = .ok (some id) ∧
      g.rules[keeper.rule]? = some rule ∧ rule.repository.lookup name = some id ∧
      Lineage E d g (keeper.entry name id r :: keeper :: rest)

end

end Grammar

/-! ### What a compiled body refers to -/

section

variable {E : Engine} {rules : Array Rule} {regexes : Array Regex} {owner : RuleId}
  {location : String} {d : RuleDefinition} {lo hi : RuleId}

/-- The rule is what some definition was compiled to, and `owner` holds it. -/
def CompiledUnder (E : Engine) (rules : Array Rule) (regexes : Array Regex) (owner id : RuleId) :
    Prop :=
  ∃ location d hi, CompiledRule E rules regexes (some owner) location d id hi

/-- What is compiled under a rule is a rule that has it as its parent. -/
theorem CompiledUnder.exists_rule {id : RuleId} (h : CompiledUnder E rules regexes owner id) :
    ∃ rule, rules[id]? = some rule ∧ rule.parent = some owner := by
  obtain ⟨location, d, hi, ⟨hrule, -⟩⟩ := h
  exact ⟨_, hrule, rfl⟩

/-- The patterns of a rule are compiled under it. -/
theorem CompiledPatterns.compiledUnder {i : Nat} {ds : List RuleDefinition} {ids : List RuleId}
    (h : CompiledPatterns E rules regexes owner location i ds lo hi ids) {id : RuleId}
    (hid : id ∈ ids) : CompiledUnder E rules regexes owner id := by
  induction ds generalizing i lo ids with
  | nil =>
    cases h
    cases hid
  | cons d rest ih =>
    obtain _ | ⟨hrule, hrest⟩ := h
    rcases List.mem_cons.1 hid with rfl | hid
    · exact ⟨_, _, _, hrule⟩
    · exact ih hrest hid

/-- The rules of a repository are compiled under the rule that has it. -/
theorem CompiledRepository.compiledUnder {ds : List (String × RuleDefinition)} {ids : Repository}
    (h : CompiledRepository E rules regexes owner location ds lo hi ids) {id : RuleId}
    (hid : id ∈ ids.map Prod.snd) : CompiledUnder E rules regexes owner id := by
  induction ds generalizing lo ids with
  | nil =>
    cases h
    cases hid
  | cons entry rest ih =>
    obtain _ | ⟨hrule, hrest⟩ := h
    rcases List.mem_cons.1 hid with rfl | hid
    · exact ⟨_, _, _, hrule⟩
    · exact ih hrest hid

/-- The entry of a name is compiled to the rule that the name has in the compiled repository. -/
theorem CompiledRepository.lookup {ds : List (String × RuleDefinition)} {ids : Repository}
    (h : CompiledRepository E rules regexes owner location ds lo hi ids) (name : String) :
    match ds.lookup name with
    | none => ids.lookup name = none
    | some d => ∃ id hi, lo ≤ id ∧ ids.lookup name = some id ∧
      CompiledRule E rules regexes (some owner) (joinLocation location ("repository." ++ name)) d
        id hi := by
  induction ds generalizing lo ids with
  | nil =>
    cases h
    rfl
  | cons entry rest ih =>
    cases h with
    | cons hrule hrest =>
      rename_i name' d' mid ids
      by_cases hname : name = name'
      · subst hname
        rw [List.lookup_cons_self, List.lookup_cons_self]
        exact ⟨lo, mid, Nat.le_refl _, rfl, hrule⟩
      · have hne : (name == name') = false := beq_false_of_ne hname
        have hih := ih hrest
        rw [List.lookup_cons, List.lookup_cons, hne]
        dsimp only
        cases hlookup : rest.lookup name with
        | none =>
          rw [hlookup] at hih
          exact hih
        | some d =>
          rw [hlookup] at hih
          obtain ⟨id, hi', hle, hid, hcompiled⟩ := hih
          exact ⟨id, hi', Nat.le_trans (Nat.le_of_lt hrule.lt) hle, hid, hcompiled⟩

/-- A group of captures is held by the rule of the captures, if those of the captures known before
are. -/
theorem CompiledCaptures.compiledUnder {known captures : Captures}
    {ds : List (String × RuleDefinition)}
    (h : CompiledCaptures E rules regexes owner location known ds lo hi captures)
    (hknown : ∀ e ∈ known.entries, ∀ id, e.2.patterns = some id →
      CompiledUnder E rules regexes owner id) {id : RuleId} (hid : id ∈ captures.groups) :
    CompiledUnder E rules regexes owner id := by
  induction ds generalizing lo known with
  | nil =>
    cases h
    obtain ⟨e, he, hpatterns⟩ := List.mem_filterMap.1 hid
    exact hknown e he id hpatterns
  | cons entry rest ih =>
    cases h with
    | stray hkey hrest => exact ih hrest hknown
    | named hkey hpatterns hrest =>
      refine ih hrest fun e he id hid ↦ ?_
      rcases Captures.mem_insertEntry he with rfl | he
      · cases hid
      · exact hknown e he id hid
    | group hkey hpatterns hgroup hrest =>
      refine ih hrest fun e he id hid ↦ ?_
      rcases Captures.mem_insertEntry he with rfl | he
      · obtain rfl := Option.some.inj hid
        exact ⟨_, _, _, hgroup⟩
      · exact hknown e he id hid

/-- **A rule holds what its body refers to.** -/
theorem CompiledBody.compiledUnder {body : RuleBody}
    (h : CompiledBody E rules regexes owner location d lo hi body) {id : RuleId}
    (hid : id ∈ body.held) : CompiledUnder E rules regexes owner id := by
  have hnone : ∀ e ∈ ({} : Captures).entries, ∀ id, e.2.patterns = some id →
      CompiledUnder E rules regexes owner id := fun e he ↦ nomatch he
  cases h with
  | includes htarget => cases hid
  | single htarget hpattern hregex hvalid hcaptures => exact hcaptures.compiledUnder hnone hid
  | region htarget hmatch hbeginPattern hexitPattern hbegin hvalid hexitRegex hexit hexitValid
      hbeginCaptures hexitCaptures hrepository hpatterns =>
    rw [RuleBody.held, List.mem_append, List.mem_append, List.mem_append] at hid
    obtain ((hid | hid) | hid) | hid := hid
    · exact hbeginCaptures.compiledUnder hnone hid
    · exact hexitCaptures.compiledUnder hnone hid
    · exact hrepository.compiledUnder hid
    · exact hpatterns.compiledUnder hid
  | group htarget hmatch hbegin hrepository hpatterns =>
    rcases List.mem_append.1 hid with hid | hid
    · exact hrepository.compiledUnder hid
    · exact hpatterns.compiledUnder hid

/-- The repository of a rule that keeps rules has all that its definition has under a name; it comes
after the rule. -/
theorem CompiledRepository.lookup_entry? {mid : RuleId} {ids : Repository}
    (h : CompiledRepository E rules regexes lo location d.repository mid hi ids)
    (htarget : d.target = none) (hmatch : d.matchPattern = none) (hlt : lo < mid) (name : String) :
    match d.entry? name with
    | none => ids.lookup name = none
    | some r => ∃ id hi, lo < id ∧ ids.lookup name = some id ∧
      CompiledRule E rules regexes (some lo) (joinLocation location ("repository." ++ name)) r
        id hi := by
  have hkeeps : d.keepsRules = true := by
    rw [RuleDefinition.keepsRules, htarget, hmatch]
    rfl
  rw [RuleDefinition.entry?, if_pos hkeeps]
  have hlookup := h.lookup name
  cases hentry : d.repository.lookup name with
  | none =>
    rw [hentry] at hlookup
    exact hlookup
  | some r =>
    rw [hentry] at hlookup
    obtain ⟨id, hi', hle, hid, hcompiled⟩ := hlookup
    exact ⟨id, hi', Nat.lt_of_lt_of_le hlt hle, hid, hcompiled⟩

/-- The repository of a rule has what its definition keeps under a name. -/
theorem CompiledRule.lookup_repository {parent : Option RuleId}
    (h : CompiledRule E rules regexes parent location d lo hi) (name : String) :
    ∃ rule, rules[lo]? = some rule ∧ rule.parent = parent ∧
      match d.entry? name with
      | none => rule.repository.lookup name = none
      | some r => ∃ id hi, lo < id ∧ rule.repository.lookup name = some id ∧
        CompiledRule E rules regexes (some lo) (joinLocation location ("repository." ++ name)) r
          id hi := by
  obtain ⟨hrule, hbody⟩ := h
  refine ⟨_, hrule, rfl, ?_⟩
  cases hbody with
  | includes htarget =>
    have hnone : d.entry? name = none := by
      rw [RuleDefinition.entry?, RuleDefinition.keepsRules, htarget]
      rfl
    rw [hnone]
    rfl
  | single htarget hpattern hregex hvalid hcaptures =>
    have hnone : d.entry? name = none := by
      rw [RuleDefinition.entry?, RuleDefinition.keepsRules, htarget, hpattern]
      rfl
    rw [hnone]
    rfl
  | region htarget hmatch hbeginPattern hexitPattern hbegin hvalid hexitRegex hexit hexitValid
      hbeginCaptures hexitCaptures hrepository hpatterns =>
    have hle := Nat.le_trans hbeginCaptures.le hexitCaptures.le
    exact hrepository.lookup_entry? htarget hmatch (Nat.lt_of_succ_le hle) name
  | group htarget hmatch hbegin hrepository hpatterns =>
    exact hrepository.lookup_entry? htarget hmatch (Nat.lt_succ_self _) name

end

namespace Grammar

variable {E : Engine} {d : GrammarDefinition} {g : Grammar}

/-! ### Every rule is written somewhere -/

mutual

/-- The rules of a range are all written in the definition that the range was compiled from. -/
theorem isWritten_of_rule {parent : Option RuleId} {location : String} {r : RuleDefinition}
    {lo hi : RuleId} {outer : List Site} :
    CompiledRule E g.rules g.regexes parent location r lo hi →
    Lineage E d g (⟨lo, location, r⟩ :: outer) →
    ∀ id, lo ≤ id → id < hi → IsWritten E d g id
  | .mk _ hbody, hline, id, hlo, hhi => by
    rcases Nat.eq_or_lt_of_le hlo with rfl | hlt
    · exact ⟨_, _, rfl, hline⟩
    · exact isWritten_of_body hbody hline (Nat.lt_succ_self _) id hlt hhi

/-- The rules of the range of a rule are written in its parts, each of which has a range of its
own. -/
theorem isWritten_of_body {owner : RuleId} {location : String} {r : RuleDefinition}
    {lo hi : RuleId} {body : RuleBody} {outer : List Site} :
    CompiledBody E g.rules g.regexes owner location r lo hi body →
    Lineage E d g (⟨owner, location, r⟩ :: outer) → owner < lo →
    ∀ id, lo ≤ id → id < hi → IsWritten E d g id
  | .includes _, _, _, id, hlo, hhi => absurd hhi (Nat.not_lt_of_le hlo)
  | .single htarget hpattern _ _ hcaptures, hline, hlt, id, hlo, hhi => by
    refine isWritten_of_captures hcaptures hline (fun key c index hmem hkey hpatterns ↦ ?_) hlt id
      hlo hhi
    refine .capture ?_ hmem hkey hpatterns
    rw [RuleDefinition.captureTables, htarget, hpattern]
    exact List.mem_singleton_self _
  | .region htarget hmatch hbeginPattern hexitPattern _ _ _ _ _ hbeginCaptures hexitCaptures
      hrepository hpatterns, hline, hlt, id, hlo, hhi => by
    have hkeeps : r.keepsRules = true := by
      rw [RuleDefinition.keepsRules, htarget, hmatch]
      rfl
    have h₁ := Nat.lt_of_lt_of_le hlt hbeginCaptures.le
    have h₂ := Nat.lt_of_lt_of_le h₁ hexitCaptures.le
    have h₃ := Nat.lt_of_lt_of_le h₂ hrepository.le
    -- the four parts of a region share its range
    refine (Nat.lt_or_ge id _).elim (isWritten_of_captures hbeginCaptures hline
      (fun key c index hmem hkey hpatterns ↦ .capture ?_ hmem hkey hpatterns) hlt id hlo)
      fun hge₁ ↦ ?_
    · rw [RuleDefinition.captureTables, htarget, hmatch, hbeginPattern, hexitPattern]
      exact List.mem_cons_self
    refine (Nat.lt_or_ge id _).elim (isWritten_of_captures hexitCaptures hline
      (fun key c index hmem hkey hpatterns ↦ .capture ?_ hmem hkey hpatterns) h₁ id hge₁)
      fun hge₂ ↦ ?_
    · rw [RuleDefinition.captureTables, htarget, hmatch, hbeginPattern, hexitPattern]
      exact List.mem_cons_of_mem _ List.mem_cons_self
    exact (Nat.lt_or_ge id _).elim
      (isWritten_of_repository hrepository hline (fun name e hmem ↦ .entry hkeeps hmem) h₂ id hge₂)
      fun hge₃ ↦ isWritten_of_patterns hpatterns hline
        (fun k p hp ↦ (Nat.zero_add k).symm ▸ .pattern hkeeps hp) h₃ id hge₃ hhi
  | .group htarget hmatch _ hrepository hpatterns, hline, hlt, id, hlo, hhi => by
    have hkeeps : r.keepsRules = true := by
      rw [RuleDefinition.keepsRules, htarget, hmatch]
      rfl
    exact (Nat.lt_or_ge id _).elim
      (isWritten_of_repository hrepository hline (fun name e hmem ↦ .entry hkeeps hmem) hlt id hlo)
      fun hge ↦ isWritten_of_patterns hpatterns hline
        (fun k p hp ↦ (Nat.zero_add k).symm ▸ .pattern hkeeps hp)
        (Nat.lt_of_lt_of_le hlt hrepository.le) id hge hhi

/-- The rules of the range of a repository are written in it. -/
theorem isWritten_of_repository {owner : RuleId} {location : String} {r : RuleDefinition}
    {ds : List (String × RuleDefinition)} {lo hi : RuleId} {ids : Repository}
    {outer : List Site} : CompiledRepository E g.rules g.regexes owner location ds lo hi ids →
    Lineage E d g (⟨owner, location, r⟩ :: outer) →
    (∀ name e, (name, e) ∈ ds →
      r.Holds location (joinLocation location ("repository." ++ name)) e) → owner < lo →
    ∀ id, lo ≤ id → id < hi → IsWritten E d g id
  | .nil, _, _, _, id, hlo, hhi => absurd hhi (Nat.not_lt_of_le hlo)
  | .cons hrule hrest, hline, hholds, hlt, id, hlo, hhi =>
    (Nat.lt_or_ge id _).elim
      (isWritten_of_rule hrule (.held hline (hholds _ _ List.mem_cons_self) hlt ⟨_, hrule⟩) id hlo)
      fun hge ↦ isWritten_of_repository hrest hline
        (fun name e hmem ↦ hholds name e (List.mem_cons_of_mem _ hmem))
        (Nat.lt_trans hlt hrule.lt) id hge hhi

/-- The rules of the range of patterns are written in them. -/
theorem isWritten_of_patterns {owner : RuleId} {location : String} {r : RuleDefinition} {i : Nat}
    {ds : List RuleDefinition} {lo hi : RuleId} {ids : List RuleId} {outer : List Site} :
    CompiledPatterns E g.rules g.regexes owner location i ds lo hi ids →
    Lineage E d g (⟨owner, location, r⟩ :: outer) →
    (∀ k p, ds[k]? = some p →
      r.Holds location (joinLocation location ("patterns[" ++ toString (i + k) ++ "]")) p) →
    owner < lo → ∀ id, lo ≤ id → id < hi → IsWritten E d g id
  | .nil, _, _, _, id, hlo, hhi => absurd hhi (Nat.not_lt_of_le hlo)
  | .cons hrule hrest, hline, hholds, hlt, id, hlo, hhi => by
    refine (Nat.lt_or_ge id _).elim
      (isWritten_of_rule hrule (.held hline (hholds 0 _ rfl) hlt ⟨_, hrule⟩) id hlo) fun hge ↦ ?_
    refine isWritten_of_patterns hrest hline (fun k p hp ↦ ?_) (Nat.lt_trans hlt hrule.lt) id
      hge hhi
    rw [Nat.add_right_comm]
    exact hholds (k + 1) p hp

/-- The rules of the range of captures are written in them. -/
theorem isWritten_of_captures {owner : RuleId} {location outerLocation : String}
    {r : RuleDefinition} {known captures : Captures} {ds : List (String × RuleDefinition)}
    {lo hi : RuleId} {outer : List Site} :
    CompiledCaptures E g.rules g.regexes owner location known ds lo hi captures →
    Lineage E d g (⟨owner, outerLocation, r⟩ :: outer) →
    (∀ (key : String) (c : RuleDefinition) (index : Nat), (key, c) ∈ ds →
      signedIndex? key.toList = some index → c.patterns ≠ [] →
      r.Holds outerLocation (joinLocation location key) c.capturedGroup) → owner < lo →
    ∀ id, lo ≤ id → id < hi → IsWritten E d g id
  | .nil, _, _, _, id, hlo, hhi => absurd hhi (Nat.not_lt_of_le hlo)
  | .stray _ hrest, hline, hholds, hlt, id, hlo, hhi =>
    isWritten_of_captures hrest hline
      (fun key c index hmem ↦ hholds key c index (List.mem_cons_of_mem _ hmem)) hlt id hlo hhi
  | .named _ _ hrest, hline, hholds, hlt, id, hlo, hhi =>
    isWritten_of_captures hrest hline
      (fun key c index hmem ↦ hholds key c index (List.mem_cons_of_mem _ hmem)) hlt id hlo hhi
  | .group hkey hpatterns hgroup hrest, hline, hholds, hlt, id, hlo, hhi =>
    (Nat.lt_or_ge id _).elim
      (isWritten_of_rule hgroup
        (.held hline (hholds _ _ _ List.mem_cons_self hkey hpatterns) hlt ⟨_, hgroup⟩) id hlo)
      fun hge ↦ isWritten_of_captures hrest hline
        (fun key c index hmem ↦ hholds key c index (List.mem_cons_of_mem _ hmem))
        (Nat.lt_trans hlt hgroup.lt) id hge hhi

end

/-- The rules of the range of injections are written in them. -/
theorem isWritten_of_injections {ds : List (String × RuleDefinition)} {lo hi : RuleId}
    {injections : List Injection} (h : CompiledInjections E g.rules g.regexes ds lo hi injections)
    (hroot : Lineage E d g [.root d]) (hds : ∀ e ∈ ds, e ∈ d.injections) (hlt : rootRule < lo)
    (id : RuleId) (hlo : lo ≤ id) (hhi : id < hi) : IsWritten E d g id := by
  induction ds generalizing lo injections with
  | nil =>
    cases h
    exact absurd hhi (Nat.not_lt_of_le hlo)
  | cons injection rest ih =>
    obtain _ | ⟨hselector, hrule, hrest⟩ := h
    refine (Nat.lt_or_ge id _).elim (isWritten_of_rule hrule
      (.injection hroot (hds _ List.mem_cons_self) hlt ⟨_, hrule⟩) id hlo) fun hge ↦ ?_
    exact ih hrest (fun e he ↦ hds e (List.mem_cons_of_mem _ he)) (Nat.lt_trans hlt hrule.lt) hge

/-! ### What a chain says of its rule -/

/-- A rule that has the name gives it a meaning, and any other one asks the rule that holds it. -/
theorem lookup_eq_of_rule {id : RuleId} {rule : Rule} (hrule : g.rules[id]? = some rule)
    (name : String) :
    g.lookup id name = match rule.repository.lookup name with
      | some found => .ok (some found)
      | none =>
        match rule.parent with
        | none => .ok none
        | some parent => if parent < id then g.lookup parent name else .ok none := by
  rw [lookup, Grammar.rule, hrule]
  rfl

/-- A name that a rule does not have is looked up in the rule that holds it. -/
theorem lookup_eq_of_parent {id parent : RuleId} {rule : Rule} {name : String}
    (hrule : g.rules[id]? = some rule) (hnone : rule.repository.lookup name = none)
    (hparent : rule.parent = some parent) (hlt : parent < id) :
    g.lookup id name = g.lookup parent name := by
  rw [lookup_eq_of_rule hrule, hnone, hparent]
  exact if_pos hlt

namespace Lineage

variable {s o : Site} {outer : List Site}

/-- The rule of a site is held by that of the next one. -/
theorem compiles (h : Lineage E d g (s :: outer)) :
    g.Compiles E (outer.head?.map Site.rule) s := by
  cases h with
  | root h => exact h
  | injection hroot hr hlt h => exact h
  | held houter hholds hlt h => exact h

/-- A definition is compiled before those that are written in it. -/
theorem outer_lt (h : Lineage E d g (s :: o :: outer)) : o.rule < s.rule := by
  cases h with
  | injection hroot hr hlt h => exact hlt
  | held houter hholds hlt h => exact hlt

/-- What is written around a definition has a lineage of its own. -/
theorem tail (h : Lineage E d g (s :: o :: outer)) : Lineage E d g (o :: outer) := by
  cases h with
  | injection hroot hr hlt h => exact hroot
  | held houter hholds hlt h => exact houter

/-- A definition that nothing is written around is the root. -/
theorem eq_root (h : Lineage E d g [s]) : s = .root d := by
  cases h
  rfl

/-- A definition with a lineage is compiled to a rule whose parent is that of the definition around
it. -/
theorem exists_rule (h : Lineage E d g (s :: outer)) :
    ∃ rule, g.rules[s.rule]? = some rule ∧ rule.id = s.rule ∧
      rule.parent = outer.head?.map Site.rule ∧
      ∀ id ∈ rule.body.held, ∃ rule', g.rules[id]? = some rule' ∧ rule'.parent = some s.rule := by
  obtain ⟨hi, ⟨hrule, hbody⟩⟩ := h.compiles
  exact ⟨_, hrule, rfl, rfl, fun id hid ↦ (hbody.compiledUnder hid).exists_rule⟩

/-- An entry of its own settles what a rule finds under a name. -/
theorem lookup_of_entry {r : RuleDefinition} {name : String} (h : Lineage E d g (s :: outer))
    (hkept : s.definition.entry? name = some r) :
    ∃ id rule, g.lookup s.rule name = .ok (some id) ∧ g.rules[s.rule]? = some rule ∧
      rule.repository.lookup name = some id ∧ Lineage E d g (s.entry name id r :: s :: outer) := by
  obtain ⟨hi, hcompiled⟩ := h.compiles
  obtain ⟨rule, hrule, -, hentry⟩ := hcompiled.lookup_repository name
  rw [hkept] at hentry
  obtain ⟨id, hi', hlt, hid, hcompiled⟩ := hentry
  obtain ⟨hkeeps, hmem⟩ := RuleDefinition.of_entry?_eq_some hkept
  refine ⟨id, rule, ?_, hrule, hid, .held h (.entry hkeeps hmem) hlt ⟨hi', hcompiled⟩⟩
  rw [lookup_eq_of_rule hrule, hid]

/-- Without one, the rule finds what the rule that holds it does. -/
theorem lookup_of_no_entry {name : String} (h : Lineage E d g (s :: outer))
    (hkept : s.definition.entry? name = none) :
    g.lookup s.rule name =
      match outer with
      | [] => .ok none
      | o :: _ => g.lookup o.rule name := by
  obtain ⟨hi, hcompiled⟩ := h.compiles
  obtain ⟨rule, hrule, hparent, hentry⟩ := hcompiled.lookup_repository name
  rw [hkept] at hentry
  rw [lookup_eq_of_rule hrule, hentry, hparent]
  cases outer with
  | nil => rfl
  | cons o outer => exact if_pos h.outer_lt

/-- **Looking up a name goes outwards through the chain.** A rule whose definition keeps nothing
under the name hands the question on to the rule that holds it. -/
theorem lookup (h : Lineage E d g (s :: outer)) (name : String) :
    match Site.keeper? name (s :: outer) with
    | none => g.lookup s.rule name = .ok none
    | some (r, keeper, rest) => ∃ id rule, g.lookup s.rule name = .ok (some id) ∧
      g.rules[keeper.rule]? = some rule ∧ rule.repository.lookup name = some id ∧
      Lineage E d g (keeper.entry name id r :: keeper :: rest) := by
  induction outer generalizing s with
  | nil =>
    rw [Site.keeper?]
    cases hkept : s.definition.entry? name with
    | some r => exact h.lookup_of_entry hkept
    | none => exact h.lookup_of_no_entry hkept
  | cons o outer ih =>
    rw [Site.keeper?]
    cases hkept : s.definition.entry? name with
    | some r => exact h.lookup_of_entry hkept
    | none =>
      rw [h.lookup_of_no_entry hkept]
      exact ih h.tail

end Lineage

/-- **A compiled grammar keeps the places and the names of its definition.** -/
theorem compile_isLexical (h : (compile d E).result = .ok g) : g.IsLexical E d := by
  obtain ⟨mid, hroot, hinjections⟩ := compile_laid h
  have hline : Lineage E d g [.root d] := .root ⟨mid, hroot⟩
  have hwritten : ∀ id, id < g.rules.size → IsWritten E d g id := by
    intro id hid
    exact (Nat.lt_or_ge id mid).elim (isWritten_of_rule hroot hline id (Nat.zero_le _))
      fun hge ↦ isWritten_of_injections hinjections hline (fun e he ↦ he) hroot.lt id hge hid
  -- all that is said of a rule is read off the chain of the definitions that it is written in
  have hrules : ∀ (id : RuleId) (rule : Rule), g.rules[id]? = some rule →
      ∃ s outer, s.rule = id ∧ Lineage E d g (s :: outer) ∧ rule.id = id ∧
        rule.parent = outer.head?.map Site.rule ∧
        ∀ id' ∈ rule.body.held, ∃ rule', g.rules[id']? = some rule' ∧ rule'.parent = some id := by
    intro id rule hrule
    obtain ⟨s, outer, rfl, hchain⟩ := hwritten id (Array.getElem?_eq_some_iff.1 hrule).1
    obtain ⟨rule', hrule', hid, hparent, hheld⟩ := hchain.exists_rule
    obtain rfl := Option.some.inj (hrule.symm.trans hrule')
    exact ⟨s, outer, rfl, hchain, hid, hparent, hheld⟩
  refine ⟨fun id rule hrule ↦ ?_, fun id rule hrule ↦ ?_, fun id rule hrule parent hp ↦ ?_,
    compile_isClosed h, fun id rule hrule ↦ ?_, hwritten, fun s outer hchain ↦ hchain.lookup⟩
  · obtain ⟨s, outer, -, -, hid, -⟩ := hrules id rule hrule
    exact hid
  · obtain ⟨s, outer, rfl, hchain, -, hparent, -⟩ := hrules id rule hrule
    rw [hparent]
    cases outer with
    | nil =>
      obtain rfl := hchain.eq_root
      exact ⟨fun _ ↦ rfl, fun _ ↦ rfl⟩
    | cons o outer =>
      exact ⟨nofun, fun hzero ↦ absurd (hzero ▸ hchain.outer_lt) (Nat.not_lt_zero _)⟩
  · obtain ⟨s, outer, rfl, hchain, -, hparent, -⟩ := hrules id rule hrule
    rw [hparent] at hp
    cases outer with
    | nil => cases hp
    | cons o outer =>
      cases hp
      exact hchain.outer_lt
  · obtain ⟨s, outer, -, -, -, -, hheld⟩ := hrules id rule hrule
    exact hheld

end Grammar

/-! ### Nested repositories -/

/-- A grammar that names rules in three repositories: at its root, in the group for a capture, and
in another group. That of the single pattern is not kept. -/
def GrammarDefinition.nested : GrammarDefinition where
  scopeName := "text"
  patterns :=
    [{ matchPattern := some "a"
       captures :=
         some [("0", { patterns := [{ target := some "#x" }], repository := [("x", {})] })]
       repository := [("y", {})] },
     { patterns := [{ target := some "#x" }, { target := some "#y" }], repository := [("y", {})] }]
  repository := [("x", {}), ("y", {})]

/-- Inside the capture, which rule 4 is the group of, `x` is the rule of that group and `y` that of
the root; inside the other group, rule 7, it is the other way round. -/
theorem Grammar.compile_isLexical_nested :
    ∃ g, (compile .nested .literal).result = .ok g ∧ g.IsLexical .literal .nested ∧
      g.lookup 6 "x" = .ok (some 5) ∧ g.lookup 6 "y" = .ok (some 2) ∧
      g.lookup 9 "x" = .ok (some 1) ∧ g.lookup 10 "y" = .ok (some 8) ∧
      g.lookup 10 "z" = .ok none := by
  have hlookups : ((compile .nested .literal).result.toOption.map fun g ↦
      [g.lookup 6 "x", g.lookup 6 "y", g.lookup 9 "x", g.lookup 10 "y", g.lookup 10 "z"]) =
      some [.ok (some 5), .ok (some 2), .ok (some 1), .ok (some 8), .ok none] := by
    decide +kernel
  cases hg : (compile .nested .literal).result with
  | error e =>
    rw [hg] at hlookups
    cases hlookups
  | ok g =>
    rw [hg] at hlookups
    simp only [Except.toOption, Option.map_some, Option.some.injEq, List.cons.injEq, and_true]
      at hlookups
    exact ⟨g, rfl, compile_isLexical hg, hlookups⟩

end ScopeGrammar
