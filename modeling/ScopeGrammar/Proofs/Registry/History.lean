import ScopeGrammar.Grammar.Compile
import ScopeGrammar.Proofs.Registry.Records

/-!
# The history of a registry

Calls change a registry in place: one assignment after the other, with failures between them
(`Registering`). What is done to add a grammar comes to what `Registry.add` says (`add_apply`), so
that a call that fails has changed nothing, and one that does not has added what it was about
(`RegistryCall.perform_cases`).

From this one step come the registries that any calls leave (`RegistryCall.records_after`): they
record the grammars whose calls did not fail, and each of them keeps its number.
-/

namespace ScopeGrammar

/-! ### Changing a registry in place -/

/-- A computation that changes a registry in place. What it did before a failure stays done. -/
abbrev Registering := EStateM Failure Registry

namespace Registering

/-- The number of the grammar that is added next. -/
def nextId : Registering GrammarId := do
  let id := (← get).grammars.size
  if id < Registry.capacity then pure id else throw (.error .registryFull)

/-- Makes a scope name that of a grammar. -/
def nameScope (scopeName : String) (id : GrammarId) : Registering Unit :=
  modify fun r ↦ { r with byScopeName := r.byScopeName.insert scopeName id }

/-- Makes a name that of a grammar, unless it is empty. -/
def nameGrammar (name : String) (id : GrammarId) : Registering Unit :=
  if name.isEmpty then pure ()
  else modify fun r ↦ { r with byName := r.byName.insert name id }

/-- Adds a grammar: its names first, then the grammar. -/
def add (g : Grammar) : Registering GrammarId := do
  let id ← nextId
  nameScope g.scopeName id
  nameGrammar g.name id
  modify fun r ↦ { r with grammars := r.grammars.push g }
  pure id

/-- Compiles a definition that may not have been readable, and adds the grammar. -/
def load (E : Engine) (d : Except GrammarError GrammarDefinition) : Registering GrammarId :=
  match (Grammar.load d E).result with
  | .ok g => add g
  | .error failure => throw failure

/-- Makes the exported injection of the grammars of a scope name apply to all others. -/
def addInjectionScope (scopeName : String) : Registering Unit :=
  modify (·.addInjectionScope scopeName)

/-- The next identifier is the number of grammars, as long as there is room. -/
theorem nextId_apply (r : Registry) :
    nextId r =
      if r.grammars.size < Registry.capacity then .ok r.grammars.size r
      else .error (.error .registryFull) r := by
  show (if _ then _ else _ : Registering GrammarId) r = _
  split <;> rfl

/-- **All that is to be done to add a grammar is done, or nothing.** -/
theorem add_apply (g : Grammar) (r : Registry) :
    add g r =
      match r.add g with
      | .ok (id, r') => .ok id r'
      | .error e => .error (.error e) r := by
  rw [Registry.add]
  show EStateM.bind nextId _ r = _
  rw [EStateM.bind, nextId_apply]
  by_cases hsize : r.grammars.size < Registry.capacity
  · rw [if_pos hsize, if_pos hsize]
    by_cases hname : g.name.isEmpty
    · simp only [nameGrammar, if_pos hname]
      rfl
    · simp only [nameGrammar, if_neg hname]
      rfl
  · rw [if_neg hsize, if_neg hsize]

end Registering

/-! ### Calls -/

/-- A call that is meant to change a registry. -/
inductive RegistryCall where
  /-- A grammar is added. -/
  | grammar (g : Grammar)
  /-- A definition is compiled and added. -/
  | definition (d : GrammarDefinition)
  /-- A JSON text is read, compiled and added. -/
  | text (json : String)
  | injectionScope (scopeName : String)

namespace RegistryCall

variable (E : Engine)

/-- Does what a call asks for. A grammar that is added gets a number. -/
def perform : RegistryCall → Registering (Option GrammarId)
  | grammar g => some <$> Registering.add g
  | definition d => some <$> Registering.load E (.ok d)
  | text json => some <$> Registering.load E (GrammarDefinition.ofString json)
  | injectionScope scopeName => do
    Registering.addInjectionScope scopeName
    pure none

/-- The grammar that a call is to add, if it is about one and that one can be loaded. -/
def grammar? : RegistryCall → Option Grammar
  | grammar g => some g
  | definition d => (Grammar.load (.ok d) E).result.toOption
  | text json => (Grammar.load (GrammarDefinition.ofString json) E).result.toOption
  | injectionScope _ => none

/-- The registry that a call leaves, whether it fails or not. -/
def leaves (r : Registry) (c : RegistryCall) : Registry :=
  match c.perform E r with
  | .ok _ r' | .error _ r' => r'

/-- The registry that some calls leave. -/
def after (r : Registry) (calls : List RegistryCall) : Registry :=
  calls.foldl (leaves E) r

/-- The grammars whose calls did not fail, in order. -/
def added (r : Registry) : List RegistryCall → List Grammar
  | [] => []
  | c :: calls =>
    match c.perform E r with
    | .ok _ r' => (c.grammar? E).toList ++ added r' calls
    | .error _ r' => added r' calls

/-! ### One call -/

/-- A grammar is added, or the registry is full and stays as it was. -/
theorem add_cases (g : Grammar) (r : Registry) :
    (∃ failure, Registry.capacity ≤ r.grammars.size ∧
        Registering.add g r = .error failure r) ∨
      ∃ id r', r.add g = .ok (id, r') ∧ Registering.add g r = .ok id r' := by
  rw [Registering.add_apply]
  cases hadd : r.add g with
  | error e => exact .inl ⟨.error e, Registry.capacity_le_of_add_eq_error hadd, rfl⟩
  | ok added => exact .inr ⟨added.1, added.2, rfl, rfl⟩

/-- A grammar is loaded and added, or it is refused or the registry is full, and then the registry
stays as it was. -/
theorem load_cases (d : Except GrammarError GrammarDefinition) (r : Registry) :
    (∃ failure, ((Grammar.load d E).result.toOption = none ∨
          Registry.capacity ≤ r.grammars.size) ∧
        Registering.load E d r = .error failure r) ∨
      ∃ g id r', (Grammar.load d E).result.toOption = some g ∧ r.add g = .ok (id, r') ∧
        Registering.load E d r = .ok id r' := by
  rw [Registering.load]
  cases (Grammar.load d E).result with
  | error failure => exact .inl ⟨failure, .inl rfl, rfl⟩
  | ok g =>
    rcases add_cases g r with ⟨failure, hfull, hperform⟩ | ⟨id, r', hadd, hperform⟩
    · exact .inl ⟨failure, .inr hfull, hperform⟩
    · exact .inr ⟨g, id, r', rfl, hadd, hperform⟩

theorem some_map_apply_of_ok {x : Registering GrammarId} {r r' : Registry} {id : GrammarId}
    (h : x r = .ok id r') : (some <$> x) r = .ok (some id) r' := by
  show EStateM.map some x r = _
  rw [EStateM.map, h]

theorem some_map_apply_of_error {x : Registering GrammarId} {r r' : Registry} {failure : Failure}
    (h : x r = .error failure r') : (some <$> x) r = .error failure r' := by
  show EStateM.map some x r = _
  rw [EStateM.map, h]

/-- **A call fails and changes nothing, or it sets an injection scope, or it adds the grammar that
it is about.** It only fails if that grammar cannot be loaded or there is no room for it. -/
theorem perform_cases (c : RegistryCall) (r : Registry) :
    (∃ failure, (c.grammar? E = none ∨ Registry.capacity ≤ r.grammars.size) ∧
        c.perform E r = .error failure r) ∨
      (∃ scopeName, c = .injectionScope scopeName ∧
        c.perform E r = .ok none (r.addInjectionScope scopeName)) ∨
      ∃ g id r', c.grammar? E = some g ∧ r.add g = .ok (id, r') ∧
        c.perform E r = .ok (some id) r' := by
  cases c with
  | grammar g =>
    rcases add_cases g r with ⟨failure, hfull, hperform⟩ | ⟨id, r', hadd, hperform⟩
    · exact .inl ⟨failure, .inr hfull, some_map_apply_of_error hperform⟩
    · exact .inr (.inr ⟨g, id, r', rfl, hadd, some_map_apply_of_ok hperform⟩)
  | definition d =>
    rcases load_cases E (.ok d) r with ⟨failure, hwhy, hperform⟩ | ⟨g, id, r', hg, hadd, hperform⟩
    · exact .inl ⟨failure, hwhy, some_map_apply_of_error hperform⟩
    · exact .inr (.inr ⟨g, id, r', hg, hadd, some_map_apply_of_ok hperform⟩)
  | text json =>
    rcases load_cases E (GrammarDefinition.ofString json) r with
      ⟨failure, hwhy, hperform⟩ | ⟨g, id, r', hg, hadd, hperform⟩
    · exact .inl ⟨failure, hwhy, some_map_apply_of_error hperform⟩
    · exact .inr (.inr ⟨g, id, r', hg, hadd, some_map_apply_of_ok hperform⟩)
  | injectionScope scopeName => exact .inr (.inl ⟨scopeName, rfl, rfl⟩)

variable {E} {c : RegistryCall} {r r' : Registry}

/-- **A call that fails leaves the registry as it was**, and it fails because there is no grammar or
no room. -/
theorem eq_of_perform_eq_error {failure : Failure} (h : c.perform E r = .error failure r') :
    r' = r ∧ (c.grammar? E = none ∨ Registry.capacity ≤ r.grammars.size) := by
  rcases perform_cases E c r with
    ⟨_, hwhy, hperform⟩ | ⟨_, -, hperform⟩ | ⟨_, _, _, -, -, hperform⟩
  all_goals rw [hperform] at h; cases h
  exact ⟨rfl, hwhy⟩

/-- A call that returns an identifier has added the grammar that it stands for. -/
theorem exists_of_perform_eq_some {id : GrammarId} (h : c.perform E r = .ok (some id) r') :
    ∃ g, c.grammar? E = some g ∧ r.add g = .ok (id, r') := by
  rcases perform_cases E c r with
    ⟨_, -, hperform⟩ | ⟨_, -, hperform⟩ | ⟨g, _, _, hg, hadd, hperform⟩
  all_goals rw [hperform] at h; cases h
  exact ⟨g, hg, hadd⟩

/-! ### Any calls -/

variable (E)

/-- No call takes a grammar away. -/
theorem extends_leaves (r : Registry) (c : RegistryCall) : r.Extends (leaves E r c) := by
  rw [leaves]
  rcases perform_cases E c r with
    ⟨failure, -, hperform⟩ | ⟨scopeName, -, hperform⟩ | ⟨g, id, r', -, hadd, hperform⟩
  · rw [hperform]
    exact .refl r
  · rw [hperform]
    exact Registry.extends_addInjectionScope scopeName
  · rw [hperform]
    exact Registry.extends_add hadd

/-- Numbers keep their meaning, whatever is called. -/
theorem extends_after (r : Registry) (calls : List RegistryCall) :
    r.Extends (after E r calls) := by
  induction calls generalizing r with
  | nil => exact .refl r
  | cons c calls ih => exact (extends_leaves E r c).trans (ih _)

/-- The registry that calls leave records those before, and then those that were added. -/
theorem records_after {gs : List Grammar} (h : r.Records gs)
    (calls : List RegistryCall) : (after E r calls).Records (gs ++ added E r calls) := by
  induction calls generalizing r gs with
  | nil => rwa [added, List.append_nil]
  | cons c calls ih =>
    rw [after, List.foldl_cons, ← after, leaves, added]
    rcases perform_cases E c r with
      ⟨failure, -, hperform⟩ | ⟨scopeName, rfl, hperform⟩ | ⟨g, id, r', hg, hadd, hperform⟩
    · rw [hperform]
      exact ih h
    · rw [hperform]
      exact ih (h.addInjectionScope scopeName)
    · rw [hperform, hg]
      have hnext := ih (h.add hadd)
      rwa [List.append_assoc] at hnext

/-- **A registry keeps what was added to it, and finds the last grammar of a name.** After any
calls, of which some may have failed, `gs` are the grammars whose calls did not fail:

* a call that fails changes nothing, and only fails if its grammar cannot be loaded or there is no
room for it; one that adds a grammar puts it at the end and gives its number;
* identifiers in the maps are in range, and whatever is called keep denoting the same grammar;
* the grammar of a scope name is the last one of it, and the grammar of a name is the last one of
the name if it is not empty and there is one, and else that of the scope name;
* an include of another grammar never leads to a grammar that was replaced, nor is an injection
from one that was replaced active in the documents of another. -/
theorem history (calls : List RegistryCall) :
    ∃ r gs, after E {} calls = r ∧ added E {} calls = gs ∧ r.grammars.toList = gs ∧
      (∀ (c : RegistryCall) failure r', c.perform E r = .error failure r' →
        r' = r ∧ (c.grammar? E = none ∨ Registry.capacity ≤ r.grammars.size)) ∧
      (∀ (c : RegistryCall) id r', c.perform E r = .ok (some id) r' → ∃ g, c.grammar? E = some g ∧
        r'.grammar id = .ok g ∧ r'.grammars.toList = gs ++ [g]) ∧
      (∀ (name : String) id, r.byName[name]? = some id ∨ r.byScopeName[name]? = some id →
        id < r.grammars.size) ∧
      (∀ more, r.Extends (after E r more)) ∧
      (∀ scopeName, IsLast (·.scopeName = scopeName) gs (r.idByScopeName? scopeName)) ∧
      (∀ name, ∃ ofName ofScope, IsLast (fun g ↦ name ≠ "" ∧ g.name = name) gs ofName ∧
        IsLast (·.scopeName = name) gs ofScope ∧ r.id? name = ofName.or ofScope) ∧
      (∀ base ref scopeName entry target,
        r.resolve base ref (.grammar scopeName entry) = .ok (some target) →
          IsLast (·.scopeName = scopeName) gs (some target.grammar) ∧
            ¬Registry.IsReplaced gs target.grammar) ∧
      (∀ base injections, r.injectionsFor base = .ok injections → ∀ q ∈ injections,
        (q.1 = base ∧ ∃ g, r.grammar base = .ok g ∧ q.2 ∈ g.injections) ∨
          (∃ g, r.grammar q.1 = .ok g ∧ g.exported = some q.2) ∧
            ¬Registry.IsReplaced gs q.1) := by
  have h : (after E {} calls).Records (added E {} calls) :=
    records_after E Registry.records_empty calls
  generalize after E {} calls = r at h ⊢
  generalize added E {} calls = gs at h ⊢
  refine ⟨r, gs, rfl, rfl, h.grammars, fun c failure r' ↦ eq_of_perform_eq_error,
    fun c id r' hadded ↦ ?_, fun name id hid ↦ hid.elim h.lt_of_byName h.lt_of_byScopeName,
    extends_after E r, h.byScopeName, h.exists_id?_eq,
    fun base ref scopeName entry target htarget ↦
      ⟨h.isLast_of_resolve htarget, Registry.not_isReplaced (h.isLast_of_resolve htarget)⟩,
    fun base injections hinjections q hq ↦ ?_⟩
  · obtain ⟨g, hg, hadd⟩ := exists_of_perform_eq_some hadded
    have hnext := h.add hadd
    obtain ⟨-, hid, -⟩ := Registry.add_eq_ok_iff.1 hadd
    refine ⟨g, hg, hnext.grammar_eq_ok_iff.2 ?_, hnext.grammars⟩
    rw [hid, ← h.length_eq, List.getElem?_concat_length]
  · rcases h.of_mem_injectionsFor hinjections hq with
      ⟨hbase, g, hg, hi⟩ | ⟨-, g, hg, hexported, hlast⟩
    · exact .inl ⟨hbase, g, h.grammar_eq_ok_iff.2 hg, hi⟩
    · exact .inr ⟨⟨g, h.grammar_eq_ok_iff.2 hg, hexported⟩, Registry.not_isReplaced hlast⟩

/-- Three calls, of which the second fails and the third replaces what the first added. -/
def replacing : List RegistryCall :=
  [.definition { scopeName := "text" }, .text "",
    .definition { name := "Text", scopeName := "text" }]

/-- The grammar that was replaced keeps its number, but is no longer found. -/
theorem history_replacing :
    Registry.IsReplaced (added .machine {} replacing) 0 ∧
      (after .machine {} replacing).idByScopeName? "text" = some 1 ∧
      (after .machine {} replacing).id? "Text" = some 1 ∧
      ∃ g, (after .machine (after .machine {} replacing) replacing).grammar 0 = .ok g ∧
        g.name = "" := by
  have hadded : ∃ g g' : Grammar, added .machine {} replacing = [g, g'] ∧ g.name = "" ∧
      g'.name = "Text" ∧ g.scopeName = "text" ∧ g'.scopeName = "text" :=
    ⟨_, _, rfl, rfl, rfl, rfl, rfl⟩
  obtain ⟨g, g', hadded, hname, hname', hscope, hscope'⟩ := hadded
  obtain ⟨r, gs, hr, hgs, hgrammars, -, -, -, hextends, hlast, hlastNamed, -, -⟩ :=
    history .machine replacing
  rw [hr, hgs]
  obtain rfl := hgs.symm.trans hadded
  have hid : ∀ {p : Grammar → Prop} {last : Option Nat}, IsLast p [g, g'] last → p g' →
      last = some 1 := by
    intro p last h hp
    cases last with
    | none => exact (h g' (by simp) hp).elim
    | some i =>
      have hlt : i < 2 := h.lt
      obtain ⟨_, -, -, hmax⟩ := h
      have hle : 1 ≤ i := hmax 1 g' rfl hp
      rw [show i = 1 by omega]
  obtain ⟨ofName, _, hofName, -, hid?⟩ := hlastNamed "Text"
  refine ⟨⟨g, rfl, 1, g', rfl, Nat.one_pos, hscope'.trans hscope.symm⟩,
    hid (hlast "text") hscope', ?_, g, hextends replacing 0 g ?_, hname⟩
  · rw [hid?, hid hofName ⟨by decide, hname'⟩]
    rfl
  · rw [Registry.grammar_eq_ok_iff, ← Array.getElem?_toList, hgrammars]
    rfl

end RegistryCall

end ScopeGrammar
