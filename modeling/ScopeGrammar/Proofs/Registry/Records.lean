import ScopeGrammar.Proofs.Registry.References
import ScopeGrammar.Registry.Candidates
import ScopeGrammar.Registry.Injections

/-!
# What a registry records

A registry is a function of the grammars that were added to it, in order, and of the injection
scopes: `Records` says that its maps lead to the last grammar of a scope name (`byScopeName`) and to
the last one of a name that is not empty (`byName`). Adding a grammar puts it at the end
(`Records.add`).

A grammar that was replaced, by a later one of its scope name, keeps its number (`extends_add`). But
no include of another grammar leads to it (`Records.isLast_of_resolve`), and it exports nothing
(`Records.of_mem_injectionsFor`).
-/

namespace ScopeGrammar

/-! ### The last item with a property -/

/-- The number is that of the last item with a property; there is none if no item has it. -/
def IsLast {α : Type} (p : α → Prop) (items : List α) : Option Nat → Prop
  | none => ∀ a ∈ items, ¬p a
  | some i => ∃ a, items[i]? = some a ∧ p a ∧ ∀ j b, items[j]? = some b → p b → j ≤ i

section IsLast

variable {α : Type} {p : α → Prop} {items : List α} {a : α} {last : Option Nat} {i : Nat}

/-- Nothing is the last one of none. -/
theorem isLast_nil : IsLast p [] none :=
  fun a h ↦ by cases h

/-- An item of a list with one more at its end is one of the list or that one. -/
theorem getElem?_append_singleton_eq_some_iff {b : α} :
    (items ++ [a])[i]? = some b ↔ items[i]? = some b ∨ i = items.length ∧ a = b := by
  rw [List.getElem?_append, List.getElem?_singleton]
  grind

/-- An item with the property that is put at the end is the last one. -/
theorem isLast_append_of_pos (h : p a) : IsLast p (items ++ [a]) (some items.length) := by
  refine ⟨a, by simp, h, fun j b hb _ ↦ ?_⟩
  have hj : j < (items ++ [a]).length := (List.getElem?_eq_some_iff.1 hb).1
  rw [List.length_append, List.length_singleton] at hj
  omega

/-- An item without the property changes nothing. -/
theorem IsLast.append_of_neg (hlast : IsLast p items last) (h : ¬p a) :
    IsLast p (items ++ [a]) last := by
  cases last with
  | none =>
    intro b hb
    rcases List.mem_append.1 hb with hb | hb
    · exact hlast b hb
    · rwa [List.mem_singleton.1 hb]
  | some i =>
    obtain ⟨b, hb, hpb, hlast⟩ := hlast
    refine ⟨b, getElem?_append_singleton_eq_some_iff.2 (.inl hb), hpb, fun j c hc hpc ↦ ?_⟩
    rcases getElem?_append_singleton_eq_some_iff.1 hc with hc | ⟨-, rfl⟩
    · exact hlast j c hc hpc
    · exact (h hpc).elim

/-- The last item that satisfies a condition has an index in range. -/
theorem IsLast.lt (h : IsLast p items (some i)) : i < items.length := by
  obtain ⟨a, ha, -, -⟩ := h
  exact (List.getElem?_eq_some_iff.1 ha).1

end IsLast

namespace Registry

variable {r r' : Registry} {g : Grammar} {id : GrammarId} {gs : List Grammar}

/-! ### Adding a grammar -/

/-- A grammar is added just if there is room for it, and it gets the next identifier. -/
theorem add_eq_ok_iff :
    r.add g = .ok (id, r') ↔
      r.grammars.size < capacity ∧ id = r.grammars.size ∧
        r' = { r with
          grammars := r.grammars.push g
          byScopeName := r.byScopeName.insert g.scopeName id
          byName := if g.name.isEmpty then r.byName else r.byName.insert g.name id } := by
  rw [add]
  split
  · rename_i h
    simp only [Except.ok.injEq, Prod.mk.injEq]
    constructor
    · rintro ⟨rfl, rfl⟩
      exact ⟨h, rfl, rfl⟩
    · rintro ⟨-, rfl, rfl⟩
      exact ⟨rfl, rfl⟩
  · rename_i h
    simp [h]

/-- A grammar is only refused for want of room. -/
theorem capacity_le_of_add_eq_error {e : GrammarError} (h : r.add g = .error e) :
    capacity ≤ r.grammars.size := by
  refine Nat.le_of_not_lt fun hlt ↦ ?_
  rw [add_eq_ok_iff.2 ⟨hlt, rfl, rfl⟩] at h
  cases h

/-- Numbers keep their meaning. -/
def Extends (r r' : Registry) : Prop :=
  ∀ id g, r.grammar id = .ok g → r'.grammar id = .ok g

theorem Extends.refl (r : Registry) : r.Extends r :=
  fun _ _ h ↦ h

theorem Extends.trans {r'' : Registry} (h : r.Extends r') (h' : r'.Extends r'') :
    r.Extends r'' :=
  fun id g hg ↦ h' id g (h id g hg)

/-- Adding a grammar leaves those that are there under their identifiers. -/
theorem extends_add (h : r.add g = .ok (id, r')) : r.Extends r' := by
  obtain ⟨-, -, rfl⟩ := add_eq_ok_iff.1 h
  intro id' g' hg'
  rw [grammar_eq_ok_iff] at hg' ⊢
  have hlt : id' < r.grammars.size := (Array.getElem?_eq_some_iff.1 hg').1
  rw [Array.getElem?_push, if_neg (Nat.ne_of_lt hlt), hg']

/-- Adding a scope for injections leaves all grammars. -/
theorem extends_addInjectionScope (scopeName : String) :
    r.Extends (r.addInjectionScope scopeName) := by
  rw [addInjectionScope]
  split <;> exact .refl _

/-! ### Records -/

/-- The registry holds the grammars, and its maps lead to the last ones of their names. -/
structure Records (r : Registry) (gs : List Grammar) : Prop where
  grammars : r.grammars.toList = gs
  byScopeName : ∀ scopeName, IsLast (·.scopeName = scopeName) gs (r.idByScopeName? scopeName)
  byName : ∀ name, IsLast (fun g ↦ name ≠ "" ∧ g.name = name) gs r.byName[name]?

/-- There is a later grammar of the same scope name. -/
def IsReplaced (gs : List Grammar) (id : GrammarId) : Prop :=
  ∃ g, gs[id]? = some g ∧ ∃ later g', gs[later]? = some g' ∧ id < later ∧ g'.scopeName = g.scopeName

/-- The last grammar of a scope name is not replaced by a later one. -/
theorem not_isReplaced {scopeName : String}
    (h : IsLast (·.scopeName = scopeName) gs (some id)) : ¬IsReplaced gs id := by
  rintro ⟨g, hg, later, g', hg', hlt, hsame⟩
  obtain ⟨g₀, hg₀, hname, hlast⟩ := h
  obtain rfl := Option.some.inj (hg.symm.trans hg₀)
  exact Nat.not_lt_of_le (hlast later g' hg' (hsame.trans hname)) hlt

/-- A registry begins with nothing recorded. -/
theorem records_empty : Records {} [] := by
  refine ⟨rfl, fun scopeName ↦ ?_, fun name ↦ ?_⟩
  · rw [idByScopeName?, Std.HashMap.getElem?_empty]
    exact isLast_nil
  · rw [Std.HashMap.getElem?_empty]
    exact isLast_nil

/-- **A grammar that is added is the last one of its names.** -/
theorem Records.add (h : r.Records gs) (hadd : r.add g = .ok (id, r')) :
    r'.Records (gs ++ [g]) := by
  obtain ⟨hgrammars, hbyScopeName, hbyName⟩ := h
  obtain ⟨-, rfl, rfl⟩ := add_eq_ok_iff.1 hadd
  have hsize : r.grammars.size = gs.length := by rw [← hgrammars, Array.length_toList]
  refine ⟨by simp [hgrammars], fun scopeName ↦ ?_, fun name ↦ ?_⟩
  · rw [idByScopeName?, Std.HashMap.getElem?_insert, hsize]
    split
    · rename_i heq
      exact isLast_append_of_pos (beq_iff_eq.1 heq)
    · rename_i hne
      exact (hbyScopeName scopeName).append_of_neg fun h ↦ hne (beq_iff_eq.2 h)
  · dsimp only
    split
    · rename_i hempty
      -- the name of the grammar is empty, which leaves the map as it is
      refine (hbyName name).append_of_neg fun ⟨hname, heq⟩ ↦ hname ?_
      rw [← heq, String.isEmpty_iff.1 hempty]
    · rename_i hempty
      rw [Std.HashMap.getElem?_insert, hsize]
      split
      · rename_i heq
        obtain rfl := beq_iff_eq.1 heq
        exact isLast_append_of_pos ⟨fun h ↦ hempty (String.isEmpty_iff.2 h), rfl⟩
      · rename_i hne
        exact (hbyName name).append_of_neg fun h ↦ hne (beq_iff_eq.2 h.2)

/-- What is recorded of grammars does not depend on the scopes for injections. -/
theorem Records.addInjectionScope (h : r.Records gs) (scopeName : String) :
    (r.addInjectionScope scopeName).Records gs := by
  rw [Registry.addInjectionScope]
  split
  · exact h
  · exact ⟨h.grammars, h.byScopeName, h.byName⟩

namespace Records

/-- As many grammars are recorded as the registry has. -/
theorem length_eq (h : r.Records gs) : gs.length = r.grammars.size := by
  rw [← h.grammars, Array.length_toList]

/-- The grammar of an identifier is the one that was added with it. -/
theorem grammar_eq_ok_iff (h : r.Records gs) : r.grammar id = .ok g ↔ gs[id]? = some g := by
  rw [Registry.grammar_eq_ok_iff, ← h.grammars, Array.getElem?_toList]

/-- A scope name leads to a grammar of the registry. -/
theorem lt_of_byScopeName (h : r.Records gs) {scopeName : String}
    (hid : r.byScopeName[scopeName]? = some id) : id < r.grammars.size := by
  have hlast := h.byScopeName scopeName
  rw [idByScopeName?, hid] at hlast
  exact h.length_eq ▸ hlast.lt

/-- A name leads to a grammar of the registry. -/
theorem lt_of_byName (h : r.Records gs) {name : String} (hid : r.byName[name]? = some id) :
    id < r.grammars.size := by
  have hlast := h.byName name
  rw [hid] at hlast
  exact h.length_eq ▸ hlast.lt

/-- Names are looked for before scope names. -/
theorem exists_id?_eq (h : r.Records gs) (name : String) :
    ∃ ofName ofScope, IsLast (fun g ↦ name ≠ "" ∧ g.name = name) gs ofName ∧
      IsLast (·.scopeName = name) gs ofScope ∧ r.id? name = ofName.or ofScope := by
  refine ⟨_, _, h.byName name, h.byScopeName name, ?_⟩
  rw [id?]
  cases r.byName[name]? <;> rfl

/-- An include of another grammar leads to the last one of its scope name. -/
theorem isLast_of_resolve (h : r.Records gs) {base : GrammarId} {ref target : RuleRef}
    {scopeName : String} {entry : Option String}
    (hresolve : r.resolve base ref (.grammar scopeName entry) = .ok (some target)) :
    IsLast (·.scopeName = scopeName) gs (some target.grammar) := by
  have hlast := h.byScopeName scopeName
  rw [resolve.eq_def] at hresolve
  dsimp only at hresolve
  split at hresolve
  · cases hresolve
  · rename_i id hid
    obtain rfl := Option.some.inj (Except.ok.inj hresolve)
    rwa [hid] at hlast
  · rename_i id name hid
    obtain ⟨g, -, hresolve⟩ := exists_of_bind_eq_ok hresolve
    obtain ⟨rule?, -, hresolve⟩ := exists_of_bind_eq_ok hresolve
    obtain ⟨rule, -, rfl⟩ := Option.map_eq_some_iff.1 (Except.ok.inj hresolve)
    rwa [hid] at hlast

/-- An injection into the documents of a grammar is its own, or exported by another one that is the
last of its scope name. -/
theorem of_mem_injectionsFor (h : r.Records gs) {base : GrammarId}
    {injections : List (GrammarId × Injection)}
    (hinjections : r.injectionsFor base = .ok injections)
    {q : GrammarId × Injection} (hq : q ∈ injections) :
    (q.1 = base ∧ ∃ g, gs[base]? = some g ∧ q.2 ∈ g.injections) ∨
      q.1 ≠ base ∧ ∃ g, gs[q.1]? = some g ∧ g.exported = some q.2 ∧
        IsLast (·.scopeName = g.scopeName) gs (some q.1) := by
  obtain ⟨g, hg, hinjections⟩ := exists_of_bind_eq_ok hinjections
  obtain rfl := Except.ok.inj hinjections
  rcases List.mem_append.1 hq with hq | hq
  · obtain ⟨i, hi, rfl⟩ := List.mem_map.1 hq
    exact .inl ⟨rfl, g, h.grammar_eq_ok_iff.1 hg, hi⟩
  · obtain ⟨⟨g', id⟩, hmem, hexported⟩ := List.mem_filterMap.1 hq
    dsimp only at hexported
    rw [exportedInjection?] at hexported
    split at hexported
    · contradiction
    · rename_i hactive
      simp only [Bool.or_eq_true, decide_eq_true_eq, bne_iff_ne, not_or, ne_eq,
        Decidable.not_not] at hactive
      obtain ⟨⟨hbase, hlast⟩, -⟩ := hactive
      obtain ⟨i, hi, rfl⟩ := Option.map_eq_some_iff.1 hexported
      rw [h.grammars, List.mem_zipIdx_iff_getElem?] at hmem
      exact .inr ⟨hbase, g', hmem, hi, hlast ▸ h.byScopeName g'.scopeName⟩

end Records

end Registry

end ScopeGrammar
