import Mathlib.Data.List.DropRight
import Mathlib.Data.List.Forall2
import Mathlib.Data.List.Nodup
import ScopeGrammar.Scope.Atoms

/-!
# Interned names

However many names are made from a table of atoms, and whatever comes between them, the table stays
exact (`AtomTable.IsExact`): its segments are distinct, and it gives an atom to just the segments it
has under that atom. A step adds a segment at the end or nothing (`Interning.atom_apply`), so that
an atom stands for its segment ever after (`AtomTable.Extends`), and in an exact table atoms and
segments stand for each other one to one.

This is what names rest on that are compared by atoms: the segments can be had again from every
later table, and names are equal, or begin one another, as their segments do
(`AtomTable.interned_faithfully`).
-/

namespace ScopeGrammar

/-! ### The segments of a text -/

/-- The parts of a text between its dots, without white space around the text and without parts that
are empty. -/
def dottedParts (text : String) : List String :=
  ((((text.toList.dropWhile isBlank).rdropWhile isBlank).splitOn '.').filter (· ≠ [])).map
    String.ofList

/-- Reading pieces from the middle of one goes on with that piece. -/
theorem go_eq_filter_splitOnP (sep : Char → Bool) (cs piece : List Char) :
    piecesBy.go sep cs piece =
      ((cs.splitOnP sep).modifyHead (piece.reverse ++ ·)).filter (· ≠ []) := by
  induction cs generalizing piece with
  | nil => cases piece <;> simp [piecesBy.go]
  | cons c cs ih =>
    have hnil : piecesBy.go sep cs [] = (cs.splitOnP sep).filter (· ≠ []) := by
      rw [ih []]
      cases cs.splitOnP sep <;> rfl
    rw [List.splitOnP_cons_eq_if_modifyHead]
    by_cases hc : sep c = true
    · rw [if_pos hc]
      cases piece with
      | nil => simp [piecesBy.go, hc, hnil]
      | cons d piece => simp [piecesBy.go, hc, hnil]
    · rw [if_neg hc]
      have hgo : piecesBy.go sep (c :: cs) piece = piecesBy.go sep cs (c :: piece) := by
        simp [piecesBy.go, hc]
      rw [hgo, ih, List.modifyHead_modifyHead]
      simp only [List.reverse_cons, List.append_assoc, List.singleton_append]
      rfl

/-- The pieces between separators are what a split leaves when empty parts are dropped. -/
theorem piecesBy_eq_filter_splitOnP (sep : Char → Bool) (cs : List Char) :
    piecesBy sep cs = (cs.splitOnP sep).filter (· ≠ []) := by
  rw [piecesBy, go_eq_filter_splitOnP]
  cases cs.splitOnP sep <;> rfl

/-- The segments of the name in a text are its dotted parts. -/
theorem ofString_eq (text : String) : ScopeName.ofString text = ⟨dottedParts text⟩ := by
  rw [ScopeName.ofString, ScopeName.ofList, piecesBy_eq_filter_splitOnP]
  rfl

/-! ### Steps -/

namespace Interning

variable {α β : Type}

/-- A sequence interns with the table that its first part leaves. -/
theorem bind_apply (x : Interning α) (f : α → Interning β) (t : AtomTable) :
    (x >>= f) t =
      match x t with
      | .ok a t' => f a t'
      | .error e t' => .error e t' := by
  change EStateM.bind x f t = _
  rw [EStateM.bind]
  cases x t <;> rfl

/-- Changing a result leaves the table. -/
theorem map_apply (f : α → β) (x : Interning α) (t : AtomTable) :
    (f <$> x) t =
      match x t with
      | .ok a t' => .ok (f a) t'
      | .error e t' => .error e t' := by
  change EStateM.map f x t = _
  rw [EStateM.map]
  cases x t <;> rfl

/-- **What a step does**: it finds the atom of a segment, gives it one, or finds the table full. -/
theorem atom_apply (segment : String) (t : AtomTable) :
    atom segment t =
      match t.atoms[segment]? with
      | some a => .ok a t
      | none =>
        if t.segments.size < UInt32.size then .ok t.nextAtom (t.add segment)
        else .error .tableFull t := by
  have hget : (get : Interning AtomTable) t = .ok t t := rfl
  rw [atom, bind_apply, hget]
  dsimp only
  cases t.atoms[segment]? with
  | some a => rfl
  | none =>
    by_cases hsize : t.segments.size < UInt32.size
    · simp only [if_pos hsize]
      rfl
    · simp only [if_neg hsize]
      rfl

end Interning

/-! ### Exact tables -/

namespace AtomTable

variable {t t' t'' : AtomTable} {a : UInt32} {s : String} {as : List UInt32} {ss : List String}

/-- An atom has been given to a segment. -/
def Names (t : AtomTable) (a : UInt32) (s : String) : Prop :=
  t.segments[a.toNat]? = some s

/-- The segments of a table are distinct, and its atoms are just the places of the segments. -/
structure IsExact (t : AtomTable) : Prop where
  size_le : t.segments.size ≤ UInt32.size
  nodup : t.segments.toList.Nodup
  getElem?_atoms : ∀ a s, t.atoms[s]? = some a ↔ t.Names a s

/-- A table has the segments of an earlier one at their places. -/
def Extends (t' t : AtomTable) : Prop :=
  t.segments.toList <+: t'.segments.toList

/-- The empty table is exact. -/
theorem isExact_empty : ({} : AtomTable).IsExact where
  size_le := Nat.zero_le _
  nodup := List.nodup_nil
  getElem?_atoms a s := by simp [Names]

/-- While there is room, the next atom is the number of segments. -/
theorem toNat_nextAtom (hsize : t.segments.size < UInt32.size) :
    t.nextAtom.toNat = t.segments.size :=
  UInt32.toNat_ofNat_of_lt' hsize

/-- A table with one more segment has one more atom, and all others stand for what they did. -/
theorem names_add_iff (hsize : t.segments.size < UInt32.size) {segment : String} :
    (t.add segment).Names a s ↔ t.Names a s ∨ a = t.nextAtom ∧ s = segment := by
  rw [Names, Names, add, Array.getElem?_push, ← UInt32.toNat_inj, toNat_nextAtom hsize]
  split
  · rename_i ha
    rw [ha, Array.getElem?_eq_none (Nat.le_refl _)]
    simp [eq_comm]
  · rename_i ha
    simp [ha]

/-- A segment without an atom is none of the table. -/
theorem IsExact.notMem_of_none (h : t.IsExact) {segment : String}
    (hnone : t.atoms[segment]? = none) : segment ∉ t.segments.toList := by
  intro hmem
  obtain ⟨i, hi, hs⟩ := List.getElem_of_mem hmem
  have hatom : t.Names (.ofNat i) segment := by
    rw [Names, UInt32.toNat_ofNat_of_lt' (Nat.lt_of_lt_of_le hi h.size_le)]
    exact Array.getElem?_eq_some_iff.mpr ⟨hi, hs⟩
  rw [(h.getElem?_atoms _ _).mpr hatom] at hnone
  cases hnone

/-- **A new segment leaves the table exact.** -/
theorem IsExact.add (h : t.IsExact) {segment : String} (hnone : t.atoms[segment]? = none)
    (hsize : t.segments.size < UInt32.size) : (t.add segment).IsExact where
  size_le := by
    rw [AtomTable.add, Array.size_push]
    exact hsize
  nodup := by
    rw [AtomTable.add, Array.toList_push]
    exact h.nodup.append (List.nodup_singleton _)
      (List.disjoint_singleton.mpr (h.notMem_of_none hnone))
  getElem?_atoms a s := by
    rw [names_add_iff hsize, ← h.getElem?_atoms, AtomTable.add, Std.HashMap.getElem?_insert]
    by_cases hs : segment = s
    · subst hs
      simp [hnone, eq_comm]
    · simp [hs, Ne.symm hs]

theorem extends_refl (t : AtomTable) : t.Extends t :=
  List.prefix_rfl

theorem Extends.trans (h : t''.Extends t') (h' : t'.Extends t) : t''.Extends t :=
  List.IsPrefix.trans h' h

/-- A table with one more segment extends the one before. -/
theorem extends_add (t : AtomTable) (segment : String) : (t.add segment).Extends t := by
  rw [Extends, add, Array.toList_push]
  exact List.prefix_append _ _

/-- An atom stands for the same segment in every later table. -/
theorem Names.extends (h : t.Names a s) (ht : t'.Extends t) : t'.Names a s := by
  obtain ⟨rest, hrest⟩ := ht
  rw [Names, ← Array.getElem?_toList] at h ⊢
  obtain ⟨ha, -⟩ := List.getElem?_eq_some_iff.mp h
  rw [← hrest, List.getElem?_append_left ha, h]

/-- **In an exact table atoms and segments stand for each other.** -/
theorem IsExact.biUnique (h : t.IsExact) : Relator.BiUnique t.Names := by
  constructor
  · intro a s b ha hb
    rw [← h.getElem?_atoms] at ha hb
    exact Option.some.inj (ha.symm.trans hb)
  · intro a s r hs hr
    exact Option.some.inj (hs.symm.trans hr)

/-- Some atoms have been given to some segments. -/
def Spells (t : AtomTable) (as : List UInt32) (ss : List String) : Prop :=
  List.Forall₂ t.Names as ss

/-- Atoms spell the same name in every later table. -/
theorem Spells.extends (h : t.Spells as ss) (ht : t'.Extends t) : t'.Spells as ss :=
  h.imp fun _ _ hn ↦ hn.extends ht

end AtomTable

/-- Rows that correspond one to one begin each other as the rows that they correspond to do. -/
theorem prefix_iff_of_forall₂ {α β : Type} {R : α → β → Prop} (hR : Relator.BiUnique R)
    {as cs : List α} {bs ds : List β} (h : List.Forall₂ R as bs) (h' : List.Forall₂ R cs ds) :
    as <+: cs ↔ bs <+: ds := by
  induction h generalizing cs ds with
  | nil => exact iff_of_true List.nil_prefix List.nil_prefix
  | @cons a b as bs hab _ ih =>
    cases h' with
    | nil => simp
    | @cons c d cs ds hcd h' =>
      have hheads : a = c ↔ b = d := Relator.rel_eq hR hab hcd
      rw [List.cons_prefix_cons, List.cons_prefix_cons, hheads, ih h']

/-! ### Making names -/

namespace Interning

variable {t : AtomTable}

/-- A step keeps an exact table exact, and what it gives or finds is the atom of the segment. -/
theorem atom_of_isExact (h : t.IsExact) (s : String) :
    ∃ t' : AtomTable, t'.IsExact ∧ t'.Extends t ∧
      ((∃ a, atom s t = .ok a t' ∧ t'.Names a s ∧ t'.segments.size ≤ t.segments.size + 1) ∨
        atom s t = .error .tableFull t' ∧ UInt32.size ≤ t.segments.size) := by
  rw [atom_apply]
  cases ha : t.atoms[s]? with
  | some a =>
    exact ⟨t, h, t.extends_refl, .inl ⟨a, rfl, (h.getElem?_atoms a s).mp ha, Nat.le_succ _⟩⟩
  | none =>
    by_cases hsize : t.segments.size < UInt32.size
    · refine ⟨t.add s, h.add ha hsize, t.extends_add s, .inl ⟨t.nextAtom, if_pos hsize, ?_, ?_⟩⟩
      · exact (AtomTable.names_add_iff hsize).mpr (.inr ⟨rfl, rfl⟩)
      · rw [AtomTable.add, Array.size_push]
    · exact ⟨t, h, t.extends_refl, .inr ⟨if_neg hsize, Nat.le_of_not_lt hsize⟩⟩

/-- **All steps together keep an exact table exact**: it grows at its end only, and holds the
segments under their atoms if it was not too small for them. -/
theorem mapM_atom_of_isExact (h : t.IsExact) (ss : List String) :
    ∃ t' : AtomTable, t'.IsExact ∧ t'.Extends t ∧
      ((∃ as, ss.mapM atom t = .ok as t' ∧ t'.Spells as ss) ∨
        ss.mapM atom t = .error .tableFull t' ∧ UInt32.size < t.segments.size + ss.length) := by
  induction ss generalizing t with
  | nil => exact ⟨t, h, t.extends_refl, .inl ⟨[], rfl, .nil⟩⟩
  | cons s ss ih =>
    rw [List.mapM_cons, List.length_cons]
    obtain ⟨t₁, h₁, hext₁, ⟨a, hstep, hname, hle⟩ | ⟨hstep, hfull⟩⟩ := atom_of_isExact h s
    · obtain ⟨t₂, h₂, hext₂, ⟨as, hrun, hspells⟩ | ⟨hrun, hfull⟩⟩ := ih h₁
      · refine ⟨t₂, h₂, hext₂.trans hext₁, .inl ⟨a :: as, ?_, .cons (hname.extends hext₂) hspells⟩⟩
        simp only [bind_apply, hstep, hrun]
        rfl
      · refine ⟨t₂, h₂, hext₂.trans hext₁, .inr ⟨?_, by omega⟩⟩
        simp only [bind_apply, hstep, hrun]
    · refine ⟨t₁, h₁, hext₁, .inr ⟨?_, by omega⟩⟩
      simp only [bind_apply, hstep]

/-- A call makes the name of its text, or the table is too small for it. -/
theorem name_of_isExact (h : t.IsExact) (text : String) :
    ∃ t' : AtomTable, t'.IsExact ∧ t'.Extends t ∧
      ((∃ n, name text t = .ok n t' ∧ t'.Spells n.atoms (ScopeName.ofString text).segments) ∨
        name text t = .error .tableFull t' ∧
          UInt32.size < t.segments.size + (ScopeName.ofString text).segments.length) := by
  rw [name, map_apply]
  obtain ⟨t', h', hext, ⟨as, hrun, hspells⟩ | ⟨hrun, hfull⟩⟩ :=
    mapM_atom_of_isExact h (ScopeName.ofString text).segments
  · exact ⟨t', h', hext, .inl ⟨⟨as⟩, by rw [hrun], hspells⟩⟩
  · exact ⟨t', h', hext, .inr ⟨by rw [hrun], hfull⟩⟩

/-- Asking for the segment of an atom gives the one that it stands for. -/
theorem segment_of_names {a : UInt32} {s : String} (h : t.Names a s) : segment a t = .ok s t := by
  have hget : (get : Interning AtomTable) t = .ok t t := rfl
  have hs : t.segments[a.toNat]? = some s := h
  simp only [segment, bind_apply, hget, hs]
  rfl

/-- Asking for the segments of a name gives those that its atoms spell. -/
theorem mapM_segment_of_spells {as : List UInt32} {ss : List String} (h : t.Spells as ss) :
    as.mapM segment t = .ok ss t := by
  induction h with
  | nil => rfl
  | cons hname _ ih =>
    simp only [List.mapM_cons, bind_apply, segment_of_names hname, ih]
    rfl

/-- Atoms are resolved to the segments that they were given to, and the table is left as it is. -/
theorem resolve_of_spells {n : InternedName} {ss : List String} (h : t.Spells n.atoms ss) :
    resolve n t = .ok ⟨ss⟩ t := by
  rw [resolve, map_apply, mapM_segment_of_spells h]

end Interning

/-! ### Histories -/

namespace AtomTable

/-- The table that is left by a call that is to make a name, whether it fails or not. -/
def leaves (t : AtomTable) (text : String) : AtomTable :=
  match Interning.name text t with
  | .ok _ t' | .error _ t' => t'

/-- The table that is left by some calls. -/
def after (t : AtomTable) (texts : List String) : AtomTable :=
  texts.foldl leaves t

/-- The names that some calls make, each with the text that it is made from. -/
def made (t : AtomTable) : List String → List (String × InternedName)
  | [] => []
  | text :: texts =>
    match Interning.name text t with
    | .ok n t' => (text, n) :: made t' texts
    | .error _ t' => made t' texts

variable {t : AtomTable}

/-- A history of two parts is the second part after the first one. -/
theorem after_append (t : AtomTable) (texts later : List String) :
    t.after (texts ++ later) = (t.after texts).after later :=
  List.foldl_append

/-- **Calls keep an exact table exact**, and it grows at its end only. -/
theorem IsExact.after (h : t.IsExact) (texts : List String) :
    (t.after texts).IsExact ∧ (t.after texts).Extends t := by
  induction texts generalizing t with
  | nil => exact ⟨h, t.extends_refl⟩
  | cons text texts ih =>
    obtain ⟨t', h', hext, hcall⟩ := Interning.name_of_isExact h text
    have hleaves : t.leaves text = t' := by
      rcases hcall with ⟨n, hcall, -⟩ | ⟨hcall, -⟩ <;> rw [leaves, hcall]
    rw [AtomTable.after, List.foldl_cons, hleaves]
    exact ⟨(ih h').1, (ih h').2.trans hext⟩

/-- What was made is spelled in the table that is left. -/
theorem IsExact.spells_of_made (h : t.IsExact) {texts : List String} {p : String × InternedName}
    (hp : p ∈ t.made texts) :
    (t.after texts).Spells p.2.atoms (ScopeName.ofString p.1).segments := by
  induction texts generalizing t with
  | nil => cases hp
  | cons text texts ih =>
    obtain ⟨t', h', -, ⟨n, hcall, hspells⟩ | ⟨hcall, -⟩⟩ := Interning.name_of_isExact h text
    · rw [AtomTable.after, List.foldl_cons, leaves, hcall]
      rw [made, hcall, List.mem_cons] at hp
      rcases hp with rfl | hp
      · exact hspells.extends (h'.after texts).2
      · exact ih h' hp
    · rw [AtomTable.after, List.foldl_cons, leaves, hcall]
      rw [made, hcall] at hp
      exact ih h' hp

/-- **Names can be compared by their atoms**: they are equal, and cover each other, as the names
with their segments do. -/
theorem IsExact.compare_made (h : t.IsExact) {texts : List String} {p q : String × InternedName}
    (hp : p ∈ t.made texts) (hq : q ∈ t.made texts) :
    (p.2 = q.2 ↔ ScopeName.ofString p.1 = ScopeName.ofString q.1) ∧
      p.2.covers q.2 = (ScopeName.ofString p.1).covers (ScopeName.ofString q.1) := by
  have hunique := (h.after texts).1.biUnique
  have hpspells := h.spells_of_made hp
  have hqspells := h.spells_of_made hq
  have heq : p.2.atoms = q.2.atoms ↔
      (ScopeName.ofString p.1).segments = (ScopeName.ofString q.1).segments :=
    Relator.rel_eq hunique.forall₂ hpspells hqspells
  constructor
  · rw [InternedName.ext_iff, heq]
    exact ⟨fun h ↦ congrArg ScopeName.mk h, fun h ↦ congrArg ScopeName.segments h⟩
  · rw [InternedName.covers, ScopeName.covers, Bool.eq_iff_iff, List.isPrefixOf_iff_prefix,
      List.isPrefixOf_iff_prefix]
    exact prefix_iff_of_forall₂ hunique hpspells hqspells

/-- **Interning is faithful.** Whatever names are made from an empty table, in whatever order, the
table is exact; the segments of each name are for ever those of the text that it was made from;
names are equal, and begin one another, as their segments do; and a call makes a name as long as
there are atoms for its segments. -/
theorem interned_faithfully (texts : List String) :
    (after {} texts).IsExact ∧
    (∀ p ∈ made {} texts, ∀ later,
      Interning.resolve p.2 (after {} (texts ++ later)) =
        .ok ⟨dottedParts p.1⟩ (after {} (texts ++ later))) ∧
    (∀ p ∈ made {} texts, ∀ q ∈ made {} texts,
      (p.2 = q.2 ↔ dottedParts p.1 = dottedParts q.1) ∧
      (p.2.covers q.2 = true ↔ dottedParts p.1 <+: dottedParts q.1)) ∧
    ∀ text, (after {} texts).segments.size + (dottedParts text).length ≤ UInt32.size →
      ∃ n t', Interning.name text (after {} texts) = .ok n t' := by
  have hexact := (isExact_empty.after texts).1
  refine ⟨hexact, fun p hp later ↦ ?_, fun p hp q hq ↦ ?_, fun text hroom ↦ ?_⟩
  · have hspells := isExact_empty.spells_of_made hp
    rw [ofString_eq] at hspells
    rw [after_append]
    exact Interning.resolve_of_spells (hspells.extends (hexact.after later).2)
  · obtain ⟨heq, hcovers⟩ := isExact_empty.compare_made hp hq
    rw [heq, hcovers, ofString_eq, ofString_eq, ScopeName.mk.injEq, ScopeName.covers,
      List.isPrefixOf_iff_prefix]
    exact ⟨Iff.rfl, Iff.rfl⟩
  · obtain ⟨t', -, -, ⟨n, hcall, -⟩ | ⟨-, hfull⟩⟩ := Interning.name_of_isExact hexact text
    · exact ⟨n, t', hcall⟩
    · rw [ofString_eq] at hfull
      exact absurd hroom (Nat.not_le_of_lt hfull)

/-- The second name gets one new atom, and the first is still there when more have been made. -/
theorem interned_faithfully_longer :
    made {} ["a.b", " a..b.c"] = [("a.b", ⟨[0, 1]⟩), (" a..b.c", ⟨[0, 1, 2]⟩)] ∧
      dottedParts "a.b" <+: dottedParts " a..b.c" ∧
      Interning.resolve ⟨[0, 1]⟩ (after {} ["a.b", " a..b.c", "x"]) =
        .ok ⟨["a", "b"]⟩ (after {} ["a.b", " a..b.c", "x"]) := by
  have hmade : made {} ["a.b", " a..b.c"] =
      [("a.b", ⟨[0, 1]⟩), (" a..b.c", ⟨[0, 1, 2]⟩)] := by
    have htwo : dottedParts "a.b" = ["a", "b"] := by decide
    have hthree : dottedParts " a..b.c" = ["a", "b", "c"] := by decide
    simp [made, Interning.name, ofString_eq, htwo, hthree, Interning.map_apply,
      Interning.bind_apply, Interning.atom_apply, add, nextAtom, UInt32.size,
      Std.HashMap.getElem_insert]
  obtain ⟨-, hresolve, hcompare, -⟩ := interned_faithfully ["a.b", " a..b.c"]
  rw [hmade] at hresolve hcompare
  refine ⟨hmade, ?_, hresolve _ List.mem_cons_self ["x"]⟩
  exact (hcompare _ List.mem_cons_self _ (List.mem_cons_of_mem _ List.mem_cons_self)).2.mp rfl

end AtomTable

end ScopeGrammar
