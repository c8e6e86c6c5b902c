import Mathlib.Data.List.Basic
import ScopeGrammar.Text.Property

/-!
# Looking up characters

A table holds a code point if one of its ranges does (`InRanges`). The look-up is a binary search,
which needs the ranges in ascending order: there it finds exactly the characters that the table
holds (`RangeTable.contains_iff`). A union puts ranges in order and joins those that meet, so its
own ranges ascend and hold what its tables hold (`RangeTable.contains_unionAll_iff`).

For the characters of words this says what the twelve tables they come from say (`isWord_iff`). All
of these tables begin with the digits or later and have a gap at the vertical bar, so that no sign
of a selector is part of a word (`isWord_eq_false`).
-/

namespace ScopeGrammar

namespace RangeTable

/-- One of some ranges holds a code point. -/
def InRanges (rs : List (Nat × Nat)) (x : Nat) : Prop :=
  ∃ r ∈ rs, r.1 ≤ x ∧ x ≤ r.2

instance (rs : List (Nat × Nat)) (x : Nat) : Decidable (InRanges rs x) :=
  inferInstanceAs (Decidable (∃ r ∈ rs, r.1 ≤ x ∧ x ≤ r.2))

theorem inRanges_cons {r : Nat × Nat} {rs : List (Nat × Nat)} {x : Nat} :
    InRanges (r :: rs) x ↔ r.1 ≤ x ∧ x ≤ r.2 ∨ InRanges rs x := by
  simp only [InRanges, List.mem_cons, or_and_right, exists_or, exists_eq_left]

/-- Each range ends before the next one begins. -/
def Ascending (rs : List (Nat × Nat)) : Prop :=
  rs.Pairwise fun r s ↦ r.1 ≤ s.1 ∧ r.2 < s.1

/-! ### The look-up -/

theorem getElem_lt_getElem_of_ascending {rs : Array (Nat × Nat)} (h : Ascending rs.toList)
    {i j : Nat} (hj : j < rs.size) (hij : i < j) : rs[i].1 ≤ rs[j].1 ∧ rs[i].2 < rs[j].1 :=
  List.pairwise_iff_getElem.mp h i j (Nat.lt_trans hij hj) hj hij

/-- **The search finds what is to be found between its limits.** -/
theorem containsIn_iff {t : RangeTable} (ht : Ascending t.ranges.toList) {x lo hi : Nat}
    (hhi : hi ≤ t.ranges.size) :
    t.containsIn x lo hi = true ↔
      ∃ i, ∃ h : i < t.ranges.size, (lo ≤ i ∧ i < hi) ∧ t.ranges[i].1 ≤ x ∧ x ≤ t.ranges[i].2 := by
  fun_induction containsIn t x lo hi with
  | case1 lo hi hne mid hnone =>
    rw [Array.getElem?_eq_none_iff] at hnone
    omega
  | case2 lo hi hne mid a b hmid hxa ih =>
    obtain ⟨hsize, hab⟩ := Array.getElem?_eq_some_iff.mp hmid
    rw [ih (by omega)]
    refine exists_congr fun i ↦ exists_congr fun hi' ↦ and_congr_left fun hx ↦ ⟨by omega, ?_⟩
    rintro ⟨hlo, -⟩
    -- a range in the middle or after it begins too late
    refine ⟨hlo, Nat.lt_of_not_le fun hle ↦ ?_⟩
    rcases Nat.eq_or_lt_of_le hle with rfl | hlt
    · rw [hab] at hx
      omega
    · have hbegin := (getElem_lt_getElem_of_ascending ht hi' hlt).1
      rw [hab] at hbegin
      omega
  | case3 lo hi hne mid a b hmid hxa hbx ih =>
    obtain ⟨hsize, hab⟩ := Array.getElem?_eq_some_iff.mp hmid
    rw [ih (by omega)]
    refine exists_congr fun i ↦ exists_congr fun hi' ↦ and_congr_left fun hx ↦ ⟨by omega, ?_⟩
    rintro ⟨-, hlt⟩
    -- a range in the middle or before it ends too early
    refine ⟨Nat.lt_of_not_le fun hle ↦ ?_, hlt⟩
    rcases Nat.eq_or_lt_of_le hle with rfl | hlt
    · rw [hab] at hx
      omega
    · have hend := (getElem_lt_getElem_of_ascending ht hsize hlt).2
      rw [hab] at hend
      omega
  | case4 lo hi hne mid a b hmid hxa hbx =>
    obtain ⟨hsize, hab⟩ := Array.getElem?_eq_some_iff.mp hmid
    refine iff_of_true rfl ⟨mid, hsize, by omega, ?_⟩
    rw [hab]
    exact ⟨Nat.le_of_not_lt hxa, Nat.le_of_not_lt hbx⟩
  | case5 lo hi hne =>
    exact iff_of_false Bool.false_ne_true fun ⟨i, _, hlim, _⟩ ↦ hne (by omega)

/-- **The look-up finds the characters that a table in order holds.** -/
theorem contains_iff {t : RangeTable} (ht : Ascending t.ranges.toList) {c : Char} :
    t.contains c = true ↔ InRanges t.ranges.toList c.toNat := by
  rw [contains, containsIn_iff ht (Nat.le_refl _)]
  constructor
  · rintro ⟨i, hi, -, hx⟩
    exact ⟨t.ranges[i], Array.getElem_mem_toList hi, hx⟩
  · rintro ⟨r, hr, hx⟩
    obtain ⟨i, hi, rfl⟩ := List.getElem_of_mem hr
    exact ⟨i, hi, ⟨Nat.zero_le _, hi⟩, hx⟩

/-! ### Unions -/

variable {cur : Nat × Nat} {rs : List (Nat × Nat)}

theorem le_of_mem_coalesce (hcur : ∀ r ∈ rs, cur.1 ≤ r.1) (hrs : rs.Pairwise (·.1 ≤ ·.1)) :
    ∀ s ∈ coalesce cur rs, cur.1 ≤ s.1 := by
  fun_induction coalesce cur rs with
  | case1 cur => simp
  | case2 cur r rest hmeet ih =>
    rw [List.forall_mem_cons] at hcur
    exact ih hcur.2 hrs.of_cons
  | case3 cur r rest hmeet ih =>
    rw [List.forall_mem_cons] at hcur ⊢
    exact ⟨Nat.le_refl _, fun s hs ↦
      Nat.le_trans hcur.1 (ih (fun _ ↦ List.rel_of_pairwise_cons hrs) hrs.of_cons s hs)⟩

/-- Ranges that are joined where they meet ascend. -/
theorem ascending_coalesce (hcur : ∀ r ∈ rs, cur.1 ≤ r.1) (hrs : rs.Pairwise (·.1 ≤ ·.1)) :
    Ascending (coalesce cur rs) := by
  fun_induction coalesce cur rs with
  | case1 cur => exact List.pairwise_singleton _ _
  | case2 cur r rest hmeet ih =>
    rw [List.forall_mem_cons] at hcur
    exact ih hcur.2 hrs.of_cons
  | case3 cur r rest hmeet ih =>
    rw [List.forall_mem_cons] at hcur
    have hr : ∀ s ∈ rest, r.1 ≤ s.1 := fun _ ↦ List.rel_of_pairwise_cons hrs
    refine List.pairwise_cons.mpr ⟨fun s hs ↦ ?_, ih hr hrs.of_cons⟩
    have hle := le_of_mem_coalesce hr hrs.of_cons s hs
    omega

/-- To join ranges where they meet changes nothing of what they hold. -/
theorem inRanges_coalesce (hcur : ∀ r ∈ rs, cur.1 ≤ r.1) (hrs : rs.Pairwise (·.1 ≤ ·.1)) {x : Nat} :
    InRanges (coalesce cur rs) x ↔ InRanges (cur :: rs) x := by
  fun_induction coalesce cur rs with
  | case1 cur => exact Iff.rfl
  | case2 cur r rest hmeet ih =>
    rw [List.forall_mem_cons] at hcur
    rw [ih hcur.2 hrs.of_cons, inRanges_cons, inRanges_cons, inRanges_cons, ← or_assoc]
    refine or_congr_left ?_
    dsimp only
    omega
  | case3 cur r rest hmeet ih =>
    rw [inRanges_cons, ih (fun _ ↦ List.rel_of_pairwise_cons hrs) hrs.of_cons, ← inRanges_cons]

/-- The ranges of a union ascend, and they hold what the ranges of its tables hold. -/
theorem unionAll_spec (tables : List RangeTable) :
    Ascending (unionAll tables).ranges.toList ∧
      ∀ x, InRanges (unionAll tables).ranges.toList x ↔
        InRanges (tables.flatMap fun t ↦ t.ranges.toList) x := by
  have hmem : ∀ x, InRanges ((tables.flatMap fun t ↦ t.ranges.toList).mergeSort
      fun r s ↦ r.1 ≤ s.1) x ↔ InRanges (tables.flatMap fun t ↦ t.ranges.toList) x := fun x ↦ by
    simp only [InRanges, List.mem_mergeSort]
  have hsorted : ((tables.flatMap fun t ↦ t.ranges.toList).mergeSort fun r s ↦ r.1 ≤ s.1).Pairwise
      fun r s ↦ decide (r.1 ≤ s.1) = true :=
    List.pairwise_mergeSort (fun _ _ _ ↦ by simpa using Nat.le_trans)
      (fun r s ↦ by simpa using Nat.le_total r.1 s.1) _
  rw [unionAll]
  split
  · rename_i hnil
    refine ⟨List.Pairwise.nil, fun x ↦ ?_⟩
    rw [← hmem, hnil]
    rfl
  · rename_i r rest hcons
    rw [hcons] at hsorted
    simp only [decide_eq_true_eq] at hsorted
    have hr : ∀ s ∈ rest, r.1 ≤ s.1 := fun _ ↦ List.rel_of_pairwise_cons hsorted
    refine ⟨ascending_coalesce hr hsorted.of_cons, fun x ↦ ?_⟩
    rw [← hmem, hcons]
    exact inRanges_coalesce hr hsorted.of_cons

theorem inRanges_unionAll {tables : List RangeTable} {x : Nat} :
    InRanges (unionAll tables).ranges.toList x ↔ ∃ t ∈ tables, InRanges t.ranges.toList x := by
  rw [(unionAll_spec tables).2]
  simp only [InRanges, List.mem_flatMap]
  constructor
  · rintro ⟨r, ⟨t, ht, hr⟩, hx⟩
    exact ⟨t, ht, r, hr, hx⟩
  · rintro ⟨t, ht, r, hr, hx⟩
    exact ⟨r, ⟨t, ht, hr⟩, hx⟩

/-- **A union holds the characters that one of its tables holds**, whether their ranges are in order
or not. -/
theorem contains_unionAll_iff {tables : List RangeTable} {c : Char} :
    (unionAll tables).contains c = true ↔ ∃ t ∈ tables, InRanges t.ranges.toList c.toNat := by
  rw [contains_iff (unionAll_spec tables).1, inRanges_unionAll]

end RangeTable

/-! ### Characters of words -/

open RangeTable

/-- The tables that the characters of words come from. -/
def wordSources : List RangeTable :=
  [Category.uppercaseLetterTable, Category.lowercaseLetterTable, Category.titlecaseLetterTable,
    Category.modifierLetterTable, Category.otherLetterTable, Category.letterNumberTable,
    otherAlphabeticTable, Category.nonspacingMarkTable, Category.spacingMarkTable,
    Category.enclosingMarkTable, Category.decimalNumberTable, Category.connectorPunctuationTable]

/-- **A character is part of words if one of the tables says so.** -/
theorem isWord_iff {c : Char} :
    isWord c = true ↔ ∃ t ∈ wordSources, InRanges t.ranges.toList c.toNat := by
  have hempty : ¬ InRanges RangeTable.empty.ranges.toList c.toNat := by simp [InRanges, empty]
  rw [isWord, wordTable, categoriesAnd, contains_unionAll_iff]
  simp only [List.map_cons, List.map_nil, List.exists_mem_cons_iff, alphabeticTable, letterTable,
    categoriesAnd, inRanges_unionAll, Category.table, wordSources, hempty, false_or, or_assoc]
  simp

/-- The numbers in a text that is given by its characters. To read a long table in this form is a
matter of its characters alone and not of the bytes that they are stored in. -/
theorem hexNumbers_ofList (cs : List Char) :
    hexNumbers (String.ofList cs) = hexNumbers.go cs none := by
  rw [hexNumbers, String.toList_ofList]

/-- The tables begin with the digits and have a gap at the vertical bar. -/
theorem wordSources_avoid_signs :
    ∀ t ∈ wordSources, ∀ r ∈ t.ranges.toList, 0x30 ≤ r.1 ∧ ¬ (r.1 ≤ 0x7C ∧ 0x7C ≤ r.2) := by
  simp only [wordSources, List.forall_mem_cons, Category.uppercaseLetterTable,
    Category.lowercaseLetterTable, Category.titlecaseLetterTable, Category.modifierLetterTable,
    Category.otherLetterTable, Category.letterNumberTable, otherAlphabeticTable,
    Category.nonspacingMarkTable, Category.spacingMarkTable, Category.enclosingMarkTable,
    Category.decimalNumberTable, Category.connectorPunctuationTable, ofText]
  refine ⟨?_, ?_, ?_, ?_, ?_, ?_, ?_, ?_, ?_, ?_, ?_, ?_, nofun⟩ <;>
    (rw [hexNumbers_ofList]; decide +kernel)

/-- Neither the characters before the digits nor the vertical bar are characters of words. -/
theorem isWord_eq_false {c : Char} (h : c.toNat < 0x30 ∨ c = '|') : isWord c = false := by
  rw [← Bool.not_eq_true, isWord_iff]
  rintro ⟨t, ht, r, hr, hle, hge⟩
  obtain ⟨hbegin, hgap⟩ := wordSources_avoid_signs t ht r hr
  rcases h with h | rfl
  · omega
  · exact hgap ⟨hle, hge⟩

/-- The letters of ASCII are characters of words. -/
theorem isWord_of_letter {c : Char}
    (h : 0x41 ≤ c.toNat ∧ c.toNat ≤ 0x5A ∨ 0x61 ≤ c.toNat ∧ c.toNat ≤ 0x7A) : isWord c = true := by
  have hupper : (0x41, 0x5A) ∈ Category.uppercaseLetterTable.ranges.toList := by
    rw [Category.uppercaseLetterTable, ofText, hexNumbers_ofList]
    decide +kernel
  have hlower : (0x61, 0x7A) ∈ Category.lowercaseLetterTable.ranges.toList := by
    rw [Category.lowercaseLetterTable, ofText, hexNumbers_ofList]
    decide +kernel
  rcases h with h | h
  · exact isWord_iff.mpr ⟨_, by simp [wordSources], _, hupper, h⟩
  · exact isWord_iff.mpr ⟨_, by simp [wordSources], _, hlower, h⟩

end ScopeGrammar
