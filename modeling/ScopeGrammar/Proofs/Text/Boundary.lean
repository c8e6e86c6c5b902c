import Mathlib.Data.List.Basic
import ScopeGrammar.Text.Indexed

/-!
# Boundaries of characters

A byte position is a boundary of a text when it is the length of a prefix (`isBoundary_iff`). All
else follows from that reading: boundaries are bounded by the text, are kept when text is added at
the end, and any two of them that are in order cut out a slice (`exists_slice`).

An indexed text turns boundaries into numbers of characters and back. The search for a number rests
on the strict growth of the offsets (`offset_lt_offset`) alone; `index?_ofChars` says what it finds.
-/

namespace ScopeGrammar

/-! ### Boundaries -/

/-- **A boundary is the length of a prefix.** -/
theorem isBoundary_iff {cs : List Char} {n : Nat} :
    IsBoundary cs n ↔ ∃ before after, cs = before ++ after ∧ byteLength before = n := by
  constructor
  · intro h
    induction cs generalizing n with
    | nil =>
      cases n with
      | zero => exact ⟨[], [], rfl, rfl⟩
      | succ n => simp [IsBoundary, dropBytes?] at h
    | cons c cs ih =>
      cases n with
      | zero => exact ⟨[], c :: cs, rfl, rfl⟩
      | succ n =>
        rw [IsBoundary, dropBytes?] at h
        split at h
        · rename_i hle
          obtain ⟨before, after, rfl, hlen⟩ := ih h
          refine ⟨c :: before, after, rfl, ?_⟩
          rw [byteLength_cons, hlen]
          omega
        · simp at h
  · rintro ⟨before, after, rfl, rfl⟩
    rw [IsBoundary, dropBytes?_byteLength]
    rfl

/-- There is a boundary between two parts of a text. -/
theorem isBoundary_byteLength_append (before after : List Char) :
    IsBoundary (before ++ after) (byteLength before) :=
  isBoundary_iff.2 ⟨before, after, rfl, rfl⟩

/-- A text begins with a boundary. -/
theorem isBoundary_zero (cs : List Char) : IsBoundary cs 0 :=
  isBoundary_byteLength_append [] cs

/-- A text ends with a boundary. -/
theorem isBoundary_byteLength (cs : List Char) : IsBoundary cs (byteLength cs) :=
  isBoundary_iff.2 ⟨cs, [], by simp, rfl⟩

namespace IsBoundary

/-- No boundary lies past the end of the text. -/
theorem le_byteLength {cs : List Char} {n : Nat} (h : IsBoundary cs n) : n ≤ byteLength cs := by
  obtain ⟨before, after, rfl, rfl⟩ := isBoundary_iff.1 h
  simp

/-- Text at the end takes no boundary away. -/
theorem append {cs : List Char} {n : Nat} (h : IsBoundary cs n) (ds : List Char) :
    IsBoundary (cs ++ ds) n := by
  obtain ⟨before, after, rfl, rfl⟩ := isBoundary_iff.1 h
  rw [List.append_assoc]
  exact isBoundary_byteLength_append _ _

/-- Nor does it add one inside the text. -/
theorem of_append {cs ds : List Char} {n : Nat} (h : IsBoundary (cs ++ ds) n)
    (hn : n ≤ byteLength cs) : IsBoundary cs n := by
  obtain ⟨before, after, heq, rfl⟩ := isBoundary_iff.1 h
  rcases List.append_eq_append_iff.1 heq with ⟨mid, rfl, rfl⟩ | ⟨mid, rfl, rfl⟩
  · have hmid : mid = [] := by
      cases mid with
      | nil => rfl
      | cons c mid =>
        have := c.utf8Size_pos
        simp only [byteLength_append, byteLength_cons] at hn
        omega
    subst hmid
    simpa using isBoundary_byteLength cs
  · exact isBoundary_byteLength_append _ _

/-- The later one of two boundaries is a boundary. -/
theorem max {cs : List Char} {m n : Nat} (hm : IsBoundary cs m) (hn : IsBoundary cs n) :
    IsBoundary cs (max m n) := by
  rcases Nat.le_total m n with h | h
  · rwa [Nat.max_eq_right h]
  · rwa [Nat.max_eq_left h]

/-- **Two boundaries in order cut out a slice.** -/
theorem exists_slice {cs : List Char} {m n : Nat} (hm : IsBoundary cs m) (hn : IsBoundary cs n)
    (hle : m ≤ n) : ∃ text, slice? cs ⟨m, n⟩ = some text := by
  obtain ⟨before, rest, rfl, rfl⟩ := isBoundary_iff.1 hm
  obtain ⟨upto, after, heq, rfl⟩ := isBoundary_iff.1 hn
  rcases List.append_eq_append_iff.1 heq with ⟨mid, rfl, rfl⟩ | ⟨mid, rfl, rfl⟩
  · refine ⟨mid, ?_⟩
    rw [byteLength_append]
    exact slice?_append before mid after
  · -- the longer prefix comes first only if the two are the same
    have hmid : byteLength mid = 0 := by
      simp only [byteLength_append] at hle
      omega
    refine ⟨[], ?_⟩
    rw [slice?, if_pos hle, dropBytes?_byteLength, byteLength_append, hmid]
    simp [takeBytes?]

end IsBoundary

/-! ### Indexed texts -/

namespace IndexedText

/-- The offset with an index is the number of bytes of that many characters. -/
theorem getElem?_offsetsFrom (cs : List Char) (n i : Nat) :
    (offsetsFrom n cs)[i]? = if i ≤ cs.length then some (n + byteLength (cs.take i)) else none := by
  induction cs generalizing n i with
  | nil => cases i <;> simp [offsetsFrom]
  | cons c cs ih =>
    cases i with
    | zero => simp [offsetsFrom]
    | succ i => simp [offsetsFrom, ih, Nat.add_assoc]

/-- The offsets of a text are the lengths of its prefixes. -/
theorem getElem?_offsets_ofChars (cs : List Char) (i : Nat) :
    (ofChars cs).offsets[i]? = if i ≤ cs.length then some (byteLength (cs.take i)) else none := by
  simp [ofChars, getElem?_offsetsFrom]

@[simp] theorem size_offsets_ofChars (cs : List Char) :
    (ofChars cs).offsets.size = cs.length + 1 := by
  have hlen : ∀ n, (offsetsFrom n cs).length = cs.length + 1 := by
    induction cs with
    | nil => intro n; rfl
    | cons c cs ih => intro n; simp [offsetsFrom, ih]
  simp [ofChars, hlen]

/-- The offset of an index is the number of bytes before the character there. -/
theorem offset_ofChars {cs : List Char} {i : Nat} (h : i ≤ cs.length) :
    (ofChars cs).offset i = byteLength (cs.take i) := by
  rw [offset, getElem?_offsets_ofChars, if_pos h]
  rfl

/-- Offsets of characters are boundaries. -/
theorem isBoundary_offset {cs : List Char} {i : Nat} (h : i ≤ cs.length) :
    IsBoundary cs ((ofChars cs).offset i) := by
  rw [offset_ofChars h]
  exact isBoundary_iff.2 ⟨cs.take i, cs.drop i, (List.take_append_drop i cs).symm, rfl⟩

/-- Later characters have greater offsets. -/
theorem offset_lt_offset {cs : List Char} {i j : Nat} (hij : i < j) (hj : j ≤ cs.length) :
    (ofChars cs).offset i < (ofChars cs).offset j := by
  rw [offset_ofChars (by omega), offset_ofChars hj]
  have hsplit : cs.take j = cs.take i ++ (cs.drop i).take (j - i) := by
    rw [← List.take_add]
    congr 1
    omega
  rw [hsplit, byteLength_append]
  have hpos : 0 < byteLength ((cs.drop i).take (j - i)) := by
    obtain ⟨k, hk⟩ : ∃ k, j - i = k + 1 := ⟨j - i - 1, by omega⟩
    rcases hd : cs.drop i with - | ⟨c, rest⟩
    · have := congrArg List.length hd
      simp only [List.length_drop, List.length_nil] at this
      omega
    · rw [hk, List.take_succ_cons, byteLength_cons]
      have := c.utf8Size_pos
      omega
  omega

/-- Offsets are in the order of their characters. -/
theorem offset_le_offset {cs : List Char} {i j : Nat} (hij : i ≤ j) (hj : j ≤ cs.length) :
    (ofChars cs).offset i ≤ (ofChars cs).offset j := by
  rcases Nat.lt_or_eq_of_le hij with hlt | rfl
  · exact Nat.le_of_lt (offset_lt_offset hlt hj)
  · exact Nat.le_refl _

/-! ### Finding an index -/

/-- What the search finds is an index of the position. -/
theorem getElem?_of_indexIn {t : IndexedText} {n lo hi i : Nat} (h : t.indexIn n lo hi = some i) :
    t.offsets[i]? = some n := by
  fun_induction t.indexIn n lo hi with
  | case1 => contradiction
  | case2 lo hi hlt mid m hm hnm ih => exact ih h
  | case3 lo hi hlt mid m hm hnm hmn ih => exact ih h
  | case4 lo hi hlt mid m hm hnm hmn =>
    obtain rfl : mid = i := Option.some.inj h
    rw [hm, show m = n by omega]
  | case5 => contradiction

theorem getElem?_of_index? {t : IndexedText} {n i : Nat} (h : t.index? n = some i) :
    t.offsets[i]? = some n :=
  getElem?_of_indexIn h

/-- A byte position whose index is found is the offset of that index. -/
theorem offset_of_index? {t : IndexedText} {n i : Nat} (h : t.index? n = some i) :
    t.offset i = n := by
  rw [offset, getElem?_of_index? h]
  rfl

/-- The search finds the index of an offset: the offsets grow, so that each comparison drops only
indices on the wrong side of it. -/
theorem indexIn_offset {cs : List Char} {i lo hi : Nat} (hlo : lo ≤ i) (hhi : i < hi)
    (hle : hi ≤ cs.length + 1) :
    (ofChars cs).indexIn ((ofChars cs).offset i) lo hi = some i := by
  have hmid : (lo + hi) / 2 ≤ cs.length := by omega
  have hget : (ofChars cs).offsets[(lo + hi) / 2]? =
      some ((ofChars cs).offset ((lo + hi) / 2)) := by
    rw [getElem?_offsets_ofChars, if_pos hmid, offset_ofChars hmid]
  rw [indexIn, if_pos (by omega)]
  simp only [hget]
  rcases Nat.lt_trichotomy i ((lo + hi) / 2) with hlt | heq | hgt
  · rw [if_pos (offset_lt_offset hlt hmid)]
    exact indexIn_offset hlo hlt (by omega)
  · rw [← heq]
    simp
  · have hlt := offset_lt_offset hgt (show i ≤ cs.length by omega)
    rw [if_neg (by omega), if_pos hlt]
    exact indexIn_offset hgt hhi hle
termination_by hi - lo

/-- **Every boundary has an index**, which counts the characters before it. -/
theorem index?_ofChars {cs : List Char} {n : Nat} (h : IsBoundary cs n) :
    ∃ i, (ofChars cs).index? n = some i ∧ i ≤ cs.length ∧ (ofChars cs).offset i = n := by
  obtain ⟨before, after, rfl, rfl⟩ := isBoundary_iff.1 h
  have hlen : before.length ≤ (before ++ after).length := by simp
  have hoff : (ofChars (before ++ after)).offset before.length = byteLength before := by
    rw [offset_ofChars hlen, List.take_left]
  refine ⟨before.length, ?_, hlen, hoff⟩
  rw [index?, size_offsets_ofChars, ← hoff]
  exact indexIn_offset (Nat.zero_le _) (by omega) (Nat.le_refl _)

/-- An index that is found is one of the text, and its position a boundary. -/
theorem le_length_of_index? {cs : List Char} {n i : Nat} (h : (ofChars cs).index? n = some i) :
    i ≤ cs.length := by
  have hget := getElem?_of_index? h
  rw [getElem?_offsets_ofChars] at hget
  by_contra hlt
  rw [if_neg hlt] at hget
  contradiction

end IndexedText

end ScopeGrammar
