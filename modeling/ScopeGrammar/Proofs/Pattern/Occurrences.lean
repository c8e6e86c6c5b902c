import Mathlib.Data.List.Basic
import ScopeGrammar.Proofs.Engine

/-!
# Occurrences of a text

A text occurs at a byte position of another one if it stands between two parts of it, the first of
which ends there. `FindsLeftmost` says what a search for the text has to come to: its leftmost
occurrence inside a range, and nothing only if there is none. Searching a text as it is spelled does
so (`exists_literalMatcher_eq`); it counts characters where the range counts bytes, and both are in
the same order.
-/

namespace ScopeGrammar

/-- The text is in another one from a byte position on. -/
def OccursAt (cs text : List Char) (n : Nat) : Prop :=
  ∃ before after, cs = before ++ (text ++ after) ∧ byteLength before = n

/-- What is found is the leftmost occurrence of a text inside a range. -/
inductive FindsLeftmost (cs text : List Char) (range : Span) : Option Match → Prop
  | nowhere :
      (∀ n, range.start ≤ n → n + byteLength text ≤ range.stop → ¬OccursAt cs text n) →
      FindsLeftmost cs text range none
  | found {m : Match} :
      range.start ≤ m.start → m.stop = m.start + byteLength text → m.stop ≤ range.stop →
      OccursAt cs text m.start → (∀ n, range.start ≤ n → n < m.start → ¬OccursAt cs text n) →
      FindsLeftmost cs text range (some m)

/-- Offsets are in the order of the characters. -/
theorem IndexedText.offset_le_offset_iff {cs : List Char} {i j : Nat} (hi : i ≤ cs.length)
    (hj : j ≤ cs.length) : (ofChars cs).offset i ≤ (ofChars cs).offset j ↔ i ≤ j := by
  refine ⟨fun h ↦ ?_, fun h ↦ offset_le_offset h hj⟩
  by_contra hlt
  exact absurd (offset_lt_offset (Nat.lt_of_not_le hlt) hi) (Nat.not_lt.mpr h)

/-- An occurrence begins at the offset of a character. -/
theorem occursAt_iff {cs text : List Char} {n : Nat} :
    OccursAt cs text n ↔
      ∃ i ≤ cs.length, (IndexedText.ofChars cs).offset i = n ∧ text <+: cs.drop i := by
  constructor
  · rintro ⟨before, after, rfl, rfl⟩
    have hlen : before.length ≤ (before ++ (text ++ after)).length := by simp
    refine ⟨before.length, hlen, ?_, ?_⟩
    · rw [IndexedText.offset_ofChars hlen, List.take_left]
    · rw [List.drop_left]
      exact List.prefix_append text after
  · rintro ⟨i, hi, rfl, after, hafter⟩
    refine ⟨cs.take i, after, ?_, (IndexedText.offset_ofChars hi).symm⟩
    rw [hafter, List.take_append_drop]

/-- An occurrence takes the bytes of the text. -/
theorem offset_add_length {cs text : List Char} {i : Nat} (h : text <+: cs.drop i)
    (hi : i ≤ cs.length) :
    i + text.length ≤ cs.length ∧
      (IndexedText.ofChars cs).offset (i + text.length) =
        (IndexedText.ofChars cs).offset i + byteLength text := by
  obtain ⟨after, hafter⟩ := h
  have hle : i + text.length ≤ cs.length := by
    have hlen := congrArg List.length hafter
    rw [List.length_append, List.length_drop] at hlen
    omega
  refine ⟨hle, ?_⟩
  rw [IndexedText.offset_ofChars hle, IndexedText.offset_ofChars hi, List.take_add, ← hafter,
    List.take_left, byteLength_append]

namespace Window

variable {w : Window} {text : List Char} {i : Nat}

/-- Whether a text is in the window at a position. -/
def hasText (w : Window) (text : List Char) (i : Nat) : Bool :=
  i + text.length ≤ w.stop && (w.text.chars.toList.drop i).take text.length == text

theorem hasText_iff :
    w.hasText text i = true ↔
      i + text.length ≤ w.stop ∧ text <+: w.text.chars.toList.drop i := by
  rw [hasText, Bool.and_eq_true, decide_eq_true_iff, beq_iff_eq, List.prefix_iff_eq_take, eq_comm]

namespace IsOf

variable {cs : List Char}

theorem toList_chars (hw : w.IsOf cs) : w.text.chars.toList = cs := by
  rw [hw.text_eq]
  rfl

/-- The positions of a window are those in its range. -/
theorem range_le_iff (hw : w.IsOf cs) (hi : i ≤ cs.length) :
    (w.range.start ≤ w.text.offset i ↔ w.start ≤ i) ∧
      (w.text.offset i ≤ w.range.stop ↔ i ≤ w.stop) := by
  rw [range, IndexedText.span, hw.text_eq]
  exact ⟨IndexedText.offset_le_offset_iff (Nat.le_trans hw.start_le hw.stop_le) hi,
    IndexedText.offset_le_offset_iff hi hw.stop_le⟩

/-- The text is in the window where it occurs and ends in the range. -/
theorem hasText_iff (hw : w.IsOf cs) (hi : i ≤ cs.length) :
    w.hasText text i = true ↔
      OccursAt cs text (w.text.offset i) ∧ w.text.offset i + byteLength text ≤ w.range.stop := by
  rw [Window.hasText_iff, hw.toList_chars, occursAt_iff]
  constructor
  · rintro ⟨hstop, htext⟩
    obtain ⟨hlen, hoffset⟩ := offset_add_length htext hi
    refine ⟨⟨i, hi, by rw [hw.text_eq], htext⟩, ?_⟩
    rw [← (hw.range_le_iff hlen).2, hw.text_eq, hoffset, ← hw.text_eq] at hstop
    exact hstop
  · rintro ⟨⟨j, hj, hij, htext⟩, hstop⟩
    rw [hw.text_eq] at hij
    obtain rfl : j = i := Nat.le_antisymm
      ((IndexedText.offset_le_offset_iff hj hi).mp (Nat.le_of_eq hij))
      ((IndexedText.offset_le_offset_iff hi hj).mp (Nat.le_of_eq hij.symm))
    obtain ⟨hlen, hoffset⟩ := offset_add_length htext hj
    refine ⟨?_, htext⟩
    rw [← (hw.range_le_iff hlen).2, hw.text_eq, hoffset, ← hw.text_eq]
    exact hstop

/-- An occurrence inside the range begins at a position of the window that has the text. -/
theorem exists_hasText_of_occursAt (hw : w.IsOf cs) {n : Nat} (hoccurs : OccursAt cs text n)
    (hstart : w.range.start ≤ n) (hstop : n + byteLength text ≤ w.range.stop) :
    ∃ i ≤ cs.length, w.text.offset i = n ∧ w.start ≤ i ∧ i ≤ w.stop ∧ w.hasText text i = true := by
  obtain ⟨i, hi, hn, -⟩ := occursAt_iff.mp hoccurs
  rw [← hw.text_eq] at hn
  subst hn
  exact ⟨i, hi, rfl, (hw.range_le_iff hi).1.mp hstart,
    (hw.range_le_iff hi).2.mp (Nat.le_of_add_right_le hstop),
    (hw.hasText_iff hi).mpr ⟨hoccurs, hstop⟩⟩

end IsOf

end Window

theorem literalMatcher_eq (text : List Char) (w : Window) :
    literalMatcher text w =
      match (List.range' w.start (w.stop + 1 - w.start)).find? (w.hasText text) with
      | some i => .found ⟨w.text.span i (i + text.length), []⟩
      | none => .nowhere :=
  rfl

/-- **Searching a text as it is spelled finds its leftmost occurrence in the range.** -/
theorem exists_literalMatcher_eq {cs : List Char} {w : Window} (hw : w.IsOf cs) (text : List Char) :
    ∃ found, FindsLeftmost cs text w.range found ∧
      literalMatcher text w = found.elim .nowhere .found := by
  rw [literalMatcher_eq]
  cases hfind : (List.range' w.start (w.stop + 1 - w.start)).find? (w.hasText text) with
  | none =>
    refine ⟨none, .nowhere ?_, rfl⟩
    intro n hstart hstop hoccurs
    obtain ⟨i, -, -, hfirst, hlast, htext⟩ := hw.exists_hasText_of_occursAt hoccurs hstart hstop
    refine List.find?_eq_none.mp hfind i ?_ htext
    rw [List.mem_range'_1]
    omega
  | some i =>
    obtain ⟨htext, hmem, hbefore⟩ := List.find?_range'_eq_some.mp hfind
    rw [List.mem_range'_1] at hmem
    have hi : i ≤ cs.length := by
      have := hw.stop_le
      omega
    obtain ⟨hoccurs, hstop⟩ := (hw.hasText_iff hi).mp htext
    have hprefix := (Window.hasText_iff.mp htext).2
    rw [hw.toList_chars] at hprefix
    have hend : w.text.offset (i + text.length) = w.text.offset i + byteLength text := by
      rw [hw.text_eq]
      exact (offset_add_length hprefix hi).2
    refine ⟨some ⟨w.text.span i (i + text.length), []⟩, .found ?_ hend ?_ hoccurs ?_, rfl⟩
    · exact (hw.range_le_iff hi).1.mpr hmem.1
    · exact Nat.le_trans (Nat.le_of_eq hend) hstop
    · intro n hstart hn hoccurs'
      -- an occurrence farther left ends in the range as well
      have hinside : n + byteLength text ≤ w.range.stop :=
        Nat.le_trans (Nat.add_le_add_right (Nat.le_of_lt hn) _) hstop
      obtain ⟨j, hj, rfl, hfirst, -, htext'⟩ :=
        hw.exists_hasText_of_occursAt hoccurs' hstart hinside
      have hji : j < i := by
        rw [← Nat.not_le, ← IndexedText.offset_le_offset_iff hi hj, ← hw.text_eq, Nat.not_le]
        exact hn
      exact absurd htext' (by simpa using hbefore j hfirst hji)

end ScopeGrammar
