import ScopeGrammar.Pattern.Regex
import ScopeGrammar.Proofs.Text.Boundary

/-!
# What is assumed of engines

Theorems about tokenizing hold for every engine that keeps to some or all of three conditions, which
speak of the matches it reports and of nothing else: `StaysInRange` and `CapturesForward` bound the
positions of a match by the range that was searched, `KeepsBoundaries` keeps them off the inside of
characters. What is refused, what is found and what exhausts a search is left open.

`literal` is an engine that meets all three: it takes a pattern for the text that it spells.
-/

namespace ScopeGrammar

namespace Window

/-- The bytes of a window. -/
def range (w : Window) : Span :=
  w.text.span w.start w.stop

/-- The window is one of a text. -/
structure IsOf (w : Window) (cs : List Char) : Prop where
  text_eq : w.text = IndexedText.ofChars cs
  start_le : w.start ≤ w.stop
  stop_le : w.stop ≤ cs.length

end Window

namespace Engine

/-- The engine reports a match when some compiled pattern is searched in a window. -/
def Reports (E : Engine) (w : Window) (m : Match) : Prop :=
  ∃ pattern matcher, E.compile pattern = .ok matcher ∧ matcher w = .found m

/-- Matches lie in the range that was searched and do not run backwards. -/
def StaysInRange (E : Engine) : Prop :=
  ∀ (cs : List Char) (w : Window) (m : Match), w.IsOf cs → E.Reports w m →
    w.range.start ≤ m.start ∧ m.start ≤ m.stop ∧ m.stop ≤ w.range.stop

/-- Matches and their captures begin and end at boundaries of characters. -/
def KeepsBoundaries (E : Engine) : Prop :=
  ∀ (cs : List Char) (w : Window) (m : Match), w.IsOf cs → E.Reports w m →
    ∀ s : Span, some s ∈ m.captures → IsBoundary cs s.start ∧ IsBoundary cs s.stop

/-- Captures do not run backwards and end no later than the range that was searched. -/
def CapturesForward (E : Engine) : Prop :=
  ∀ (cs : List Char) (w : Window) (m : Match), w.IsOf cs → E.Reports w m →
    ∀ s : Span, some s ∈ m.captures → s.start ≤ s.stop ∧ s.stop ≤ w.range.stop

end Engine

/-! ### Searches -/

namespace Regex

/-- A compiled regular expression is a compiled text. -/
theorem exists_compile_of_compiled {r : Regex} {a : LiveAnchors} {E : Engine} {matcher : Matcher}
    (h : r.compiled a E = .ok matcher) : ∃ pattern, E.compile pattern = .ok matcher := by
  have hc : compileWith E.compile (a.mask r.pattern.toList) = .ok matcher := by
    rw [← E.compiled_eq]
    rw [compiled] at h
    split at h
    · rename_i matcher' heq
      rw [heq, Except.ok.inj h]
    · contradiction
  rw [compileWith] at hc
  split at hc
  · rename_i heq
    exact ⟨_, Except.ok.inj hc ▸ heq⟩
  · split at hc
    · exact ⟨_, hc⟩
    · contradiction

/-- **What a search finds is a match that the engine reports** in the window of the range. -/
theorem reports_of_search {r : Regex} {t : IndexedText} {range : Span} {a : LiveAnchors}
    {E : Engine} {m : Match} (h : r.search t range a E = .ok (some m)) :
    ∃ start stop, t.index? range.start = some start ∧ t.index? range.stop = some stop ∧
      start ≤ stop ∧ E.Reports ⟨t, start, stop⟩ m := by
  rw [search] at h
  split at h
  · contradiction
  · rename_i matcher hcompiled
    obtain ⟨pattern, hpattern⟩ := exists_compile_of_compiled hcompiled
    split at h
    · rename_i start stop hstart hstop
      split at h
      · rename_i hle
        split at h
        · rename_i m' hfound
          obtain rfl : m' = m := Option.some.inj (Except.ok.inj h)
          exact ⟨start, stop, hstart, hstop, hle, pattern, matcher, hpattern, hfound⟩
        · cases h
        · contradiction
      · contradiction
    · contradiction

/-- A search of a range between boundaries is no search outside the text. -/
theorem search_ne_outside {r : Regex} {cs : List Char} {range : Span} {a : LiveAnchors} {E : Engine}
    (hstart : IsBoundary cs range.start) (hstop : IsBoundary cs range.stop)
    (hle : range.start ≤ range.stop) : r.search (.ofChars cs) range a E ≠ .error .outside := by
  obtain ⟨i, hi, hilen, hioff⟩ := IndexedText.index?_ofChars hstart
  obtain ⟨j, hj, hjlen, hjoff⟩ := IndexedText.index?_ofChars hstop
  -- the offsets grow, so that the indices are in order as the positions are
  have hij : i ≤ j := by
    by_contra hlt
    have hlt : (IndexedText.ofChars cs).offset j < (IndexedText.ofChars cs).offset i :=
      IndexedText.offset_lt_offset (by omega) hilen
    omega
  intro h
  rw [search] at h
  split at h
  · cases h
  · simp only [hi, hj, if_pos hij] at h
    split at h <;> cases h

end Regex

/-- The window that a search of a range of a text looks at. -/
theorem Window.isOf_of_index? {cs : List Char} {range : Span} {start stop : Nat}
    (hstart : (IndexedText.ofChars cs).index? range.start = some start)
    (hstop : (IndexedText.ofChars cs).index? range.stop = some stop) (hle : start ≤ stop) :
    Window.IsOf ⟨.ofChars cs, start, stop⟩ cs ∧
      Window.range ⟨.ofChars cs, start, stop⟩ = range := by
  refine ⟨⟨rfl, hle, IndexedText.le_length_of_index? hstop⟩, ?_⟩
  rw [Window.range, IndexedText.span, IndexedText.offset_of_index? hstart,
    IndexedText.offset_of_index? hstop]

/-- A regular expression has a match in a range of a text. -/
def Engine.ReportsIn (E : Engine) (cs : List Char) (range : Span) (m : Match) : Prop :=
  ∃ w : Window, w.IsOf cs ∧ w.range = range ∧ E.Reports w m

/-- A match that a search finds is one that the engine reports for the range. -/
theorem Regex.reportsIn_of_search {r : Regex} {cs : List Char} {range : Span} {a : LiveAnchors}
    {E : Engine} {m : Match} (h : r.search (.ofChars cs) range a E = .ok (some m)) :
    E.ReportsIn cs range m := by
  obtain ⟨start, stop, hstart, hstop, hle, hreports⟩ := reports_of_search h
  obtain ⟨hof, hrange⟩ := Window.isOf_of_index? hstart hstop hle
  exact ⟨_, hof, hrange, hreports⟩

namespace Engine

variable {E : Engine} {cs : List Char} {range : Span} {m : Match}

/-- A match that is reported lies in the range. -/
theorem StaysInRange.of_reportsIn (hE : E.StaysInRange) (h : E.ReportsIn cs range m) :
    range.start ≤ m.start ∧ m.start ≤ m.stop ∧ m.stop ≤ range.stop := by
  obtain ⟨w, hof, rfl, hreports⟩ := h
  exact hE cs w m hof hreports

/-- The captures of a match that is reported lie between boundaries. -/
theorem KeepsBoundaries.of_reportsIn (hE : E.KeepsBoundaries) (h : E.ReportsIn cs range m)
    {s : Span} (hs : some s ∈ m.captures) : IsBoundary cs s.start ∧ IsBoundary cs s.stop := by
  obtain ⟨w, hof, -, hreports⟩ := h
  exact hE cs w m hof hreports s hs

/-- The captures of a match that is reported go forward and not past the range. -/
theorem CapturesForward.of_reportsIn (hE : E.CapturesForward) (h : E.ReportsIn cs range m)
    {s : Span} (hs : some s ∈ m.captures) : s.start ≤ s.stop ∧ s.stop ≤ range.stop := by
  obtain ⟨w, hof, rfl, hreports⟩ := h
  exact hE cs w m hof hreports s hs

end Engine

/-! ### Literal texts -/

/-- Searches a text as it is spelled. -/
def literalMatcher (cs : List Char) : Matcher := fun w ↦
  let isAt (i : Nat) : Bool :=
    i + cs.length ≤ w.stop && (w.text.chars.toList.drop i).take cs.length == cs
  match (List.range' w.start (w.stop + 1 - w.start)).find? isAt with
  | some i => .found ⟨w.text.span i (i + cs.length), []⟩
  | none => .nowhere

namespace Engine

/-- The engine of a way to search any text, which refuses none. -/
def ofMatcher (matcher : List Char → Matcher) : Engine :=
  .ofCompile fun cs ↦ .ok (matcher cs)

/-- The engine that takes a pattern for the text that it spells. -/
def literal : Engine :=
  .ofMatcher literalMatcher

/-- The engine that looks for literals reports spans of the window, without captures. -/
theorem exists_of_literal_reports {w : Window} {m : Match} (h : literal.Reports w m) :
    ∃ i j, w.start ≤ i ∧ i ≤ j ∧ j ≤ w.stop ∧ m = ⟨w.text.span i j, []⟩ := by
  obtain ⟨cs, matcher, hcompile, h⟩ := h
  obtain rfl : literalMatcher cs = matcher := Except.ok.inj hcompile
  rw [literalMatcher] at h
  split at h
  · rename_i i hi
    have hmem := List.mem_range'_1.1 (List.mem_of_find?_eq_some hi)
    have hat := List.find?_some hi
    simp only [Bool.and_eq_true, decide_eq_true_eq] at hat
    obtain rfl := SearchAnswer.found.inj h
    exact ⟨i, i + cs.length, hmem.1, Nat.le_add_right _ _, hat.1, rfl⟩
  · cases h

/-- The engine that looks for literals finds them in the range. -/
theorem literal_staysInRange : literal.StaysInRange := by
  intro cs w m hw h
  obtain ⟨i, j, hi, hij, hj, rfl⟩ := exists_of_literal_reports h
  have hjlen := Nat.le_trans hj hw.stop_le
  rw [Window.range, hw.text_eq]
  exact ⟨IndexedText.offset_le_offset hi (Nat.le_trans hij hjlen),
    IndexedText.offset_le_offset hij hjlen, IndexedText.offset_le_offset hj hw.stop_le⟩

/-- The engine that looks for literals finds them between boundaries. -/
theorem literal_keepsBoundaries : literal.KeepsBoundaries := by
  intro cs w m hw h s hs
  obtain ⟨i, j, hi, hij, hj, rfl⟩ := exists_of_literal_reports h
  have hjlen := Nat.le_trans hj hw.stop_le
  obtain rfl : s = w.text.span i j := by simpa [Match.captures] using hs
  rw [hw.text_eq]
  exact ⟨IndexedText.isBoundary_offset (Nat.le_trans hij hjlen),
    IndexedText.isBoundary_offset hjlen⟩

/-- The engine that looks for literals reports no captures. -/
theorem literal_capturesForward : literal.CapturesForward := by
  intro cs w m hw h s hs
  have hrange := literal_staysInRange cs w m hw h
  obtain ⟨i, j, hi, hij, hj, rfl⟩ := exists_of_literal_reports h
  obtain rfl : s = w.text.span i j := by simpa [Match.captures] using hs
  exact hrange.2

end Engine

end ScopeGrammar
