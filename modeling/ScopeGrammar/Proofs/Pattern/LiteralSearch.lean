import ScopeGrammar.Proofs.Pattern.MachineLiterals

/-!
# Searching escaped texts

Main statement: an escaped text compiles whatever anchors are live, and searching it finds the
leftmost occurrence of the text inside the range (`Regex.exists_search_escape`). Escaped text has no
anchors to mask, it spells the text, and every engine that reads literals takes it for the text.
-/

namespace ScopeGrammar

/-- A pattern that compiles as it is written is not tried again. -/
theorem compileWith_eq_ok {α : Type} {attempt : List Char → Except PatternError α} {cs : List Char}
    {a : α} (h : attempt cs = .ok a) : compileWith attempt cs = .ok a := by
  rw [compileWith, h]

namespace Regex

variable {E : Engine} {r : Regex} {a : LiveAnchors} {matcher : Matcher}

/-- A regular expression compiles if its masked pattern does. -/
theorem compiled_eq_ok (h : E.compile (a.mask r.pattern.toList) = .ok matcher) :
    r.compiled a E = .ok matcher := by
  rw [compiled, E.compiled_eq, compileWith_eq_ok h]

/-- A search between boundaries has the answer of the compiled pattern for the window of its range,
unless that is exhausted. -/
theorem exists_search_eq_ok {cs : List Char} {range : Span}
    (hcompiled : r.compiled a E = .ok matcher)
    (hstart : IsBoundary cs range.start) (hstop : IsBoundary cs range.stop)
    (hle : range.start ≤ range.stop) :
    ∃ w : Window, w.IsOf cs ∧ w.range = range ∧ ∀ found : Option Match,
      matcher w = found.elim .nowhere .found → r.search (.ofChars cs) range a E = .ok found := by
  obtain ⟨i, hi, hilen, hioff⟩ := IndexedText.index?_ofChars hstart
  obtain ⟨j, hj, hjlen, hjoff⟩ := IndexedText.index?_ofChars hstop
  have hij : i ≤ j := by
    rw [← IndexedText.offset_le_offset_iff hilen hjlen, hioff, hjoff]
    exact hle
  obtain ⟨hof, hrange⟩ := Window.isOf_of_index? hi hj hij
  refine ⟨_, hof, hrange, fun found hfound ↦ ?_⟩
  simp only [search, hcompiled, hi, hj, if_pos hij, hfound]
  cases found <;> rfl

/-- **A pattern that is taken for a text finds the leftmost occurrence of it.** -/
theorem exists_search_of_denotes {cs text : List Char} {range : Span}
    (h : E.Denotes (a.mask r.pattern.toList) text) (hstart : IsBoundary cs range.start)
    (hstop : IsBoundary cs range.stop) (hle : range.start ≤ range.stop) :
    (∃ matcher, r.compiled a E = .ok matcher) ∧
      ∃ found, r.search (.ofChars cs) range a E = .ok found ∧
        FindsLeftmost cs text range found := by
  obtain ⟨matcher, hcompile, hmatcher⟩ := h
  have hcompiled := compiled_eq_ok hcompile
  obtain ⟨w, hw, rfl, hsearch⟩ := exists_search_eq_ok hcompiled hstart hstop hle
  obtain ⟨found, hfinds, hliteral⟩ := exists_literalMatcher_eq hw text
  exact ⟨⟨matcher, hcompiled⟩, found, hsearch found ((hmatcher cs w hw).trans hliteral), hfinds⟩

/-- **An escaped text is found as it stands.** With every engine that reads literals and whatever
anchors are live, the pattern that a text is escaped to compiles, and a search of it in a range
between boundaries comes to the leftmost occurrence of the text inside the range, with the length of
the text, or to nothing if there is none. -/
theorem exists_search_escape (hE : E.ReadsLiterals) {text : String} (hne : text ≠ "")
    (location : String) (a : LiveAnchors) {cs : List Char} {range : Span}
    (hstart : IsBoundary cs range.start) (hstop : IsBoundary cs range.stop)
    (hle : range.start ≤ range.stop) :
    (∃ matcher, (ofPattern (escape text) location).compiled a E = .ok matcher) ∧
      ∃ found, (ofPattern (escape text) location).search (.ofChars cs) range a E = .ok found ∧
        FindsLeftmost cs text.toList range found := by
  refine exists_search_of_denotes ?_ hstart hstop hle
  have hpattern : (ofPattern (escape text) location).pattern.toList = escapeChars text.toList :=
    String.toList_ofList
  rw [hpattern, a.mask_escapeChars]
  exact hE.denotes (spells_escapeChars _) (by simpa using hne)

/-- An escaped anchor and a dot after a letter of two bytes, which are searched after its first
occurrence and found behind a text that a dot would match. -/
theorem exists_search_escape_anchor :
    Engine.machine.ReadsLiterals ∧ "é\\G." ≠ "" ∧
    IsBoundary "é\\G.é\\Gé\\G.".toList 2 ∧ IsBoundary "é\\G.é\\Gé\\G.".toList 14 ∧
    (∃ matcher, (ofPattern (escape "é\\G.") "").compiled ⟨false, false⟩ .machine = .ok matcher) ∧
    (∃ found, (ofPattern (escape "é\\G.") "").search (.ofChars "é\\G.é\\Gé\\G.".toList) ⟨2, 14⟩
        ⟨false, false⟩ .machine = .ok found ∧
      FindsLeftmost "é\\G.é\\Gé\\G.".toList "é\\G.".toList ⟨2, 14⟩ found) ∧
    (ofPattern (escape "é\\G.") "").search (.ofChars "é\\G.é\\Gé\\G.".toList) ⟨2, 14⟩
        ⟨false, false⟩ .machine = .ok (some ⟨⟨9, 14⟩, []⟩) := by
  have hstart : IsBoundary "é\\G.é\\Gé\\G.".toList 2 := by decide
  have hstop : IsBoundary "é\\G.é\\Gé\\G.".toList 14 := by decide
  obtain ⟨hcompiled, hfound⟩ := @exists_search_escape .machine Engine.machine_readsLiterals "é\\G."
    (by decide) "" ⟨false, false⟩ _ ⟨2, 14⟩ hstart hstop (by decide)
  exact ⟨Engine.machine_readsLiterals, by decide, hstart, hstop, hcompiled, hfound,
    by decide +kernel⟩

end Regex

end ScopeGrammar
