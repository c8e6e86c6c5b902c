import ScopeGrammar.Pattern.Backreference
import ScopeGrammar.Proofs.Engine
import ScopeGrammar.Proofs.Faultless
import ScopeGrammar.Scope.Template

/-!
# Captured text

What an engine reports can be cut out of the text that was searched, as long as its captures keep to
boundaries of characters and do not run backwards (`Match.sliceable_of_reportsIn`). Templates of
scope names and of patterns put nothing but such cuts in, and so they find no fault.
-/

namespace ScopeGrammar

/-- All captures of the match can be cut out of the text. -/
def Match.Sliceable (text : List Char) (m : Match) : Prop :=
  ∀ s, some s ∈ m.captures → ∃ captured, slice? text s = some captured

namespace Match

variable {text : List Char} {m : Match}

/-- Every group of a match that the engine reports can be cut out of the text. -/
theorem sliceable_of_reportsIn {E : Engine} {range : Span} (hbounds : E.KeepsBoundaries)
    (hforward : E.CapturesForward) (h : E.ReportsIn text range m) : m.Sliceable text := by
  intro s hs
  obtain ⟨hstart, hstop⟩ := hbounds.of_reportsIn h hs
  exact hstart.exists_slice hstop (hforward.of_reportsIn h hs).1

/-- A group of a match is one of its captures. -/
theorem mem_captures_of_group? {i : Nat} {s : Span} (h : m.group? i = some s) :
    some s ∈ m.captures := by
  cases i with
  | zero =>
    obtain rfl : m.whole = s := Option.some.inj h
    exact List.mem_cons_self
  | succ i =>
    rw [group?, Option.join_eq_some_iff] at h
    exact List.mem_cons_of_mem _ (List.mem_of_getElem? h)

/-- A group that is found by an index can be cut out of the text. -/
theorem Sliceable.exists_of_bind_group? (hm : m.Sliceable text) {index : Option Nat} {s : Span}
    (h : index.bind m.group? = some s) : ∃ captured, slice? text s = some captured := by
  obtain ⟨i, -, hs⟩ := Option.bind_eq_some_iff.1 h
  exact hm s (mem_captures_of_group? hs)

end Match

variable {text : List Char} {m : Match}

/-- The text of a part of a template can be told for every match. -/
theorem ScopeTemplate.faultless_partText (hm : m.Sliceable text) (part : TemplatePart) :
    Faultless (partText text m part) fun _ ↦ True := by
  cases part with
  | literal cs => exact faultless_ok trivial
  | placeholder p =>
    rw [partText, fill]
    split
    · exact faultless_ok trivial
    · rename_i s hs
      obtain ⟨captured, hcaptured⟩ := hm.exists_of_bind_group? hs
      rw [hcaptured]
      exact faultless_ok trivial

/-- **The scopes of a template can be told for every match.** -/
theorem ScopeTemplate.faultless_resolve (hm : m.Sliceable text) (t : ScopeTemplate) :
    Faultless (t.resolve text m) fun _ ↦ True :=
  (faultless_mapM fun part _ ↦ faultless_partText hm part).bind fun _ _ ↦ faultless_pure trivial

/-- A reference can be filled in for every match. -/
theorem ReferencePart.faultless_fill (hm : m.Sliceable text) (part : ReferencePart) :
    Faultless (part.fill text m) fun _ ↦ True := by
  cases part with
  | verbatim cs => exact faultless_ok trivial
  | reference digits =>
    rw [fill]
    split
    · exact faultless_ok trivial
    · rename_i s hs
      obtain ⟨captured, hcaptured⟩ := hm.exists_of_bind_group? hs
      rw [hcaptured]
      exact faultless_ok trivial

/-- **The references of a pattern can be filled in for every match.** -/
theorem faultless_fillReferences (hm : m.Sliceable text) (pattern : List Char) :
    Faultless (fillReferences pattern text m) fun _ ↦ True := by
  rw [fillReferences]
  split
  · exact (faultless_mapM fun part _ ↦ part.faultless_fill hm).bind fun _ _ ↦
      faultless_pure trivial
  · exact faultless_ok trivial

end ScopeGrammar
