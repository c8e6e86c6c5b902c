import ScopeGrammar.Proofs.Engine
import ScopeGrammar.Proofs.Pattern.References

/-!
# Patterns that spell texts

A pattern `Spells` a text if it is made of the characters of the text, with a backslash before those
that have a meaning of their own. Escaping a text gives such a pattern (`spells_escapeChars`).

What an engine makes of them is assumed of single characters, escaped or not, and of one pattern
after another (`Engine.ReadsLiterals`). That whole texts are found as they are spelled then follows
by induction on the text (`Engine.ReadsLiterals.denotes`).
-/

namespace ScopeGrammar

/-- The pattern has the characters of the text one by one, escaped where they need it. -/
inductive Spells : (pattern text : List Char) → Prop
  | nil : Spells [] []
  | escaped {c : Char} {pattern text : List Char} :
      needsEscape c = true → Spells pattern text → Spells ('\\' :: c :: pattern) (c :: text)
  | plain {c : Char} {pattern text : List Char} :
      needsEscape c = false → Spells pattern text → Spells (c :: pattern) (c :: text)

/-- **An escaped text spells the text.** -/
theorem spells_escapeChars (text : List Char) : Spells (escapeChars text) text := by
  induction text with
  | nil => exact .nil
  | cons c text ih =>
    rw [escapeChars_cons]
    cases hc : needsEscape c with
    | true => exact .escaped hc ih
    | false => exact .plain hc ih

theorem Spells.append {p q t u : List Char} (hp : Spells p t) (hq : Spells q u) :
    Spells (p ++ q) (t ++ u) := by
  induction hp with
  | nil => exact hq
  | escaped hc _ ih => exact .escaped hc ih
  | plain hc _ ih => exact .plain hc ih

namespace Engine

/-- The engine takes a pattern for a text: the pattern compiles, and searching it in any window is
searching the text as it is. -/
def Denotes (E : Engine) (pattern text : List Char) : Prop :=
  ∃ matcher, E.compile pattern = .ok matcher ∧
    ∀ (cs : List Char) (w : Window), w.IsOf cs → matcher w = literalMatcher text w

/-- What is assumed of how an engine reads the characters of patterns, outside of classes. -/
structure ReadsLiterals (E : Engine) : Prop where
  /-- A backslash makes a character with a meaning of its own stand for itself. -/
  escaped : ∀ {c}, needsEscape c = true → E.Denotes ['\\', c] [c]
  /-- Other characters stand for themselves. -/
  plain : ∀ {c}, needsEscape c = false → E.Denotes [c] [c]
  /-- What is spelled in two parts is found as one text. -/
  sequence : ∀ {p q t u}, Spells p t → Spells q u → E.Denotes p t → E.Denotes q u →
    E.Denotes (p ++ q) (t ++ u)

namespace ReadsLiterals

variable {E : Engine}

/-- A character is read before what follows it, if anything does. -/
theorem denotes_cons (hE : E.ReadsLiterals) {c : Char} {p pattern text : List Char}
    (hp : Spells p [c]) (hhead : E.Denotes p [c]) (hspells : Spells pattern text)
    (htail : text ≠ [] → E.Denotes pattern text) : E.Denotes (p ++ pattern) (c :: text) := by
  rcases eq_or_ne text [] with rfl | htext
  · cases hspells
    rwa [List.append_nil]
  · exact hE.sequence hp hspells hhead (htail htext)

/-- **A pattern that spells a text is taken for it.** -/
theorem denotes (hE : E.ReadsLiterals) {pattern text : List Char} (h : Spells pattern text)
    (hne : text ≠ []) : E.Denotes pattern text := by
  induction h with
  | nil => exact absurd rfl hne
  | escaped hc hspells ih =>
    exact hE.denotes_cons (.escaped hc .nil) (hE.escaped hc) hspells ih
  | plain hc hspells ih => exact hE.denotes_cons (.plain hc .nil) (hE.plain hc) hspells ih

end ReadsLiterals

end Engine

end ScopeGrammar
