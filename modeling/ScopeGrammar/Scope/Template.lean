import ScopeGrammar.Capture.Match
import ScopeGrammar.Scope.Name
import ScopeGrammar.Text.Casing
import ScopeGrammar.Text.Decimal

/-!
# Scope templates

A rule names its scopes by a template: scope names separated by white space, in which `$1` or
`${1:/downcase}` stands for the text of a capture group. `ScopeTemplate.ofString` splits the
template once into literal text and placeholders; `resolve` fills the placeholders in and reads the
names off the result. A placeholder for a group that took no part stays as it is written.
-/

namespace ScopeGrammar

/-- A place in a template that stands for captured text. -/
structure Placeholder where
  /-- How it is written. -/
  source : List Char
  /-- The group it refers to, if its number is an index. -/
  index : Option Nat
  /-- The word after `:/` that says what to do with the case of the text. -/
  modifier : Option (List Char)
  deriving DecidableEq, Repr

/-- A piece of a template. -/
inductive TemplatePart where
  | literal (text : List Char)
  | placeholder (p : Placeholder)
  deriving DecidableEq, Repr

namespace Placeholder

/-- Reads one or more characters of a class. -/
def someOf? (p : Char → Bool) (cs : List Char) : Option (List Char × List Char) :=
  match cs.takeWhile p with
  | [] => none
  | taken => some (taken, cs.dropWhile p)

/-- Reads a given character. -/
def expect? (c : Char) : List Char → Option (List Char)
  | [] => none
  | d :: cs => if c = d then some cs else none

/-- Reads `{1:/word}`, which follows a dollar sign. Digits and words may be of any script, but only
ASCII digits make an index. -/
def braced? (cs : List Char) : Option (Placeholder × List Char) := do
  let cs ← expect? '\x7b' cs
  let (digits, cs) ← someOf? isDecimalDigit cs
  let cs ← expect? ':' cs
  let cs ← expect? '/' cs
  let (word, cs) ← someOf? isWordSign cs
  let cs ← expect? '\x7d' cs
  let source := ['$', '\x7b'] ++ digits ++ [':', '/'] ++ word ++ ['\x7d']
  pure (⟨source, index? digits, some word⟩, cs)

/-- Reads `1`, which follows a dollar sign. -/
def bare? (cs : List Char) : Option (Placeholder × List Char) := do
  let (digits, cs) ← someOf? isDecimalDigit cs
  pure (⟨'$' :: digits, index? digits, none⟩, cs)

/-- Reads what follows the dollar sign of a placeholder. -/
def read? (cs : List Char) : Option (Placeholder × List Char) :=
  braced? cs <|> bare? cs

theorem length_le_of_someOf? {p : Char → Bool} {cs taken rest : List Char}
    (h : someOf? p cs = some (taken, rest)) : rest.length ≤ cs.length := by
  unfold someOf? at h
  split at h
  · contradiction
  · obtain ⟨-, rfl⟩ := Prod.mk.inj (Option.some.inj h)
    exact (List.dropWhile_suffix p).length_le

theorem length_le_of_expect? {c : Char} {cs rest : List Char} (h : expect? c cs = some rest) :
    rest.length ≤ cs.length := by
  cases cs with
  | nil => contradiction
  | cons d ds =>
    by_cases hc : c = d
    · obtain rfl : ds = rest := by simpa [expect?, hc] using h
      simp
    · simp [expect?, hc] at h

/-- What follows a placeholder is no longer than what it was read from. -/
theorem length_le_of_read? {cs rest : List Char} {p : Placeholder}
    (h : read? cs = some (p, rest)) : rest.length ≤ cs.length := by
  rcases Option.or_eq_some_iff.1 (by simpa [read?] using h) with h | ⟨-, h⟩
  · simp only [braced?, bind, Option.bind_eq_some_iff, pure, Option.some.injEq, Prod.mk.injEq,
      Prod.exists] at h
    obtain ⟨_, h₁, _, _, h₂, _, h₃, _, h₄, _, _, h₅, _, h₆, -, rfl⟩ := h
    have := length_le_of_expect? h₁
    have := length_le_of_someOf? h₂
    have := length_le_of_expect? h₃
    have := length_le_of_expect? h₄
    have := length_le_of_someOf? h₅
    have := length_le_of_expect? h₆
    omega
  · simp only [bare?, bind, Option.bind_eq_some_iff, pure, Option.some.injEq, Prod.mk.injEq,
      Prod.exists] at h
    obtain ⟨_, _, h₁, -, rfl⟩ := h
    exact length_le_of_someOf? h₁

end Placeholder

/-- The pieces of a template. -/
def templateParts (cs : List Char) : List TemplatePart :=
  match cs with
  | [] => []
  | c :: rest =>
    if c = '$' then
      match _h : Placeholder.read? rest with
      | some (p, rest') => .placeholder p :: templateParts rest'
      | none => .literal ['$'] :: templateParts rest
    else .literal [c] :: templateParts rest
termination_by cs.length
decreasing_by
  · have := Placeholder.length_le_of_read? _h
    simp only [List.length_cons]
    omega
  · simp
  · simp

/-- A template of scope names. -/
structure ScopeTemplate where
  source : String
  parts : List TemplatePart
  parts_eq : parts = templateParts source.toList := by rfl
  deriving DecidableEq, Repr

namespace ScopeTemplate

/-- Reads a template. -/
def ofString (source : String) : ScopeTemplate :=
  ⟨source, templateParts source.toList, rfl⟩

/-- Whether the template refers to captures. -/
def hasCaptures (t : ScopeTemplate) : Bool :=
  t.parts.any fun
    | .placeholder _ => true
    | .literal _ => false

/-- What to do with the letter case of captured text. -/
inductive CaseChange where
  | keep
  | lower
  | upper
  | unknown (word : List Char)
  deriving DecidableEq, Repr

/-- The case change that a modifier names. -/
def caseChange : Option (List Char) → CaseChange
  | none => .keep
  | some word =>
    if word = "downcase".toList then .lower
    else if word = "upcase".toList then .upper
    else .unknown word

/-- Applies a case change; an unknown one leaves the text alone. -/
def CaseChange.apply : CaseChange → List Char → List Char
  | .lower, cs => lowerCase cs
  | .upper, cs => upperCase cs
  | .keep, cs => cs
  | .unknown _, cs => cs

/-- The group that a placeholder stands for in a match. -/
def groupOf (p : Placeholder) (m : Match) : Option Span :=
  p.index.bind m.group?

/-- The text that takes the place of a placeholder: the captured text without leading dots, or the
placeholder itself when its group took no part. -/
def fill (text : List Char) (m : Match) (p : Placeholder) : Except Fault (List Char) :=
  match groupOf p m with
  | none => .ok p.source
  | some s =>
    match slice? text s with
    | none => .error .spanOutsideText
    | some captured => .ok ((caseChange p.modifier).apply (captured.dropWhile (· == '.')))

/-- The text of a part of a template. -/
def partText (text : List Char) (m : Match) : TemplatePart → Except Fault (List Char)
  | .literal cs => .ok cs
  | .placeholder p => fill text m p

/-- The scope names that the template gives for a match in a text. -/
def resolve (t : ScopeTemplate) (text : List Char) (m : Match) : Except Fault (List ScopeName) := do
  let pieces ← t.parts.mapM (partText text m)
  pure (ScopeName.listOfChars pieces.flatten)

/-- The unknown case modifiers that resolving meets, in order. -/
def unknownModifiers (t : ScopeTemplate) (m : Match) : List String :=
  t.parts.filterMap fun
    | .literal _ => none
    | .placeholder p =>
      match groupOf p m, caseChange p.modifier with
      | some _, .unknown word => some (String.ofList word)
      | _, _ => none

end ScopeTemplate

end ScopeGrammar
