/-!
# Live anchors

Not every `\A` and `\G` of a pattern may match: the start of the text only counts on the first line
of a document, and the place where the last region began only where it is. `LiveAnchors` says which
of the two are live, and `mask` replaces the others in the text of a pattern by a character that
never occurs.
-/

namespace ScopeGrammar

/-- A character that stands for what cannot match: no text has it. -/
def neverMatches : Char := '\uFFFF'

/-- Which of the anchors `\A` and `\G` can match. -/
structure LiveAnchors where
  textStart : Bool
  searchStart : Bool
  deriving DecidableEq, Repr, Inhabited

namespace LiveAnchors

/-- Both anchors are live. -/
def both : LiveAnchors := ⟨true, true⟩

/-- The live anchors at a position: `\A` on the first line, `\G` at the anchor position. -/
def ofPosition (firstLine : Bool) (anchor : Option Nat) (position : Nat) : LiveAnchors :=
  ⟨firstLine, anchor == some position⟩

/-- A description of the live anchors. -/
def describe (a : LiveAnchors) : String :=
  let yesNo (b : Bool) : String := if b then "true" else "false"
  "allow_A=" ++ yesNo a.textStart ++ ", allow_G=" ++ yesNo a.searchStart

/-- Whether the letter after a backslash names an anchor that is not live. -/
def blocks (a : LiveAnchors) (c : Char) : Bool :=
  (c == 'A' && !a.textStart) || (c == 'G' && !a.searchStart)

/-- Replaces the anchors that are not live. Other characters after a backslash are left alone, a
second backslash among them. -/
def mask (a : LiveAnchors) : List Char → List Char
  | '\\' :: c :: cs => (if a.blocks c then [neverMatches] else ['\\', c]) ++ a.mask cs
  | c :: cs => c :: a.mask cs
  | [] => []

/-- Replaces the anchors of a pattern that are not live. -/
def maskString (a : LiveAnchors) (pattern : String) : String :=
  String.ofList (a.mask pattern.toList)

/-- With both anchors live nothing is replaced. -/
theorem mask_both (cs : List Char) : both.mask cs = cs := by
  fun_induction both.mask cs with
  | case1 c cs ih =>
    have hc : both.blocks c = false := by simp [blocks, both]
    simp [hc, ih]
  | case2 c cs _ ih => simp [ih]
  | case3 => rfl

end LiveAnchors

end ScopeGrammar
