import ScopeGrammar.Capture.Match
import ScopeGrammar.Pattern.Anchoring
import ScopeGrammar.Pattern.Escape
import ScopeGrammar.Text.Decimal

/-!
# References to the captures of another match

The pattern that ends a region can refer by `\1`, `\2`, … to what the pattern that began the region
captured. Such a pattern is a template: `fillReferences` puts the captured text in, escaped so that
it matches itself.
-/

namespace ScopeGrammar

/-- Whether a pattern has a backslash before a digit. The character after a backslash is never the
beginning of another escape. -/
def hasReferences : List Char → Bool
  | '\\' :: c :: cs => isAsciiDigit c || hasReferences cs
  | _ :: cs => hasReferences cs
  | [] => false

/-- A piece of a template of a pattern. -/
inductive ReferencePart where
  /-- Text that is kept. -/
  | verbatim (text : List Char)
  /-- A backslash and a run of digits. -/
  | reference (digits : List Char)
  deriving DecidableEq, Repr

/-- The pieces of a template. -/
def referenceParts : List Char → List ReferencePart
  | '\\' :: c :: cs =>
    if isAsciiDigit c then
      .reference (c :: cs.takeWhile isAsciiDigit) :: referenceParts (cs.dropWhile isAsciiDigit)
    else .verbatim ['\\', c] :: referenceParts cs
  | c :: cs => .verbatim [c] :: referenceParts cs
  | [] => []
termination_by cs => cs.length
decreasing_by
  · have := (List.dropWhile_suffix isAsciiDigit (l := cs)).length_le
    simp only [List.length_cons]
    omega
  · simp only [List.length_cons]; omega
  · simp only [List.length_cons]; omega

namespace ReferencePart

/-- Whether the piece is a reference. -/
def isReference : ReferencePart → Bool
  | verbatim _ => false
  | reference _ => true

/-- The text that takes the place of a piece: that of the group, escaped, or a character that never
matches when there is no such group or it took no part. -/
def fill (text : List Char) (m : Match) : ReferencePart → Except Fault (List Char)
  | verbatim cs => .ok cs
  | reference digits =>
    match (index? digits).bind m.group? with
    | none => .ok [neverMatches]
    | some s =>
      match slice? text s with
      | some captured => .ok (escapeChars captured)
      | none => .error .spanOutsideText

end ReferencePart

/-- The pattern with its references filled in, or `none` when it has none. -/
def fillReferences (pattern : List Char) (text : List Char) (m : Match) :
    Except Fault (Option (List Char)) :=
  let parts := referenceParts pattern
  if parts.any (·.isReference) then do
    let pieces ← parts.mapM (ReferencePart.fill text m)
    pure (some pieces.flatten)
  else .ok none

end ScopeGrammar
