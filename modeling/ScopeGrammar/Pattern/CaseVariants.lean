import ScopeGrammar.Pattern.Syntax

/-!
# Texts regardless of case

A text regardless of case stands for all texts with the same full fold, as far as they come from it
character by character: `ss` and `ß` stand for each other, and for `ẞ`, `SS` and so on. `expandText`
spells the variants out. In look-behind, where the width of a text counts, every character stands
for single characters only.
-/

namespace ScopeGrammar

namespace Pattern

/-- All ways to pick one code point for each member of a fold. -/
def picks : List (List Nat) → List (List Nat)
  | [] => [[]]
  | cs :: rest => cs.flatMap fun c ↦ (picks rest).map (c :: ·)

/-- The texts that fold to several characters, `written` first. -/
def longVariants (written fold : List Nat) : Pattern :=
  let others := (unfolds fold).map ([·]) ++ picks (fold.map caseVariants)
  eitherAll ((written :: others.filter (· ≠ written)).map (text · false))

/-- The characters that one character stands for. -/
def shortVariants (n : Nat) : Pattern :=
  if caseVariants n = [n] then text [n] false else char (.foldedAs (simpleFold n))

/-- What one character stands for when the characters around it do not matter. -/
def variants (n : Nat) : Pattern :=
  match fullFold n with
  | [_] => shortVariants n
  | fold => longVariants [n] fold

/-- The member of a long fold that a character can be; one with a long fold of its own is none. -/
def foldPart (n : Nat) : Nat :=
  match fullFold n with
  | [f] => f
  | _ => n

/-- Whether several characters together have the long fold of another one. -/
def isLongFold (codes : List Nat) : Bool :=
  longFoldTexts.contains (codes.map foldPart)

/-- What the characters of a text stand for, three or two of them together if they make up a long
fold. -/
def expandCodes : List Nat → List Pattern
  | [] => []
  | [a] => [variants a]
  | [a, b] =>
    if isLongFold [a, b] then [longVariants [a, b] [foldPart a, foldPart b]]
    else [variants a, variants b]
  | a :: b :: c :: rest =>
    if isLongFold [a, b, c] then
      longVariants [a, b, c] [foldPart a, foldPart b, foldPart c] :: expandCodes rest
    else if isLongFold [a, b] then
      longVariants [a, b] [foldPart a, foldPart b] :: expandCodes (c :: rest)
    else variants a :: expandCodes (b :: c :: rest)

/-- What a text stands for regardless of case; `behind` says that it is in look-behind. -/
def expandText (behind : Bool) (codes : List Nat) : Pattern :=
  sequenceAll (joinTexts (if behind then codes.map shortVariants else expandCodes codes))

end Pattern

end ScopeGrammar
