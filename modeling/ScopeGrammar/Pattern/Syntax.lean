import ScopeGrammar.Pattern.CharClass

/-!
# Patterns

The syntax tree of a pattern. Options such as "regardless of case" are settled while a pattern is
read, so that the tree means the same wherever it stands.

A tree as it is read still has texts regardless of case and look-behinds whose width nobody has
looked at. Resolving it takes these out and leaves a tree of the same type.
-/

namespace ScopeGrammar

/-- A condition on one character. -/
inductive CharTest where
  /-- Any character with a given simple fold. -/
  | foldedAs (fold : Nat)
  /-- Any character. -/
  | any
  /-- Any character but the line feed. -/
  | notNewline
  /-- A character that is part of words, or one that is not. -/
  | wordSign (negated : Bool)
  /-- A character in a set, or outside it, perhaps regardless of case. -/
  | inClass (set : CharClass) (negated ignoreCase : Bool)
  deriving DecidableEq, Repr, Inhabited

namespace CharTest

/-- Whether a character meets the condition. -/
def accepts : CharTest → Char → Bool
  | foldedAs fold, c => simpleFold c.toNat == fold
  | any, _ => true
  | notNewline, c => c != '\n'
  | wordSign negated, c => isWordSign c != negated
  | inClass set negated ignoreCase, c =>
    (if ignoreCase then set.containsFolded c else set.contains c) != negated

end CharTest

/-- A condition on a position that takes no text. -/
inductive Anchor where
  /-- At the start of a line. -/
  | lineStart
  /-- At the end of a line. -/
  | lineEnd
  /-- At the start of the text. -/
  | textStart
  /-- At the end of the text. -/
  | textEnd
  /-- At the end of the text or before a line feed that ends it. -/
  | textEndOrNewline
  /-- Where the search began. -/
  | searchStart
  /-- Between a character that is part of a word and one that is not. -/
  | wordBoundary
  /-- Not at a word boundary. -/
  | notWordBoundary
  deriving DecidableEq, Repr, Inhabited

/-- A pattern. -/
inductive Pattern where
  /-- The characters with some code points, perhaps regardless of case. -/
  | text (codes : List Nat) (ignoreCase : Bool)
  | char (test : CharTest)
  | anchor (a : Anchor)
  /-- One after the other. A list of elements leans to the right; a sequence on the left is a
  sequence of its own. -/
  | sequence (a b : Pattern)
  /-- One or else the other. A list of alternatives leans to the right. -/
  | either (a b : Pattern)
  /-- A capture group with its number. -/
  | group (number : Nat) (body : Pattern)
  /-- A part that is kept apart from what is around it. -/
  | enclosed (body : Pattern)
  /-- Between `low` and `high` times, or without upper limit; as often as possible or as rarely. -/
  | repeated (body : Pattern) (low : Nat) (high : Option Nat) (greedy : Bool)
  /-- The body is not tried again once it has matched. -/
  | atomic (body : Pattern)
  /-- The body matches, or does not match, from here on. -/
  | lookAhead (negated : Bool) (body : Pattern)
  /-- The body matches, or does not match, some text that ends here. -/
  | lookBehind (negated : Bool) (body : Pattern)
  /-- The text of the first of some groups that took part and fits. `inside` says that one of them
  is still open here. -/
  | backreference (groups : List Nat) (ignoreCase inside : Bool)
  /-- Nothing matches. -/
  | never
  deriving DecidableEq, Repr, Inhabited

namespace Pattern

/-- The pattern that takes no text. -/
def empty : Pattern := text [] false

/-- The elements of a sequence. -/
def elements : Pattern → List Pattern
  | sequence a b => a :: elements b
  | p => [p]

/-- The alternatives of a choice. -/
def alternatives : Pattern → List Pattern
  | either a b => a :: alternatives b
  | p => [p]

/-- Joins neighbouring texts of the same kind. -/
def joinTexts : List Pattern → List Pattern
  | [] => []
  | p :: ps =>
    match p, joinTexts ps with
    | text cs i, text ds j :: rest =>
      if i = j then text (cs ++ ds) i :: rest else text cs i :: text ds j :: rest
    | p, rest => p :: rest

/-- The elements of a list one after the other. -/
def sequenceAll : List Pattern → Pattern
  | [] => empty
  | [p] => p
  | p :: ps => sequence p (sequenceAll ps)

/-- The alternatives of a list, the first one preferred. A last alternative that is a choice itself
is kept apart. -/
def eitherAll : List Pattern → Pattern
  | [] => empty
  | [either a b] => enclosed (either a b)
  | [p] => p
  | p :: ps => either p (eitherAll ps)

/-- What a list of parts makes up. A part after the first that is a sequence is taken apart, and
neighbouring texts are joined. -/
def ofParts : List Pattern → Pattern
  | [] => empty
  | [p] => p
  | p :: ps => sequenceAll (joinTexts (p :: ps.flatMap elements))

/-- The groups that back-references refer to, once for each reference. -/
def references : Pattern → List Nat
  | text _ _ | char _ | anchor _ | never => []
  | sequence a b | either a b => a.references ++ b.references
  | group _ body | enclosed body | repeated body _ _ _ | atomic body | lookAhead _ body
  | lookBehind _ body => body.references
  | backreference groups _ _ => groups

/-- The capture groups with their bodies. -/
def groupBodies : Pattern → List (Nat × Pattern)
  | text _ _ | char _ | anchor _ | never | backreference _ _ _ => []
  | sequence a b | either a b => a.groupBodies ++ b.groupBodies
  | group n body => (n, body) :: body.groupBodies
  | enclosed body | repeated body _ _ _ | atomic body | lookAhead _ body
  | lookBehind _ body => body.groupBodies

end Pattern

end ScopeGrammar
