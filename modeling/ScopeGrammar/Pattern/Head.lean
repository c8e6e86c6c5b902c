import ScopeGrammar.Pattern.Syntax
import ScopeGrammar.Text.Bytes

/-!
# The head of patterns

The *head* of a pattern is the text or the set of characters that every match begins with. Where the
heads of the body of a repeat and of what follows exclude each other, the repeat need never give
back a round.
-/

namespace ScopeGrammar

namespace CharProperty

/-- Whether only ASCII characters are seen to have the property. -/
def isAscii : CharProperty → Bool
  | ascii | xdigit => true
  | listed t => t.ranges.all fun r ↦ r.2 < 0x80
  | between _ high => high < 0x80
  | _ => false

end CharProperty

namespace CharClass

/-- Whether only ASCII characters are seen to be in the set. -/
def isAscii : CharClass → Bool
  | none => true
  | range _ high => high < 0x80
  | property p => p.isAscii
  | union a b => a.isAscii && b.isAscii
  | inter a b => a.isAscii || b.isAscii
  | compl _ => false

end CharClass

namespace CharTest

/-- The characters outside ASCII that fold to a letter of the alphabet. -/
def foreignVariants : List Char := [Char.ofNat 0x17F, Char.ofNat 0x212A]

/-- Whether only ASCII characters are seen to meet the condition. -/
def isAscii : CharTest → Bool
  | foldedAs fold => (caseVariants fold).all (· < 0x80)
  | inClass set false ignoreCase =>
    set.isAscii && !(ignoreCase && foreignVariants.any set.containsFolded)
  | _ => false

/-- The ASCII characters that meet the condition. -/
def asciiCodes (t : CharTest) : List Nat :=
  (List.range 0x80).filter fun n ↦ t.accepts (Char.ofNat n)

/-- Whether a condition is a set of characters, and not one that every pattern knows by itself. -/
def isSet : CharTest → Bool
  | foldedAs _ | inClass _ _ _ => true
  | any | notNewline | wordSign _ => false

end CharTest

namespace Pattern

/-- The text or the condition on a character that every match begins with; `exact` asks for a
text. -/
def head? (exact : Bool) : Pattern → Option Pattern
  | text [] _ => none
  | text codes i => some (text codes i)
  | char .any | char .notNewline => none
  | char test => if exact then none else some (char test)
  | sequence a _ => a.head? exact
  | repeated body low _ _ => if low = 0 then none else body.head? exact
  | group _ body | enclosed body | atomic body | lookAhead false body => body.head? exact
  | _ => none

/-- The first byte of a text that every match begins with. -/
def headByte? (p : Pattern) : Option Nat :=
  match p.head? true with
  | some (text (n :: _) _) => some (leadByte n)
  | _ => none

/-- Whether no character meets two conditions, as far as that is seen. -/
def testsExclude (s t : CharTest) : Bool :=
  match s, t with
  | .wordSign m, .wordSign n => m != n
  | .wordSign m, t => t.isAscii && !t.asciiCodes.any fun n ↦
      CharTest.accepts (.wordSign m) (Char.ofNat n)
  | s, .wordSign n => s.isAscii && !s.asciiCodes.any fun m ↦
      CharTest.accepts (.wordSign n) (Char.ofNat m)
  | s, t => (s.isAscii || t.isAscii) && !s.asciiCodes.any fun n ↦ t.accepts (Char.ofNat n)

/-- Whether no text begins with two heads, as far as that is seen. -/
def headsExclude : Pattern → Pattern → Bool
  | char s, char t => testsExclude s t
  | char t, text (n :: _) _ | text (n :: _) _, char t => !t.accepts (Char.ofNat n)
  | text cs _, text ds _ =>
    ((cs.flatMap codeBytes).zip (ds.flatMap codeBytes)).any fun (a, b) ↦ a != b
  | _, _ => false

/-- Whether a body takes text whatever happens and has no choices. -/
def isPlainText : Pattern → Bool
  | text codes _ => !codes.isEmpty
  | char _ => true
  | _ => false

/-- Whether a repeat of a body takes as many rounds as it can and need not give back any when
`next` follows. -/
def keepsRounds (body : Pattern) (low : Nat) (next : Pattern) : Bool :=
  low ≤ 1 && body.isPlainText &&
    match body.head? false, next.head? false with
    | some x, some y => headsExclude x y
    | _, _ => false

end Pattern

end ScopeGrammar
