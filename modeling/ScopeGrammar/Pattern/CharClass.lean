import ScopeGrammar.Text.BinaryProperty
import ScopeGrammar.Text.Blank
import ScopeGrammar.Text.Block
import ScopeGrammar.Text.Folding
import ScopeGrammar.Text.Property
import ScopeGrammar.Text.Script

/-!
# Character classes

Sets of characters as patterns write them: ranges of code points and named properties, combined by
union, intersection and complement. Membership is decided by recursion on the set.
-/

namespace ScopeGrammar

/-- A property of characters that a pattern can name. -/
inductive CharProperty where
  | alnum
  | alpha
  | ascii
  | blank
  | cntrl
  | digit
  | graph
  | lower
  | print
  | punct
  | space
  | upper
  | word
  | xdigit
  | any
  | assigned
  /-- One of several general categories. -/
  | categories (gs : List Category)
  /-- The characters of a table. -/
  | listed (t : RangeTable)
  /-- The characters between two code points, both included. -/
  | between (low high : Nat)
  deriving DecidableEq, Repr

namespace CharProperty

/-- Whether a character has the property. -/
def contains : CharProperty → Char → Bool
  | alnum, c => alphabeticTable.contains c || isDecimalDigit c
  | alpha, c => alphabeticTable.contains c
  | ascii, c => c.toNat < 128
  | blank, c => c == '\t' || Category.spaceSeparator.contains c
  | cntrl, c => Category.control.contains c
  | digit, c => isDecimalDigit c
  | graph, c => !isBlank c && !Category.control.contains c && !Category.unassigned.contains c
  | lower, c => lowercaseTable.contains c
  | print, c =>
    (!isBlank c || Category.spaceSeparator.contains c) && !Category.control.contains c &&
      !Category.unassigned.contains c
  | punct, c => punctuationTable.contains c
  | space, c => isBlank c
  | upper, c => uppercaseTable.contains c
  | word, c => isWord c
  | xdigit, c => isHexDigit c
  | any, _ => true
  | assigned, c => !Category.unassigned.contains c
  | categories gs, c => gs.any (·.contains c)
  | listed t, c => t.contains c
  | between low high, c => low ≤ c.toNat && c.toNat ≤ high

/-- The names of the bracket notation, as in `[:alpha:]`. -/
def bracketNames : List (String × CharProperty) :=
  [("alnum", alnum), ("alpha", alpha), ("blank", blank), ("cntrl", cntrl), ("digit", digit),
   ("graph", graph), ("lower", lower), ("print", print), ("punct", punct), ("space", space),
   ("upper", upper), ("xdigit", xdigit), ("ascii", ascii), ("word", word)]

/-- The categories of punctuation. -/
def punctuation : List Category :=
  [.connectorPunctuation, .dashPunctuation, .openPunctuation, .closePunctuation,
   .initialPunctuation, .finalPunctuation, .otherPunctuation]

/-- The seven major classes of general categories, by code and name, and the cased letters. Outside
the bracket notation "punct" is the class of punctuation, without symbols. -/
def majorClasses : List (List String × List Category) :=
  [(["L", "Letter"],
      [.uppercaseLetter, .lowercaseLetter, .titlecaseLetter, .modifierLetter, .otherLetter]),
   (["LC", "Cased_Letter"], [.uppercaseLetter, .lowercaseLetter, .titlecaseLetter]),
   (["M", "Mark", "Combining_Mark"], [.nonspacingMark, .spacingMark, .enclosingMark]),
   (["N", "Number"], [.decimalNumber, .letterNumber, .otherNumber]),
   (["P", "Punctuation", "punct"], punctuation),
   (["S", "Symbol"], [.mathSymbol, .currencySymbol, .modifierSymbol, .otherSymbol]),
   (["Z", "Separator"], [.spaceSeparator, .lineSeparator, .paragraphSeparator]),
   (["C", "Other"], [.control, .format, .surrogate, .privateUse, .unassigned])]

/-- The properties of letters, words and blanks that have longer names as well. -/
def longNames : List (List String × CharProperty) :=
  [(["any"], any), (["assigned"], assigned), (["newline"], between 10 10),
   (["alphabetic"], alpha), (["lowercase"], lower), (["uppercase"], upper),
   (["white_space", "wspace"], space),
   (["cased"], listed casedTable), (["case_ignorable", "ci"], listed caseIgnorableTable),
   (["grapheme_extend", "gr_ext"], listed graphemeExtendTable),
   (["other_alphabetic", "oalpha"], listed otherAlphabeticTable),
   (["other_lowercase", "olower"], listed otherLowercaseTable),
   (["other_uppercase", "oupper"], listed otherUppercaseTable),
   (["other_grapheme_extend", "ogr_ext"], listed otherGraphemeExtendTable),
   (["qaac"], listed (Script.tableOf "Copt")), (["qaai"], listed (Script.tableOf "Zinh"))]

/-- A name without spaces, dashes and underscores and regardless of case. -/
def normalize (name : List Char) : List Char :=
  (name.filter fun c ↦ !(c == ' ' || c == '-' || c == '_')).map Char.toLower

/-- Every name of a property, normalized. -/
def names : List (List Char × CharProperty) :=
  let named (ns : List String) (p : CharProperty) : List (List Char × CharProperty) :=
    ns.map fun n ↦ (normalize n.toList, p)
  majorClasses.flatMap (fun (ns, gs) ↦ named ns (categories gs)) ++
  bracketNames.map (fun (n, p) ↦ (n.toList, p)) ++
  longNames.flatMap (fun (ns, p) ↦ named ns p) ++
  (Category.unassigned :: Category.assigned).flatMap (fun g ↦
    named [g.code, g.name] (categories [g])) ++
  Script.all.flatMap (fun s ↦ named [s.name, s.code] (listed s.table)) ++
  BinaryProperty.all.flatMap (fun b ↦ named [b.name, b.code] (listed b.table)) ++
  Block.all.flatMap (fun b ↦ named ["In_" ++ b.name] (between b.low b.high)) ++
  named ["In_No_Block"] (listed Block.outside)

/-- The property with a name. -/
def ofName? (name : List Char) : Option CharProperty :=
  names.lookup (normalize name)

end CharProperty

/-- A set of characters. Ranges run over code points and may reach past the last character. -/
inductive CharClass where
  | none
  | range (low high : Nat)
  | property (p : CharProperty)
  | union (a b : CharClass)
  | inter (a b : CharClass)
  | compl (a : CharClass)
  deriving DecidableEq, Repr, Inhabited

namespace CharClass

/-- Whether a character is in the set. -/
def contains : CharClass → Char → Bool
  | none, _ => false
  | range low high, c => low ≤ c.toNat && c.toNat ≤ high
  | property p, c => p.contains c
  | union a b, c => a.contains c || b.contains c
  | inter a b, c => a.contains c && b.contains c
  | compl a, c => !a.contains c

/-- The set of the characters that have a property, or of those that do not. -/
def ofProperty (p : CharProperty) (negated : Bool) : CharClass :=
  if negated then compl (property p) else property p

/-- Whether the character with a code point is in the set. -/
def containsCode (s : CharClass) (n : Nat) : Bool :=
  s.contains (Char.ofNat n)

/-- The code points of the set, if it is seen to have only some. -/
def members? : CharClass → Option (List Nat)
  | none => some []
  | range low high =>
    if high - low < 0x100 then some (List.range' low (high + 1 - low)) else Option.none
  | property _ | compl _ => Option.none
  | union a b =>
    match a.members?, b.members? with
    | some ms, some ns => some (ms ++ ns)
    | _, _ => Option.none
  | inter a b =>
    match a.members?, b.members? with
    | some ms, _ => some (ms.filter b.containsCode)
    | Option.none, some ns => some (ns.filter a.containsCode)
    | Option.none, Option.none => Option.none

/-- The only code point of the set, if it is seen to have only one. -/
def single? (s : CharClass) : Option Nat :=
  match s.members? with
  | some (n :: ns) => if ns.all (· == n) then some n else Option.none
  | _ => Option.none

/-- Whether a character is in the set up to letter case. -/
def containsFolded (s : CharClass) (c : Char) : Bool :=
  s.contains c || (caseVariants c.toNat).any s.containsCode

end CharClass

end ScopeGrammar
