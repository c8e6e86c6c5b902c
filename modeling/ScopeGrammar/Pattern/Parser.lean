import ScopeGrammar.Pattern.ClassParser
import ScopeGrammar.Pattern.GroupName
import ScopeGrammar.Pattern.Repetition

/-!
# Reading patterns

A pattern is read from left to right by one loop that keeps the open groups on a stack, so that no
part of the reader calls itself for nested groups. Every step takes at least one character. The
references to groups are checked at the end, when the number of groups is known.

Characters that stand for themselves make up texts; a repeat operator after a text reaches only its
last character.

Options such as `(?i)` hold until the end of the group they stand in and reach over the
alternatives after them, so such an option opens an unmarked group of its own.
-/

namespace ScopeGrammar

/-- The options that a pattern can set for a part of itself. -/
structure PatternOptions where
  ignoreCase : Bool := false
  /-- Blanks are left out and `#` begins a comment. -/
  extended : Bool := false
  /-- The dot matches line feeds too. -/
  dotAll : Bool := false
  deriving DecidableEq, Repr

/-- A part of a pattern that a repeat operator can follow. -/
structure PatternAtom where
  pattern : Pattern
  /-- An anchor cannot be repeated, nor a choice of which one alternative is an anchor. -/
  repeatable : Bool := true
  /-- The text that was read together with the atom and that a repeat operator does not reach. -/
  before : Option Pattern := none
  /-- The number of repeat operators applied so far. -/
  repeats : Nat := 0
  deriving Repr

namespace PatternAtom

/-- The atom and the text before it. -/
def toPattern (a : PatternAtom) : Pattern :=
  match a.before with
  | none => a.pattern
  | some p => .sequence p a.pattern

/-- Atoms one after the other; `atoms` has the last one first. -/
def ofBranch (atoms : List PatternAtom) : PatternAtom :=
  match atoms with
  | [⟨p, repeatable, none, _⟩] => { pattern := p, repeatable := repeatable }
  | atoms => { pattern := .ofParts (atoms.reverse.map toPattern) }

/-- The alternatives of a group; `branches` has the last one first. -/
def ofBranches (branches : List PatternAtom) : PatternAtom :=
  { pattern := .eitherAll (branches.reverse.map (·.pattern))
    repeatable := branches.all (·.repeatable) }

end PatternAtom

/-- How a repeat chooses between going on and stopping. -/
inductive Greed where
  /-- As often as possible, fewer on failure. -/
  | greedy
  /-- As rarely as possible, more on failure. -/
  | lazy
  /-- As often as possible, and never fewer. -/
  | possessive
  deriving DecidableEq, Repr, Inhabited

/-- The kinds of open groups. -/
inductive GroupKind where
  | capture (number : Nat)
  | plain
  /-- A group with options in its head. -/
  | withOptions
  | atomic
  | lookAhead (negated : Bool)
  | lookBehind (negated : Bool)
  /-- The part of a group that follows an option. -/
  | optionTail
  deriving DecidableEq, Repr

namespace GroupKind

/-- The atom that a closed group makes of its content. -/
def close (k : GroupKind) (content : PatternAtom) : PatternAtom :=
  match k with
  | capture n => { pattern := .group n content.pattern }
  | plain => content
  | withOptions | optionTail => { pattern := .enclosed content.pattern }
  | atomic => { pattern := .atomic content.pattern }
  | lookAhead negated => { pattern := .lookAhead negated content.pattern, repeatable := false }
  | lookBehind negated => { pattern := .lookBehind negated content.pattern, repeatable := false }

end GroupKind

/-- An open group: its kind, the options outside it, and what precedes it there. -/
structure OpenGroup where
  kind : GroupKind
  options : PatternOptions
  branch : List PatternAtom
  branches : List PatternAtom
  deriving Repr

/-- A pattern that is being read. -/
structure PatternReading where
  options : PatternOptions := {}
  /-- The number of capture groups opened so far. -/
  groups : Nat := 0
  /-- The group names seen so far with their groups, the last ones first. -/
  names : List (List Char × Nat) := []
  /-- The literal characters read last, the last one first, if nothing else came after them. -/
  literals : List Nat := []
  /-- The atoms of the current alternative before these characters, the last one first. -/
  branch : List PatternAtom := []
  /-- The alternatives before it in the current group, the last one first. -/
  branches : List PatternAtom := []
  /-- The open groups, the innermost one first. -/
  openGroups : List OpenGroup := []
  deriving Repr

/-- How deep a pattern can nest. -/
def maxDepth : Nat := 4096

namespace PatternReading

/-- How deep the current place is nested. Every group counts twice, once for its alternatives and
once for what they consist of. -/
def depth (st : PatternReading) : Nat :=
  2 * st.openGroups.length + 2

/-- The text of some literal characters, which are given with the last one first. -/
def textOf (st : PatternReading) (literals : List Nat) : Pattern :=
  .text literals.reverse st.options.ignoreCase

/-- The atoms of the current alternative with the literal characters at its end. -/
def atoms (st : PatternReading) : List PatternAtom :=
  match st.literals with
  | [] => st.branch
  | literals => { pattern := st.textOf literals } :: st.branch

/-- Appends an atom. -/
def push (st : PatternReading) (a : PatternAtom) : PatternReading :=
  { st with branch := a :: st.atoms, literals := [] }

/-- Appends a pattern that can be repeated. -/
def pushPattern (st : PatternReading) (p : Pattern) : PatternReading :=
  st.push { pattern := p }

/-- Appends an anchor. -/
def pushAnchor (st : PatternReading) (a : Anchor) : PatternReading :=
  st.push { pattern := .anchor a, repeatable := false }

/-- Appends a character that stands for itself. -/
def pushLiteral (st : PatternReading) (c : Char) : PatternReading :=
  { st with literals := c.toNat :: st.literals }

/-- Appends the character with a code point. -/
def pushCode (st : PatternReading) (n : Nat) : PatternReading :=
  st.pushPattern (.text [n] st.options.ignoreCase)

/-- The pattern for one code point of a fold. -/
def foldMember (n : Nat) : Pattern :=
  if caseVariants n = [n] then .text [n] false else .char (.foldedAs n)

/-- The pattern for a set of characters. A single character is a text; regardless of case, the
characters that fold to several stand for these as well. -/
def classPattern (s : CharClass) (negated ignoreCase : Bool) : Pattern :=
  match if negated then none else s.single? with
  | some n => .text [n] ignoreCase
  | none =>
    let test := Pattern.char (.inClass s negated ignoreCase)
    if ignoreCase && !negated then
      let folds := longFoldTexts.filter fun fold ↦ (unfolds fold).any s.containsCode
      .eitherAll (test :: folds.map fun fold ↦ .sequenceAll (fold.map foldMember))
    else test

/-- Appends a set of characters in brackets. -/
def pushClass (st : PatternReading) (s : CharClass) (negated : Bool) : PatternReading :=
  st.pushPattern (classPattern s negated st.options.ignoreCase)

/-- Appends a set of characters that has a name. Characters of words are those of word
boundaries. -/
def pushNamedSet (st : PatternReading) (s : CharClass) : PatternReading :=
  st.pushPattern <| .char <|
    match s with
    | .property .word => .wordSign false
    | .compl (.property .word) => .wordSign true
    | s => .inClass s false false

/-- Ends an alternative. -/
def alternative (st : PatternReading) : PatternReading :=
  { st with literals := [], branch := [], branches := .ofBranch st.atoms :: st.branches }

/-- Opens a group. -/
def openGroup (st : PatternReading) (kind : GroupKind) (options : PatternOptions) :
    Except PatternError PatternReading :=
  let st := { st with
    options := options
    literals := []
    branch := []
    branches := []
    openGroups := ⟨kind, st.options, st.atoms, st.branches⟩ :: st.openGroups }
  if st.depth ≤ maxDepth then .ok st else .error .nestedTooDeeply

/-- Opens the next capture group. -/
def openCapture (st : PatternReading) : Except PatternError PatternReading :=
  { st with groups := st.groups + 1 }.openGroup (.capture (st.groups + 1)) st.options

/-- Whether a capture group is open. -/
def isOpen (st : PatternReading) (n : Nat) : Bool :=
  st.openGroups.any fun g ↦ g.kind == .capture n

/-- The content of the current group. -/
def content (st : PatternReading) : PatternAtom :=
  match st.branches with
  | [] => .ofBranch st.atoms
  | branches => .ofBranches (.ofBranch st.atoms :: branches)

/-- Closes the current group into the one around it. -/
def closeInto (st : PatternReading) (g : OpenGroup) (rest : List OpenGroup) : PatternReading :=
  { st with
    options := g.options
    literals := []
    branch := g.kind.close st.content :: g.branch
    branches := g.branches
    openGroups := rest }

/-- Closes the unmarked groups of options, which end where the group around them ends. -/
def closeTails (st : PatternReading) : PatternReading :=
  go st st.openGroups
where
  /-- Closes the first of some open groups if it is unmarked, and so on. -/
  go (st : PatternReading) : List OpenGroup → PatternReading
    | g :: rest => if g.kind = .optionTail then go (st.closeInto g rest) rest else st
    | [] => st

/-- Takes a closing parenthesis. -/
def closeGroup (st : PatternReading) : Except PatternError PatternReading :=
  let st := st.closeTails
  match st.openGroups with
  | [] => .error .unmatchedClose
  | g :: rest => .ok (st.closeInto g rest)

/-- The last atom and the atoms before it. Of several literal characters only the last one is an
atom of its own. -/
def lastAtom? (st : PatternReading) : Option (PatternAtom × List PatternAtom) :=
  match st.literals, st.branch with
  | [], [] => none
  | [], a :: before => some (a, before)
  | [n], before => some ({ pattern := st.textOf [n] }, before)
  | n :: literals, before =>
    some ({ pattern := st.textOf [n], before := some (st.textOf literals) }, before)

/-- Applies a repeat operator to the last atom. -/
def repeatLast (st : PatternReading) (low : Nat) (high : Option Nat) (greed : Greed) :
    Except PatternError PatternReading :=
  match st.lastAtom? with
  | none => .error .missingRepeatTarget
  | some (a, before) =>
    if !a.repeatable then .error .invalidRepeatTarget
    else if maxDepth < st.depth + a.repeats + 1 then .error .nestedTooDeeply
    else do
      let p ← a.pattern.repeat low high (greed != .lazy)
      let unchanged := low = 1 ∧ high = some 1
      pure { st with
        literals := []
        branch :=
          { a with
            pattern := if greed = .possessive ∧ ¬unchanged then .atomic p else p
            repeats := a.repeats + 1 } :: before }

/-- The groups with a name, the last one first. -/
def groupsNamed (st : PatternReading) (name : List Char) : List Nat :=
  st.names.filterMap fun entry ↦ if entry.1 == name then some entry.2 else none

end PatternReading

namespace PatternParser

/-- The remaining text and the state after one step. -/
abbrev Step := Except PatternError (PatternReading × List Char)

/-! ### Repeat operators -/

/-- Reads the mark after a repeat operator that makes it lazy or possessive. -/
def greedMark (cs : List Char) : Greed × List Char :=
  match cs with
  | '?' :: rest => (.lazy, rest)
  | '+' :: rest => (.possessive, rest)
  | cs => (.greedy, cs)

/-- The greatest repeat count. -/
def maxRepeat : Nat := 100000

/-- Reads a repeat count; without digits it is zero. -/
def repeatCount (cs : List Char) : Except PatternError (Nat × List Char) :=
  match Scan.number cs with
  | (some n, rest) => if n ≤ maxRepeat then .ok (n, rest) else .error .repeatTooLarge
  | (none, _) => .error .repeatTooLarge

/-- An interval in braces: its bounds, and whether it is a single number. -/
structure Interval where
  low : Nat
  high : Option Nat
  single : Bool
  rest : List Char

/-- Reads an interval after its opening brace. `none` when the brace stands for itself: the upper
bound may be missing, or the lower one, but not both. -/
def interval? (cs : List Char) : Except PatternError (Option Interval) := do
  let (low, rest) ← repeatCount cs
  let noLow := rest.length == cs.length
  match rest with
  | ',' :: afterComma =>
    let (high, rest) ← repeatCount afterComma
    let noHigh := rest.length == afterComma.length
    match rest with
    | '\x7d' :: rest =>
      if noLow && noHigh then pure none
      else pure (some ⟨low, if noHigh then none else some high, false, rest⟩)
    | _ => pure none
  | '\x7d' :: rest => if noLow then pure none else pure (some ⟨low, some low, true, rest⟩)
  | _ => pure none

/-- Takes an interval. One with its bounds in the wrong order is possessive. A single number cannot
be made lazy or possessive, and an interval cannot be made possessive: the mark is then an operator
of its own. -/
def applyInterval (st : PatternReading) (i : Interval) : Step := do
  let swapped : Bool := match i.high with
    | some high => decide (high < i.low)
    | none => false
  if swapped then
    pure (← st.repeatLast (i.high.getD 0) (some i.low) .possessive, i.rest)
  else
    match i.single, i.rest with
    | false, '?' :: rest => pure (← st.repeatLast i.low i.high .lazy, rest)
    | _, rest => pure (← st.repeatLast i.low i.high .greedy, rest)

/-- Takes one of the operators `*`, `+` and `?`. -/
def applyOperator (st : PatternReading) (low : Nat) (high : Option Nat) (cs : List Char) : Step :=
  do
  let (greed, rest) := greedMark cs
  pure (← st.repeatLast low high greed, rest)

/-! ### References -/

/-- Appends a reference to groups. -/
def pushReference (st : PatternReading) (groups : List Nat) : PatternReading :=
  st.pushPattern (.backreference groups st.options.ignoreCase (groups.any st.isOpen))

/-- The groups that a name refers to. -/
def groupsOf (st : PatternReading) : GroupName → Except PatternError (List Nat)
  | .named name =>
    match st.groupsNamed name with
    | [] => .error (.unknownGroupName (String.ofList name))
    | groups => .ok groups
  | .absolute n => if n = 0 then .error .unknownGroupNumber else .ok [n]
  | .relative true n => .ok [st.groups + n]
  | .relative false n =>
    if st.groups < n then .error .unknownGroupNumber else .ok [st.groups + 1 - n]

/-- Takes a reference by name, after its opening mark. No group has captures of another level. -/
def namedReference (st : PatternReading) (close : Char) (cs : List Char) : Step := do
  let (name, level, rest) ← GroupName.referenceName close cs
  let groups ← groupsOf st name
  pure (if level = 0 then pushReference st groups else st.pushPattern .never, rest)

/-! ### Escapes -/

/-- The anchor that a letter after a backslash names. -/
def anchorOf? (c : Char) : Option Anchor :=
  match c with
  | 'A' => some .textStart
  | 'z' => some .textEnd
  | 'Z' => some .textEndOrNewline
  | 'G' => some .searchStart
  | 'b' => some .wordBoundary
  | 'B' => some .notWordBoundary
  | _ => none

/-- A line end of any kind. -/
def anyNewline : Pattern :=
  .atomic (.either (.text [13, 10] false)
    (.char (.inClass (.union (.range 10 13) (.union (.range 0x85 0x85) (.range 0x2028 0x2029)))
      false false)))

/-- The greatest number that can refer to a group. -/
def maxReference : Nat := 1000

/-- Takes an escape that stands for a value. -/
def pushValue (st : PatternReading) (r : Scan.Value × List Char) : Step := do
  match r with
  | (.literal c, rest) => pure (st.pushLiteral c, rest)
  | (.codePoints n more, rest) =>
    let codes := n :: more.map (·.value)
    if codes.all Scan.isCodePoint then pure (codes.foldl (·.pushCode ·) st, rest)
    else .error .invalidCodePoint
  | (.byte n _, rest) =>
    let need := Scan.sequenceLength n
    let (more, rest) ← Scan.moreBytes false none (need - 1) rest
    if more.length + 1 < need then .error .incompleteBytes
    else if Scan.wellFormed (n :: more) then pure (st.pushCode (Scan.decode (n :: more)), rest)
    else .error .invalidCodePoint

/-- Takes an escape that begins with a digit other than zero: a reference to a group if there are
that many groups or it is a single digit, else a byte in octal. -/
def numberEscape (st : PatternReading) (c : Char) (cs : List Char) : Step :=
  let asByte : Step :=
    if c == '8' || c == '9' then pure (st.pushLiteral c, cs)
    else do pushValue st (← Scan.octalEscape 3 (c :: cs))
  match Scan.number (c :: cs) with
  | (some n, rest) =>
    if n ≤ maxReference && (n ≤ st.groups || n ≤ 9) then pure (pushReference st [n], rest)
    else asByte
  | (none, _) => asByte

/-- Takes an escape; the backslash is already read. -/
def escapeStep (st : PatternReading) (cs : List Char) : Step := do
  match cs with
  | [] => .error .endAfterBackslash
  | c :: rest =>
    match anchorOf? c, ClassToken.shorthand? c with
    | some a, _ => pure (st.pushAnchor a, rest)
    | none, some s => pure (st.pushNamedSet s, rest)
    | none, none =>
      match c, rest with
      | 'p', '\x7b' :: rest =>
        let (s, rest) ← ClassToken.property false rest
        pure (st.pushNamedSet s, rest)
      | 'P', '\x7b' :: rest =>
        let (s, rest) ← ClassToken.property true rest
        pure (st.pushNamedSet s, rest)
      | 'k', '<' :: rest => namedReference st '>' rest
      | 'k', '\'' :: rest => namedReference st '\'' rest
      | 'g', '<' :: _ => .error .unsupported
      | 'g', '\'' :: _ => .error .unsupported
      | 'x', rest => pushValue st (← Scan.hexEscape none rest)
      | 'u', rest => pushValue st (← Scan.unicodeEscape rest)
      | 'o', rest => pushValue st (← Scan.octalBraceEscape none rest)
      | '0', rest => pushValue st (← Scan.octalEscape 2 rest)
      | 'R', rest => pure (st.pushPattern anyNewline, rest)
      | 'N', rest => pure (st.pushPattern (.char .notNewline), rest)
      | 'O', rest => pure (st.pushPattern (.char .any), rest)
      | 'K', _ => .error .unsupported
      | 'X', _ => .error .unsupported
      | 'y', _ => .error .unsupported
      | 'Y', _ => .error .unsupported
      | c, rest =>
        if isAsciiDigit c then numberEscape st c rest
        else pushValue st (← Scan.plainEscape c rest)

/-! ### Groups -/

/-- Skips a comment after its opening mark. -/
def comment : List Char → Except PatternError (List Char)
  | [] => .error .endInGroupHead
  | '\\' :: _ :: cs => comment cs
  | ')' :: cs => .ok cs
  | _ :: cs => comment cs

/-- Reads the letters of an option group up to a closing parenthesis or a colon. `exotic` says that
one of the letters restricts properties to ASCII, which is not supported. -/
def optionLetters (st : PatternReading) (negate exotic : Bool) (options : PatternOptions) :
    List Char → Step
  | [] => .error .endInGroupHead
  | ')' :: cs =>
    if exotic then .error .unsupported
    else (st.openGroup .optionTail options).map (·, cs)
  | ':' :: cs =>
    if exotic then .error .unsupported
    else (st.openGroup .withOptions options).map (·, cs)
  | '-' :: cs => optionLetters st true exotic options cs
  | 'x' :: cs => optionLetters st negate exotic { options with extended := !negate } cs
  | 'i' :: cs => optionLetters st negate exotic { options with ignoreCase := !negate } cs
  | 'm' :: cs => optionLetters st negate exotic { options with dotAll := !negate } cs
  | c :: cs =>
    if c ∈ ['W', 'D', 'S', 'P'] then optionLetters st negate true options cs
    else .error .unknownGroupOption

/-- Opens a capture group with a name, after the opening mark of the name. -/
def namedGroup (st : PatternReading) (close : Char) (cs : List Char) : Step := do
  let (name, rest) ← GroupName.definedName close cs
  let st ← st.openCapture
  pure ({ st with names := (name, st.groups) :: st.names }, rest)

/-- Takes the head of a group that begins with a question mark, which is already read. -/
def groupHead (st : PatternReading) (cs : List Char) : Step := do
  match cs with
  | [] => .error .endInGroupHead
  | '#' :: cs => pure (st, ← comment cs)
  | ':' :: cs => pure (← st.openGroup .plain st.options, cs)
  | '=' :: cs => pure (← st.openGroup (.lookAhead false) st.options, cs)
  | '!' :: cs => pure (← st.openGroup (.lookAhead true) st.options, cs)
  | '>' :: cs => pure (← st.openGroup .atomic st.options, cs)
  | '\'' :: cs => namedGroup st '\'' cs
  | '<' :: [] => .error .unclosedGroup
  | '<' :: '=' :: cs => pure (← st.openGroup (.lookBehind false) st.options, cs)
  | '<' :: '!' :: cs => pure (← st.openGroup (.lookBehind true) st.options, cs)
  | '<' :: cs => namedGroup st '>' cs
  | '~' :: _ => .error .unsupported
  | '\x7b' :: _ => .error .unsupported
  | '(' :: _ => .error .unsupported
  | ')' :: _ => .error .unknownGroupOption
  | cs => optionLetters st false false st.options cs

/-- Takes an opening parenthesis, which is already read. -/
def openStep (st : PatternReading) (cs : List Char) : Step :=
  match cs with
  | [] => .error .unclosedGroup
  | '?' :: cs => groupHead st cs
  | '*' :: _ => .error .unsupported
  | cs => (st.openCapture).map (·, cs)

/-! ### The loop -/

/-- Takes the next token; `c` is its first character. -/
def step (st : PatternReading) (c : Char) (cs : List Char) : Step := do
  match c with
  | '\\' => escapeStep st cs
  | '(' => openStep st cs
  | ')' => pure (← st.closeGroup, cs)
  | '|' => pure (st.alternative, cs)
  | '*' => applyOperator st 0 none cs
  | '+' => applyOperator st 1 none cs
  | '?' => applyOperator st 0 (some 1) cs
  | '\x7b' =>
    match ← interval? cs with
    | some i => applyInterval st i
    | none => pure (st.pushLiteral c, cs)
  | '.' => pure (st.pushPattern (.char (if st.options.dotAll then .any else .notNewline)), cs)
  | '^' => pure (st.pushAnchor .lineStart, cs)
  | '$' => pure (st.pushAnchor .lineEnd, cs)
  | '[' =>
    let (negated, s, rest) ← ClassReader.read (maxDepth - st.depth) cs
    pure (st.pushClass s negated, rest)
  | c =>
    if st.options.extended && c == '#' then pure (st, (cs.dropWhile (· != '\n')).drop 1)
    else if st.options.extended && c ∈ [' ', '\t', '\n', '\r', '\x0c'] then pure (st, cs)
    else pure (st.pushLiteral c, cs)

/-- Takes the tokens of a pattern. The fuel bounds their number. -/
def run : Nat → PatternReading → List Char → Except PatternError PatternReading
  | _, st, [] => .ok st
  | 0, _, _ :: _ => .error .unsupported
  | fuel + 1, st, c :: cs => do
    let (st, rest) ← step st c cs
    run fuel st rest

/-- The content of a pattern that has been read to its end. -/
def finish (st : PatternReading) : Except PatternError Pattern :=
  let st := st.closeTails
  match st.openGroups with
  | [] => .ok st.content.pattern
  | _ :: _ => .error .unclosedGroup

end PatternParser

namespace Pattern

/-- Reads a pattern: its syntax tree and the number of its capture groups. References to groups that
do not exist are refused. -/
def parse (cs : List Char) : Except PatternError (Pattern × Nat) := do
  let st ← PatternParser.run (cs.length + 1) {} cs
  let p ← PatternParser.finish st
  if p.references.all (· ≤ st.groups) then pure (p, st.groups) else .error .unknownGroupNumber

end Pattern

end ScopeGrammar
