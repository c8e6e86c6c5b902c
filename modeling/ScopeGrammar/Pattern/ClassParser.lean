import ScopeGrammar.Pattern.CharClass
import ScopeGrammar.Pattern.Scan

/-!
# Reading character classes

A class in brackets is a union of characters, ranges, properties and nested classes, cut by `&&`
into operands that are intersected, and negated by a leading `^`. A dash makes a range only between
two characters; elsewhere it stands for itself, and after a property it is refused. A bracket that
would close the class at once stands for itself when another one follows later.

The reader goes over the class once. `Pending` is what it has to remember: the last character may
still become the start of a range.
-/

namespace ScopeGrammar

/-- A character of a class as it is written: its code point, or a byte that is no character. -/
structure ClassCode where
  value : Nat
  isByte : Bool := false
  deriving DecidableEq, Repr

namespace ClassCode

/-- Whether the code is held as a byte: an ASCII character, or a byte that is none. -/
def fitsByte (c : ClassCode) : Bool :=
  c.isByte || c.value < 0x80

/-- The set of one code. -/
def toClass (c : ClassCode) : CharClass :=
  if c.isByte && 0x80 ≤ c.value then .none else .range c.value c.value

/-- The set of a range of codes. Bytes that are no characters add nothing to it. -/
def rangeTo (low high : ClassCode) : CharClass :=
  if low.fitsByte && high.fitsByte then
    if low.value < 0x80 then .range low.value (min high.value 0x7F) else .none
  else .range low.value high.value

end ClassCode

/-- A token of a class. -/
inductive ClassToken where
  | close
  | dash
  | intersect
  /-- The start of a nested class. -/
  | nested
  | code (c : ClassCode)
  /-- Several code points in braces. -/
  | codes (c : ClassCode) (more : List Scan.FurtherCode)
  /-- Several characters at once, as `\w`. -/
  | set (s : CharClass)
  deriving Repr

namespace ClassToken

/-- Whether a bracket such as `[:alpha:]` or `[:^alpha:]` begins; `cs` follows the first colon. What
stands between the colons is letters, and not nothing. -/
def startsBracket (cs : List Char) : Bool :=
  let afterNegation := match cs with
    | '^' :: rest => rest
    | cs => cs
  match afterNegation.dropWhile alphabeticTable.contains with
  | ':' :: ']' :: rest => rest.length + 2 < cs.length
  | _ => false

/-- The bracket name that a text begins with. -/
def bracketName? (cs : List Char) : Option (CharProperty × List Char) :=
  (CharProperty.bracketNames.find? fun entry ↦ entry.1.toList.isPrefixOf cs).map
    fun entry ↦ (entry.2, cs.drop entry.1.length)

/-- Reads a bracket such as `[:alpha:]` or `[:^alpha:]` after its first colon. -/
def bracket (cs : List Char) : Except PatternError (CharClass × List Char) :=
  let (negated, body) := match cs with
    | '^' :: rest => (true, rest)
    | cs => (false, cs)
  match if 7 ≤ body.length then bracketName? body else none with
  | some (p, ':' :: ']' :: rest) => .ok (.ofProperty p negated, rest)
  | _ => .error .unknownBracket

/-- The classes that a letter after a backslash names. -/
def shorthand? (c : Char) : Option CharClass :=
  match c with
  | 'w' => some (.ofProperty .word false)
  | 'W' => some (.ofProperty .word true)
  | 'd' => some (.ofProperty .digit false)
  | 'D' => some (.ofProperty .digit true)
  | 's' => some (.ofProperty .space false)
  | 'S' => some (.ofProperty .space true)
  | 'h' => some (.ofProperty .xdigit false)
  | 'H' => some (.ofProperty .xdigit true)
  | _ => none

/-- Reads the name of a property up to its closing brace; `\p` and the opening brace are already
read. A circumflex before the name negates. A name that meets another bracket first is not
closed. -/
def property (negated : Bool) (cs : List Char) : Except PatternError (CharClass × List Char) :=
  let (negated, cs) := match cs with
    | '^' :: rest => (!negated, rest)
    | cs => (negated, cs)
  let stops (c : Char) : Bool := c ∈ ['\x7d', '\x7b', '(', ')', '|']
  let name := cs.takeWhile (!stops ·)
  match cs.dropWhile (!stops ·) with
  | '\x7d' :: rest =>
    match CharProperty.ofName? name with
    | some p => .ok (.ofProperty p negated, rest)
    | none => .error (.unknownProperty (String.ofList name))
  | _ => .error .unclosedGroup

/-- A value as a token. -/
def ofValue (r : Scan.Value × List Char) : ClassToken × List Char :=
  match r with
  | (.literal c, rest) => (.code ⟨c.toNat, false⟩, rest)
  | (.codePoints n [], rest) => (.code ⟨n, false⟩, rest)
  | (.codePoints n more, rest) => (.codes ⟨n, false⟩ more, rest)
  | (.byte n _, rest) => (.code ⟨n, true⟩, rest)

/-- Reads a run of byte escapes that make up one character; the first one is already read. -/
def ofBytes (n base : Nat) (rest : List Char) : Except PatternError (ClassToken × List Char) := do
  let need := Scan.sequenceLength n
  let (more, after) ← Scan.moreBytes true (some base) (need - 1) rest
  if more.length + 1 < need then .error .incompleteBytes
  else if need = 1 then .ok (.code ⟨n, true⟩, rest)
  else if Scan.wellFormed (n :: more) then .ok (.code ⟨Scan.decode (n :: more), false⟩, after)
  else .error .invalidCodePoint

/-- Reads an escape of a class; the backslash is already read. `ranged` says that a range is
open. -/
def escape (ranged : Bool) (cs : List Char) : Except PatternError (ClassToken × List Char) := do
  let state : Option Scan.CodeListState := some (if ranged then .range else .value)
  match cs with
  | [] => .error .endAfterBackslash
  | c :: rest =>
    match shorthand? c with
    | some s => .ok (.set s, rest)
    | none =>
      match c, rest with
      | 'p', '\x7b' :: rest =>
        let (s, rest) ← property false rest
        pure (.set s, rest)
      | 'P', '\x7b' :: rest =>
        let (s, rest) ← property true rest
        pure (.set s, rest)
      | 'x', rest =>
        match ← Scan.hexEscape state rest with
        | (.byte n base, rest) => ofBytes n base rest
        | r => pure (ofValue r)
      | 'u', rest => pure (ofValue (← Scan.unicodeEscape rest))
      | 'o', rest => pure (ofValue (← Scan.octalBraceEscape state rest))
      | c, rest =>
        if (Scan.octalDigit? c).isSome then
          match ← Scan.octalEscape 3 (c :: rest) with
          | (.byte n base, rest) => ofBytes n base rest
          | r => pure (ofValue r)
        else pure (ofValue (← Scan.plainEscape c rest))

/-- Reads one token of a class; `ranged` says that a range is open. -/
def read (ranged : Bool) (cs : List Char) : Except PatternError (ClassToken × List Char) :=
  match cs with
  | [] => .error .unclosedClass
  | ']' :: rest => .ok (.close, rest)
  | '-' :: rest => .ok (.dash, rest)
  | '&' :: '&' :: rest => .ok (.intersect, rest)
  | '[' :: ':' :: rest =>
    if startsBracket rest then
      match bracket rest with
      | .ok (s, rest) => .ok (.set s, rest)
      | .error e => .error e
    else .ok (.nested, ':' :: rest)
  | '[' :: rest => .ok (.nested, rest)
  | '\\' :: rest => escape ranged rest
  | c :: rest => .ok (.code ⟨c.toNat, false⟩, rest)

/-- Whether the next token ends an operand. The end of the pattern is not a token. -/
def endsOperand (cs : List Char) : Except PatternError Bool :=
  if cs.isEmpty then .ok false
  else
    match read false cs with
    | .ok (.close, _) => .ok true
    | .ok (.intersect, _) => .ok true
    | .ok _ => .ok false
    | .error e => .error e

end ClassToken

/-- What the reader of a class remembers of the last token. -/
inductive ClassPending where
  /-- Nothing has been read yet. -/
  | start
  /-- A character that may begin a range. -/
  | code (c : ClassCode)
  /-- A property, which cannot begin a range. -/
  | property
  /-- A character and the dash of a range. -/
  | range (low : ClassCode)
  /-- A finished range or a nested class. -/
  | complete
  deriving Repr

/-- A class that is being read. -/
structure ClassReading where
  /-- The operands before the last `&&`, if there is one. -/
  operands : Option CharClass := none
  /-- The union of what has been read of the current operand. -/
  items : CharClass := .none
  pending : ClassPending := .start
  deriving Repr

namespace ClassReading

/-- Adds characters to the current operand. -/
def add (st : ClassReading) (s : CharClass) : ClassReading :=
  { st with items := match st.items with
      | .none => s
      | items => .union items s }

/-- Takes a character that can no longer begin a range into the operand. -/
def flush (st : ClassReading) : ClassReading :=
  match st.pending with
  | .code c => st.add c.toClass
  | _ => st

/-- Takes the next character. -/
def code (st : ClassReading) (c : ClassCode) : Except PatternError ClassReading :=
  match st.pending with
  | .range low =>
    if c.value < low.value then .error .backwardRange
    else .ok { st.add (low.rangeTo c) with pending := .complete }
  | _ => .ok { st.flush with pending := .code c }

/-- Takes the next property. -/
def set (st : ClassReading) (s : CharClass) : Except PatternError ClassReading :=
  match st.pending with
  | .range _ => .error .classAtRangeEnd
  | _ => .ok { (st.flush).add s with pending := .property }

/-- Takes a nested class. -/
def nested (st : ClassReading) (s : CharClass) : ClassReading :=
  { (st.flush).add s with pending := .complete }

/-- Ends an operand. -/
def intersect (st : ClassReading) : ClassReading :=
  let st := st.flush
  { operands := some (match st.operands with
      | some s => .inter s st.items
      | none => st.items) }

/-- Whether a range is open. -/
def isRanged (st : ClassReading) : Bool :=
  match st.pending with
  | .range _ => true
  | _ => false

/-- Takes the next character, which has to be a code point unless it ends a range. -/
def validCode (st : ClassReading) (c : ClassCode) : Except PatternError ClassReading :=
  if Scan.isCodePoint c.value || st.isRanged then st.code c else .error .invalidCodePoint

/-- The set that has been read. -/
def result (st : ClassReading) : CharClass :=
  let st := st.flush
  match st.operands with
  | some s => .inter s st.items
  | none => st.items

/-- The code of a dash. -/
def dashCode : ClassCode := ⟨'-'.toNat, false⟩

/-- Takes a dash; `closes` says whether the token after it ends the operand. -/
def dash (st : ClassReading) (closes : Bool) : Except PatternError ClassReading :=
  match st.pending with
  | .code low => if closes then st.code dashCode else .ok { st with pending := .range low }
  | .property => if closes then st.code dashCode else .error .classAtRangeStart
  | _ => st.code dashCode

/-- Takes the code points that follow another one in braces. -/
def codes (st : ClassReading) : List Scan.FurtherCode → Except PatternError ClassReading
  | [] => .ok st
  | c :: rest => do
    let st ← if c.ranged then st.dash false else pure st
    (← st.validCode ⟨c.value, false⟩).codes rest

end ClassReading

namespace ClassReader

mutual

/-- Reads a class after its opening bracket: whether it is negated, its set, and the rest. `room` is
how deep classes may nest from here on; the fuel bounds the number of tokens. -/
def readClass : (room fuel : Nat) → List Char → Except PatternError (Bool × CharClass × List Char)
  | 0, _, _ => .error .nestedTooDeeply
  | _, 0, _ => .error .unclosedClass
  | room + 1, fuel + 1, cs => do
    let (negated, cs) := match cs with
      | '^' :: rest => (true, rest)
      | cs => (false, cs)
    match cs with
    | ']' :: rest =>
      if rest.contains ']' then
        let (s, rest) ← readItems room fuel { pending := .code ⟨']'.toNat, false⟩ } rest
        pure (negated, s, rest)
      else .error .emptyClass
    | cs =>
      let (s, rest) ← readItems room fuel {} cs
      pure (negated, s, rest)

/-- Reads the rest of a class. -/
def readItems :
    (room fuel : Nat) → ClassReading → List Char → Except PatternError (CharClass × List Char)
  | _, 0, _, _ => .error .unclosedClass
  | room, fuel + 1, st, cs => do
    match ← ClassToken.read st.isRanged cs with
    | (.close, rest) => pure (st.result, rest)
    | (.intersect, rest) => readItems room fuel st.intersect rest
    | (.code c, rest) => readItems room fuel (← st.validCode c) rest
    | (.codes c more, rest) => readItems room fuel (← (← st.validCode c).codes more) rest
    | (.set s, rest) => readItems room fuel (← st.set s) rest
    | (.dash, rest) =>
      readItems room fuel (← st.dash (← ClassToken.endsOperand rest)) rest
    | (.nested, rest) =>
      let (negated, s, rest) ← readClass room fuel rest
      readItems room fuel (st.nested (if negated then .compl s else s)) rest

end

/-- Reads a class after its opening bracket: whether it is negated, its set, and the rest. -/
def read (room : Nat) (cs : List Char) : Except PatternError (Bool × CharClass × List Char) :=
  readClass room (2 * cs.length + 2) cs

end ClassReader

end ScopeGrammar
