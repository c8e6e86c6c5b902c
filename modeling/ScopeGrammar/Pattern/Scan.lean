import ScopeGrammar.Pattern.Error
import ScopeGrammar.Text.Decimal
import ScopeGrammar.Text.RangeTable

/-!
# Numbers and escapes in patterns

The parts of the pattern notation that both plain patterns and character classes use: runs of
digits, and the escapes that stand for a character, a code point or a byte.
-/

namespace ScopeGrammar.Scan

/-- Reads at most `limit` digits of a base: how many there were, their value, and the rest. -/
def digits (base : Nat) (digit? : Char → Option Nat) (limit : Nat) (cs : List Char) :
    Nat × Nat × List Char :=
  go limit cs 0 0
where
  /-- Reads on with the count and the value so far. -/
  go : Nat → List Char → Nat → Nat → Nat × Nat × List Char
    | limit + 1, c :: cs, count, value =>
      match digit? c with
      | some d => go limit cs (count + 1) (value * base + d)
      | none => (count, value, c :: cs)
    | _, cs, count, value => (count, value, cs)

/-- The value of an octal digit. -/
def octalDigit? (c : Char) : Option Nat :=
  if '0' ≤ c ∧ c ≤ '7' then some (c.toNat - 48) else none

/-- The largest number that a pattern may use anywhere. -/
def maxNumber : Nat := 2147483647

/-- A run of decimal digits: their value, unless it is too large, and the rest. The value of no
digits is zero. -/
def number (cs : List Char) : Option Nat × List Char :=
  let n := decimalValue (cs.takeWhile isAsciiDigit)
  (if n ≤ maxNumber then some n else none, cs.dropWhile isAsciiDigit)

/-- A code point that follows others in braces; a dash before it makes a range. -/
structure FurtherCode where
  ranged : Bool
  value : Nat
  deriving DecidableEq, Repr

/-- What an escape stands for. -/
inductive Value where
  /-- The character after the backslash itself. -/
  | literal (c : Char)
  /-- A code point, and those that follow it in the same braces. -/
  | codePoints (n : Nat) (more : List FurtherCode)
  /-- A byte, and the base it is written in. -/
  | byte (n base : Nat)
  deriving DecidableEq, Repr

/-- One code point. -/
def Value.codePoint (n : Nat) : Value := codePoints n []

/-- What has been read of a list of code points: whether a dash may follow, or has just been
read. -/
inductive CodeListState where
  /-- A code point that can begin a range. -/
  | value
  /-- A dash. -/
  | dash
  /-- A range. -/
  | range
  deriving DecidableEq, Repr

/-- Whether a character separates code points in braces. -/
def isSeparator (c : Char) : Bool :=
  c == ' ' || c == '\n'

/-- How code points are written in braces. -/
structure CodeNotation where
  /-- The letter of the escape. -/
  letter : Char
  base : Nat
  digit? : Char → Option Nat
  /-- The greatest number of digits. -/
  limit : Nat

namespace CodeNotation

/-- Code points in hexadecimal. -/
def hex : CodeNotation := ⟨'x', 16, hexDigitValue?, 8⟩

/-- Code points in octal. -/
def octal : CodeNotation := ⟨'o', 8, octalDigit?, 11⟩

/-- Reads a code point: the number of its digits, its value, and the rest. A digit that is left over
is refused. -/
def read (w : CodeNotation) (cs : List Char) : Except PatternError (Nat × Nat × List Char) :=
  match digits w.base w.digit? w.limit cs with
  | (count, n, rest) =>
    if 0xFFFFFFFF < n then .error .numberTooLarge
    else if (rest.head?.bind w.digit?).isSome then .error .codePointTooLong
    else .ok (count, n, rest)

/-- Reads the code points that follow the first one, and the closing brace. There are no ranges
without a state. The fuel bounds the number of code points and dashes. -/
def readMore (w : CodeNotation) :
    (fuel : Nat) → Option CodeListState → List Char →
      Except PatternError (List FurtherCode × List Char)
  | 0, _, _ => .error .invalidCodePoint
  | fuel + 1, state, cs =>
    match cs.dropWhile isSeparator with
    | '\x7d' :: rest => if state = some .dash then .error .invalidCodePoint else .ok ([], rest)
    | '-' :: rest =>
      if state = some .value then w.readMore fuel (some .dash) rest else .error .invalidCodePoint
    | cs => do
      let (count, n, rest) ← w.read cs
      if count = 0 then .error .invalidCodePoint
      else
        let ranged := state = some .dash
        let (more, rest) ←
          w.readMore fuel (state.map fun _ ↦ if ranged then .range else .value) rest
        pure (⟨ranged, n⟩ :: more, rest)

/-- Reads code points in braces, the opening brace already read. Without digits the letter of the
escape stands for itself. -/
def escape (w : CodeNotation) (state : Option CodeListState) (cs : List Char) :
    Except PatternError (Value × List Char) := do
  let (count, n, rest) ← w.read cs
  if count = 0 then pure (.literal w.letter, '\x7b' :: cs)
  else
    match rest with
    | '\x7d' :: rest => pure (.codePoint n, rest)
    | rest =>
      match ← w.readMore (rest.length + 1) state rest with
      | ([], _) => .error .invalidCodePoint
      | (more, rest) => pure (.codePoints n more, rest)

end CodeNotation

/-- Reads what follows `\x`; a state allows for ranges. -/
def hexEscape (state : Option CodeListState) (cs : List Char) :
    Except PatternError (Value × List Char) :=
  match cs with
  | [] => .ok (.literal 'x', [])
  | '\x7b' :: cs => CodeNotation.hex.escape state cs
  | cs =>
    let (_, n, rest) := digits 16 hexDigitValue? 2 cs
    .ok (.byte n 16, rest)

/-- Reads what follows `\u`: four digits. -/
def unicodeEscape (cs : List Char) : Except PatternError (Value × List Char) :=
  match cs with
  | [] => .ok (.literal 'u', [])
  | cs =>
    match digits 16 hexDigitValue? 4 cs with
    | (4, n, rest) => .ok (.codePoint n, rest)
    | _ => .error .invalidCodePoint

/-- Reads what follows `\o`; a state allows for ranges. -/
def octalBraceEscape (state : Option CodeListState) (cs : List Char) :
    Except PatternError (Value × List Char) :=
  match cs with
  | '\x7b' :: cs => CodeNotation.octal.escape state cs
  | cs => .ok (.literal 'o', cs)

/-- Reads a byte written with at most `limit` octal digits. -/
def octalEscape (limit : Nat) (cs : List Char) : Except PatternError (Value × List Char) :=
  let (_, n, rest) := digits 8 octalDigit? limit cs
  if n ≤ 0xFF then .ok (.byte n 8, rest) else .error .numberTooLarge

/-- The control character that a letter after a backslash names, or the character itself. -/
def namedChar (c : Char) : Char :=
  match c with
  | 'n' => '\n'
  | 't' => '\t'
  | 'r' => '\r'
  | 'f' => '\x0c'
  | 'a' => '\x07'
  | 'b' => '\x08'
  | 'e' => '\x1b'
  | 'v' => '\x0b'
  | c => c

/-- The control character of a code point. -/
def controlCode (n : Nat) : Nat :=
  n &&& 0x9F

/-- A code point with the eighth bit set. -/
def metaCode (n : Nat) : Nat :=
  n &&& 0xFF ||| 0x80

/-- Reads an escape after its backslash: the code point that it stands for. Escapes for control and
meta characters have an operand, which may itself be escaped. -/
def escapedCode : List Char → Except PatternError (Nat × List Char)
  | [] => .error .endAfterBackslash
  | 'M' :: '-' :: '\\' :: cs => do
    let (n, cs) ← escapedCode cs
    pure (metaCode n, cs)
  | 'M' :: '-' :: c :: cs => .ok (metaCode c.toNat, cs)
  | ['M'] | ['M', '-'] => .error .endAfterMeta
  | 'M' :: _ => .error .invalidMeta
  | 'C' :: '-' :: '\\' :: cs | 'c' :: '\\' :: cs => do
    let (n, cs) ← escapedCode cs
    pure (controlCode n, cs)
  | 'C' :: '-' :: c :: cs | 'c' :: c :: cs =>
    .ok (if c = '?' then 0x7F else controlCode c.toNat, cs)
  | ['C'] | ['C', '-'] | ['c'] => .error .endAfterControl
  | 'C' :: _ => .error .invalidControl
  | c :: cs => .ok ((namedChar c).toNat, cs)

/-- Reads an escape that no context gives a meaning of its own; `c` follows the backslash. -/
def plainEscape (c : Char) (cs : List Char) : Except PatternError (Value × List Char) := do
  let (n, cs) ← escapedCode (c :: cs)
  pure (if n = c.toNat then .literal c else .codePoint n, cs)

/-- Whether a number stands for a code point, though perhaps for that of no character. -/
def isCodePoint (n : Nat) : Bool :=
  n ≤ 0x1FFFFF || (0xFFFFFFFE ≤ n && n ≤ 0xFFFFFFFF)

/-- A value that is the code point of no character. -/
def noCharacter : Nat := 0x110000

/-- The number of bytes of a character that begins with a given byte. -/
def sequenceLength (lead : Nat) : Nat :=
  if lead < 0xC0 then 1 else if lead < 0xE0 then 2 else if lead < 0xF0 then 3
  else if lead < 0xF8 then 4 else 1

/-- Whether a byte continues a character. -/
def isContinuation (byte : Nat) : Bool :=
  0x80 ≤ byte && byte < 0xC0

/-- The code point that some bytes encode, or none of any character. -/
def decode (bytes : List Nat) : Nat :=
  match bytes with
  | [a] => if a < 0x80 then a else noCharacter
  | [a, b] => let n := (a - 0xC0) * 64 + (b - 0x80); if n < 0x80 then noCharacter else n
  | [a, b, c] =>
    let n := (a - 0xE0) * 4096 + (b - 0x80) * 64 + (c - 0x80)
    if n < 0x800 then noCharacter else n
  | [a, b, c, d] =>
    let n := (a - 0xF0) * 262144 + (b - 0x80) * 4096 + (c - 0x80) * 64 + (d - 0x80)
    if n < 0x10000 then noCharacter else n
  | _ => noCharacter

/-- Whether some bytes have the shape of one character. -/
def wellFormed : List Nat → Bool
  | [] => false
  | lead :: rest => !isContinuation lead && rest.all isContinuation

/-- Reads a byte escape, if one comes next. In a class every octal digit begins one; elsewhere only
zero does, since other digits can be references to groups. -/
def byteEscape? (inClass : Bool) (cs : List Char) :
    Except PatternError (Option (Nat × Nat × List Char)) :=
  let found (r : Except PatternError (Value × List Char)) :
      Except PatternError (Option (Nat × Nat × List Char)) :=
    match r with
    | .ok (.byte n base, rest) => .ok (some (n, base, rest))
    | .ok _ => .ok none
    | .error e => .error e
  match cs with
  | '\\' :: 'x' :: cs => found (hexEscape none cs)
  | '\\' :: '0' :: cs =>
      if inClass then found (octalEscape 3 ('0' :: cs)) else found (octalEscape 2 cs)
  | '\\' :: d :: cs =>
    if inClass && (octalDigit? d).isSome then found (octalEscape 3 (d :: cs)) else .ok none
  | _ => .ok none

/-- Reads up to `limit` further byte escapes written in a base. -/
def moreBytes (inClass : Bool) (base : Option Nat) :
    (limit : Nat) → List Char → Except PatternError (List Nat × List Char)
  | 0, cs => .ok ([], cs)
  | limit + 1, cs =>
    match byteEscape? inClass cs with
    | .error e => .error e
    | .ok none => .ok ([], cs)
    | .ok (some (n, base', rest)) =>
      if base.all (· == base') then
        match moreBytes inClass base limit rest with
        | .ok (ns, rest) => .ok (n :: ns, rest)
        | .error e => .error e
      else .ok ([], cs)

end ScopeGrammar.Scan
