import ScopeGrammar.Text.Decimal
import ScopeGrammar.Text.RangeTable

/-!
# Tokens of JSON texts

A JSON text is cut into brackets, separators, literals, numbers and strings. Where the text goes on
with nothing of the kind, the tokens end with `damage`: what comes before can still be looked at.

Two checks are left to whoever uses a value, because a value that nobody looks at need not pass
them: that the escapes of a string make up characters, and that a number is in range.
-/

namespace ScopeGrammar

/-- A number as it is written. -/
structure JsonNumber where
  negative : Bool
  /-- The digits before the point. -/
  whole : List Char
  /-- The digits after the point. -/
  fraction : Option (List Char)
  /-- Whether the exponent is negative, and its digits. -/
  exponent : Option (Bool × List Char)
  deriving DecidableEq, Repr

/-- A token of a JSON text. -/
inductive JsonToken where
  | openArray
  | closeArray
  | openObject
  | closeObject
  | comma
  | colon
  | null
  | bool (value : Bool)
  | number (n : JsonNumber)
  /-- A string; `none` if its escapes do not make up characters. -/
  | string (text : Option String)
  /-- The text does not go on as JSON. -/
  | damage
  deriving DecidableEq, Repr

/-! ### Numbers -/

namespace JsonNumber

/-- Reads one or more digits. -/
def digits? (cs : List Char) : Option (List Char × List Char) :=
  match cs.takeWhile isAsciiDigit with
  | [] => none
  | digits => some (digits, cs.dropWhile isAsciiDigit)

/-- Reads the digits before the point. A zero stands alone. -/
def whole? (cs : List Char) : Option (List Char × List Char) :=
  match digits? cs with
  | some ('0' :: _ :: _, _) => none
  | found => found

/-- Reads the digits after the point, if there is a point. -/
def fraction? : List Char → Option (Option (List Char) × List Char)
  | '.' :: cs => (digits? cs).map fun (digits, rest) ↦ (some digits, rest)
  | cs => some (none, cs)

/-- Reads the exponent, if there is one. -/
def exponent? (cs : List Char) : Option (Option (Bool × List Char) × List Char) :=
  let signed (negative : Bool) (cs : List Char) :=
    (digits? cs).map fun (digits, rest) ↦ (some (negative, digits), rest)
  match cs with
  | c :: cs' =>
    if c == 'e' || c == 'E' then
      match cs' with
      | '+' :: ds => signed false ds
      | '-' :: ds => signed true ds
      | ds => signed false ds
    else some (none, cs)
  | [] => some (none, cs)

/-- Reads a number after its sign. -/
def unsigned? (negative : Bool) (cs : List Char) : Option (JsonNumber × List Char) := do
  let (whole, cs) ← whole? cs
  let (fraction, cs) ← fraction? cs
  let (exponent, cs) ← exponent? cs
  pure (⟨negative, whole, fraction, exponent⟩, cs)

/-- Reads a number. -/
def read? : List Char → Option (JsonNumber × List Char)
  | '-' :: cs => unsigned? true cs
  | cs => unsigned? false cs

/-- The value of a number that is written as an integer. Negative zero is none. -/
def int? (n : JsonNumber) : Option Int :=
  if n.fraction.isSome || n.exponent.isSome then none
  else
    match n.negative, decimalValue n.whole with
    | false, v => some v
    | true, 0 => none
    | true, v => some (-v)

/-- The greatest significand that is kept. -/
def maxSignificand : Nat := Nat.pow 2 64 - 1

/-- Appends digits to a significand as long as it stays in bounds: what it becomes, and the digits
that are left. -/
def appendDigits (significand : Nat) : List Char → Nat × List Char
  | [] => (significand, [])
  | c :: cs =>
    let next := significand * 10 + decimalValue [c]
    if next ≤ maxSignificand then appendDigits next cs else (significand, c :: cs)

/-- The nearest number with 53 significant bits, of two that are as near the even one. -/
def roundTo53 (n : Nat) : Nat :=
  let unit := Nat.pow 2 (n.log2 + 1 - 53)
  let (q, r) := (n / unit, n % unit)
  if 2 * r < unit ∨ (2 * r = unit ∧ q % 2 = 0) then q * unit else (q + 1) * unit

/-- The least magnitude that a double-precision number cannot have, not even rounded. -/
def magnitudeBound : Nat := Nat.pow 2 1024 - Nat.pow 2 970

/-- Whether the magnitude is too large for a double-precision number. The significand is cut to 64
bits, the digits of the whole part that are cut off count for the exponent, and the significand and
the power of ten are each rounded before they are multiplied. -/
def isTooLarge (n : JsonNumber) : Bool :=
  let fraction := n.fraction.getD []
  let (whole, dropped) := appendDigits 0 n.whole
  let (significand, ignored) := appendDigits whole fraction
  let exponent : Int :=
    match n.exponent with
    | none => 0
    | some (negative, digits) => if negative then -decimalValue digits else decimalValue digits
  let scale := exponent + dropped.length - (fraction.length - ignored.length)
  if significand = 0 || scale < 0 then false
  else if 308 < scale then true
  else magnitudeBound ≤ roundTo53 significand * roundTo53 (Nat.pow 10 scale.toNat)

end JsonNumber

/-! ### Strings -/

/-- A unit of a string: a character, or the code of an escape of four hexadecimal digits. -/
inductive StringUnit where
  | char (c : Char)
  | code (n : Nat)
  deriving DecidableEq, Repr

namespace StringUnit

/-- The character of an escape of one letter. -/
def shortEscape? (c : Char) : Option Char :=
  match c with
  | '"' => some '"'
  | '\\' => some '\\'
  | '/' => some '/'
  | 'b' => some '\x08'
  | 'f' => some '\x0c'
  | 'n' => some '\n'
  | 'r' => some '\r'
  | 't' => some '\t'
  | _ => none

/-- The value of four hexadecimal digits. -/
def hexCode? (a b c d : Char) : Option Nat := do
  let a ← hexDigitValue? a
  let b ← hexDigitValue? b
  let c ← hexDigitValue? c
  let d ← hexDigitValue? d
  pure (((a * 16 + b) * 16 + c) * 16 + d)

/-- The units of a string after its opening quote, and what follows the closing one. -/
def read? : List Char → Option (List StringUnit × List Char)
  | '"' :: cs => some ([], cs)
  | '\\' :: 'u' :: a :: b :: c :: d :: cs =>
    match hexCode? a b c d with
    | none => none
    | some n => (read? cs).map fun (units, rest) ↦ (code n :: units, rest)
  | '\\' :: c :: cs =>
    match shortEscape? c with
    | none => none
    | some c => (read? cs).map fun (units, rest) ↦ (char c :: units, rest)
  | c :: cs =>
    if c.toNat < 0x20 then none
    else (read? cs).map fun (units, rest) ↦ (char c :: units, rest)
  | [] => none

/-- Whether a code is the first half of a pair that makes up a character. -/
def isFirstHalf (n : Nat) : Bool :=
  0xD800 ≤ n && n < 0xDC00

/-- Whether a code is the second half of such a pair. -/
def isSecondHalf (n : Nat) : Bool :=
  0xDC00 ≤ n && n < 0xE000

/-- The characters of some units, unless a half stands alone. -/
def text? : List StringUnit → Option (List Char)
  | [] => some []
  | char c :: units => (text? units).map (c :: ·)
  | code n :: code m :: units =>
    if isFirstHalf n then
      if isSecondHalf m then
        (text? units).map (Char.ofNat (0x10000 + (n - 0xD800) * 0x400 + (m - 0xDC00)) :: ·)
      else none
    else if isSecondHalf n then none
    else (text? (code m :: units)).map (Char.ofNat n :: ·)
  | code n :: units =>
    if isFirstHalf n || isSecondHalf n then none else (text? units).map (Char.ofNat n :: ·)

end StringUnit

/-! ### Tokens -/

namespace JsonToken

/-- The blanks between tokens. -/
def isBetween (c : Char) : Bool :=
  c == ' ' || c == '\n' || c == '\t' || c == '\r'

/-- Reads one token. -/
def read? (cs : List Char) : Option (JsonToken × List Char) :=
  match cs with
  | '[' :: cs => some (openArray, cs)
  | ']' :: cs => some (closeArray, cs)
  | '\x7b' :: cs => some (openObject, cs)
  | '\x7d' :: cs => some (closeObject, cs)
  | ',' :: cs => some (comma, cs)
  | ':' :: cs => some (colon, cs)
  | 'n' :: 'u' :: 'l' :: 'l' :: cs => some (null, cs)
  | 't' :: 'r' :: 'u' :: 'e' :: cs => some (bool true, cs)
  | 'f' :: 'a' :: 'l' :: 's' :: 'e' :: cs => some (bool false, cs)
  | '"' :: cs =>
    (StringUnit.read? cs).map fun (units, rest) ↦
      (string ((StringUnit.text? units).map String.ofList), rest)
  | cs => (JsonNumber.read? cs).map fun (n, rest) ↦ (number n, rest)

/-- The tokens of a text, given more fuel than the text has characters. -/
def listWithFuel : Nat → List Char → List JsonToken
  | 0, _ => []
  | fuel + 1, cs =>
    match cs.dropWhile isBetween with
    | [] => []
    | c :: rest =>
      match read? (c :: rest) with
      | none => [damage]
      | some (t, rest) => t :: listWithFuel fuel rest

/-- The tokens of a text. -/
def listOf (cs : List Char) : List JsonToken :=
  listWithFuel (cs.length + 1) cs

end JsonToken

end ScopeGrammar
