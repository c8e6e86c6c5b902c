/-!
# Decimal indices

Capture groups are referred to by decimal numbers that have to fit in 64 bits.
-/

namespace ScopeGrammar

/-- Whether a character is one of the ten ASCII digits. -/
def isAsciiDigit (c : Char) : Bool :=
  '0' ≤ c && c ≤ '9'

/-- The value of a digit sequence, most significant digit first. -/
def decimalValue (digits : List Char) : Nat :=
  digits.foldl (fun n d ↦ n * 10 + (d.toNat - 48)) 0

/-- One more than the largest index. -/
def indexBound : Nat := Nat.pow 2 64

/-- Reads an index: one or more ASCII digits whose value fits. -/
def index? (cs : List Char) : Option Nat :=
  if cs.isEmpty || !cs.all isAsciiDigit then none
  else
    let n := decimalValue cs
    if n < indexBound then some n else none

/-- Reads an index that may carry a plus sign. -/
def signedIndex? : List Char → Option Nat
  | '+' :: cs => index? cs
  | cs => index? cs

end ScopeGrammar
