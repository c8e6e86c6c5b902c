/-!
# The bytes of code points

How a code point is written in UTF-8. Code points that are no characters are written as well, since
patterns can name them.
-/

namespace ScopeGrammar

/-- The number of bytes of a code point. -/
def codeSize (n : Nat) : Nat :=
  if n < 0x80 then 1 else if n < 0x800 then 2 else if n < 0x10000 then 3 else 4

/-- The bytes of a code point. -/
def codeBytes (n : Nat) : List Nat :=
  if n < 0x80 then [n]
  else if n < 0x800 then [0xC0 + n / 64, 0x80 + n % 64]
  else if n < 0x10000 then [0xE0 + n / 4096, 0x80 + n / 64 % 64, 0x80 + n % 64]
  else [0xF0 + n / 262144, 0x80 + n / 4096 % 64, 0x80 + n / 64 % 64, 0x80 + n % 64]

/-- The first byte of a code point. -/
def leadByte (n : Nat) : Nat :=
  (codeBytes n).headD 0

end ScopeGrammar
