import ScopeGrammar.Text.Property

/-!
# Quoted text

`quoted` shows a text between double quotes so that every character of it can be seen. Quotes,
backslashes and the common control characters have an escape of one letter; other characters that
cannot be seen on their own are written by their code point.
-/

namespace ScopeGrammar

/-- A code point in hexadecimal, lower case, without leading zeros. -/
def hexText (n : Nat) : List Char :=
  Nat.toDigits 16 n

/-- How a quoted text shows one character. -/
def quotedChar (c : Char) : List Char :=
  match c with
  | '\x00' => ['\\', '0']
  | '\t' => ['\\', 't']
  | '\r' => ['\\', 'r']
  | '\n' => ['\\', 'n']
  | '"' => ['\\', '"']
  | '\\' => ['\\', '\\']
  | c =>
    if isGraphemeExtend c || !isPrintable c then ['\\', 'u', '\x7b'] ++ hexText c.toNat ++ ['\x7d']
    else [c]

/-- A text between double quotes, with everything escaped that could not be seen. -/
def quoted (text : String) : String :=
  String.ofList ('"' :: (text.toList.flatMap quotedChar ++ ['"']))

end ScopeGrammar
