/-!
# White space

`isBlank` is the white space that separates scope names and surrounds them. It is wider than the
ASCII blanks and includes the no-break and ideographic spaces, but not the zero-width ones.
-/

namespace ScopeGrammar

/-- White space, ASCII or not. -/
def isBlank (c : Char) : Bool :=
  let n := c.toNat
  (9 ≤ n && n ≤ 13) || n == 0x20 || n == 0x85 || n == 0xA0 || n == 0x1680 ||
    (0x2000 ≤ n && n ≤ 0x200A) || n == 0x2028 || n == 0x2029 || n == 0x202F || n == 0x205F ||
    n == 0x3000

/-- A list of characters without the white space at its two ends. -/
def trimBlanks (cs : List Char) : List Char :=
  ((cs.dropWhile isBlank).reverse.dropWhile isBlank).reverse

/-- The non-empty pieces of a list between the members that satisfy `sep`. -/
def piecesBy (sep : Char → Bool) (cs : List Char) : List (List Char) :=
  go cs []
where
  /-- Reads on with the piece read so far, last character first. -/
  go : List Char → List Char → List (List Char)
    | [], [] => []
    | [], piece => [piece.reverse]
    | c :: cs, piece =>
      if sep c then
        match piece with
        | [] => go cs []
        | piece => piece.reverse :: go cs []
      else go cs (c :: piece)

/-- The words of a text: its longest runs without white space. -/
def blankSeparated (cs : List Char) : List (List Char) :=
  piecesBy isBlank cs

end ScopeGrammar
