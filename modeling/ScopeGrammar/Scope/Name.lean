import ScopeGrammar.Text.Blank

/-!
# Scope names

A scope name such as `string.quoted.double` is a list of dotted segments. Names are compared
segment by segment: `source.js` is a prefix of `source.js.embedded` but not of `source.json`.
-/

namespace ScopeGrammar

/-- A dotted scope name. Its segments are not empty when it is read from a text. -/
structure ScopeName where
  segments : List String
  deriving DecidableEq, Repr, Inhabited

namespace ScopeName

/-- The name written in a list of characters: white space around it and empty segments are
dropped. -/
def ofList (cs : List Char) : ScopeName :=
  ⟨(piecesBy (· == '.') (trimBlanks cs)).map String.ofList⟩

/-- The name written in a text. -/
def ofString (text : String) : ScopeName :=
  ofList text.toList

/-- The names of a list separated by white space. -/
def listOfChars (cs : List Char) : List ScopeName :=
  (blankSeparated cs).map ofList

/-- The names of a list separated by white space. -/
def listOfString (text : String) : List ScopeName :=
  listOfChars text.toList

/-- The dotted form. -/
def dotted (n : ScopeName) : String :=
  ".".intercalate n.segments

instance : ToString ScopeName := ⟨dotted⟩

/-- The number of segments. -/
def length (n : ScopeName) : Nat :=
  n.segments.length

/-- Whether the name has no segments. -/
def isEmpty (n : ScopeName) : Bool :=
  n.segments.isEmpty

/-- Whether the segments of `n` begin the segments of `m`. -/
def covers (n m : ScopeName) : Bool :=
  n.segments.isPrefixOf m.segments

/-- A description of the name that tells it from the text it is made of. -/
def describe (n : ScopeName) : String :=
  "ScopeName(\"" ++ n.dotted ++ "\")"

end ScopeName

end ScopeGrammar
