/-!
# Pattern errors

The ways in which a text can fail to be a pattern, and the wording under which they are reported.
-/

namespace ScopeGrammar

/-- The reasons for which a pattern is refused. -/
inductive PatternError where
  /-- A group is not closed. -/
  | unclosedGroup
  /-- A parenthesis closes no group. -/
  | unmatchedClose
  /-- A character class is not closed. -/
  | unclosedClass
  /-- A character class is empty. -/
  | emptyClass
  /-- A range in a character class runs backwards. -/
  | backwardRange
  /-- A range in a character class ends in a class of characters. -/
  | classAtRangeEnd
  /-- A range in a character class begins with a class of characters. -/
  | classAtRangeStart
  /-- A bracket such as `[:word:]` has an unknown name. -/
  | unknownBracket
  /-- A repeat operator has nothing to repeat. -/
  | missingRepeatTarget
  /-- A repeat operator follows something that takes no text. -/
  | invalidRepeatTarget
  /-- A repeat count is too large. -/
  | repeatTooLarge
  /-- The pattern ends after a backslash. -/
  | endAfterBackslash
  /-- The pattern ends inside a control escape. -/
  | endAfterControl
  /-- The pattern ends inside a meta escape. -/
  | endAfterMeta
  /-- A control escape lacks its dash. -/
  | invalidControl
  /-- A meta escape lacks its dash. -/
  | invalidMeta
  /-- The pattern ends inside the head of a group. -/
  | endInGroupHead
  /-- A back-reference names a group that does not exist. -/
  | unknownGroupNumber
  /-- A back-reference uses a name that no group before it has. -/
  | unknownGroupName (name : String)
  /-- A group name is empty. -/
  | emptyGroupName
  /-- A group name is not well formed. -/
  | invalidGroupName (name : String)
  /-- A group name has a character that cannot be in a name. -/
  | invalidGroupNameChar (name : String)
  /-- The head of a group is unknown. -/
  | unknownGroupOption
  /-- A character property has an unknown name. -/
  | unknownProperty (name : String)
  /-- An escape stands for no code point. -/
  | invalidCodePoint
  /-- An escape for a code point has too many digits. -/
  | codePointTooLong
  /-- A number is too large. -/
  | numberTooLarge
  /-- Byte escapes do not make up a character. -/
  | incompleteBytes
  /-- A look-behind has a part that cannot be matched backwards, or is too wide. -/
  | invalidLookBehind
  /-- The leading elements of a look-behind can all be left out. -/
  | vacuousLookBehind
  /-- Groups, classes or repeats are nested too deeply. -/
  | nestedTooDeeply
  /-- A construct of the pattern language that is not part of this library. -/
  | unsupported
  deriving DecidableEq, Repr

namespace PatternError

/-- The characters of a text that fit into a number of bytes. -/
def takeFitting : Nat → List Char → List Char
  | _, [] => []
  | room, c :: cs => if c.utf8Size ≤ room then c :: takeFitting (room - c.utf8Size) cs else []

/-- A name as messages show it: a long one is cut and ends in dots, so that it takes no more than
thirty bytes. -/
def shownName (name : String) : String :=
  if name.utf8ByteSize ≤ 30 then name else String.ofList (takeFitting 27 name.toList) ++ "..."

/-- What is said about the pattern. -/
def text : PatternError → String
  | unclosedGroup => "end pattern with unmatched parenthesis"
  | unmatchedClose => "unmatched close parenthesis"
  | unclosedClass => "premature end of char-class"
  | emptyClass => "empty char-class"
  | backwardRange => "empty range in char class"
  | classAtRangeEnd => "char-class value at end of range"
  | classAtRangeStart => "unmatched range specifier in char-class"
  | unknownBracket => "invalid POSIX bracket type"
  | missingRepeatTarget => "target of repeat operator is not specified"
  | invalidRepeatTarget => "target of repeat operator is invalid"
  | repeatTooLarge => "too big number for repeat range"
  | endAfterBackslash => "end pattern at escape"
  | endAfterControl => "end pattern at control"
  | endAfterMeta => "end pattern at meta"
  | invalidControl => "invalid control-code syntax"
  | invalidMeta => "invalid meta-code syntax"
  | endInGroupHead => "end pattern in group"
  | unknownGroupNumber => "invalid backref number/name"
  | unknownGroupName name => "undefined name <" ++ shownName name ++ "> reference"
  | emptyGroupName => "group name is empty"
  | invalidGroupName name => "invalid group name <" ++ shownName name ++ ">"
  | invalidGroupNameChar name => "invalid char in group name <" ++ shownName name ++ ">"
  | unknownGroupOption => "undefined group option"
  | unknownProperty name => "invalid character property name \x7b" ++ shownName name ++ "\x7d"
  | invalidCodePoint => "invalid code point value"
  | codePointTooLong => "too long wide-char value"
  | numberTooLarge => "too big number"
  | incompleteBytes => "too short multibyte string"
  | invalidLookBehind => "invalid pattern in look-behind"
  | vacuousLookBehind => "undefined error code"
  | nestedTooDeeply => "parse depth limit over"
  | unsupported => "unsupported construct"

/-- The full message. -/
def message (e : PatternError) : String :=
  "Oniguruma error: " ++ e.text

end PatternError

end ScopeGrammar
