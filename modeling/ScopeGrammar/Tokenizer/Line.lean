import ScopeGrammar.Pattern.Regex
import ScopeGrammar.Text.Lines
import ScopeGrammar.Tokenizer.Stack
import ScopeGrammar.Tokenizer.Token

/-!
# A line being tokenized

Every line is searched as its content followed by a line feed, whatever its terminator was, so that
patterns cannot tell terminators apart. Tokens never cover that line feed.
-/

namespace ScopeGrammar

/-- The text that is searched for a line. -/
structure LineText where
  /-- The content of the line. -/
  content : List Char
  /-- The searched text: the content and a line feed. -/
  chars : List Char
  /-- Where the content of the line stops. -/
  contentStop : Nat
  /-- Where the searched text stops. -/
  stop : Nat
  indexed : IndexedText
  chars_eq : chars = content ++ ['\n'] := by rfl
  contentStop_eq : contentStop = byteLength content := by rfl
  stop_eq : stop = contentStop + 1 := by rfl
  indexed_eq : indexed = IndexedText.ofChars chars := by rfl

namespace LineText

/-- The text that is searched for a line with or without a terminator. -/
def ofLine (line : String) : LineText :=
  let content := lineContent line.toList
  let chars := content ++ ['\n']
  let contentStop := byteLength content
  { content, chars, contentStop, stop := contentStop + 1, indexed := IndexedText.ofChars chars }

end LineText

/-- How far a line has been tokenized. -/
structure LineState where
  stack : Stack
  position : Nat
  /-- Where the anchor for the start of a search holds. -/
  anchor : Option Nat
  /-- Whether the anchor for the start of the document can hold: on the first line, until something
  was matched. -/
  atTextStart : Bool
  row : TokenRow

namespace LineState

/-- The state at the start of a line. -/
def start (stack : Stack) (firstLine : Bool) (line : LineText) : LineState where
  stack := stack
  position := 0
  anchor := if stack.tookLineEnd then some 0 else none
  atTextStart := firstLine
  row := .empty line.contentStop

/-- Gives the scopes to the text up to a position. -/
def extend (s : LineState) (position : Nat) (scopes : ScopePath) : LineState :=
  { s with row := s.row.extend position scopes }

/-- Gives the scopes of the innermost frame to the text up to a position. -/
def extendContent (s : LineState) (position : Nat) : LineState :=
  s.extend position s.stack.scopes

/-- The anchors that can hold at the position. -/
def liveAnchors (s : LineState) : LiveAnchors :=
  .ofPosition s.atTextStart s.anchor s.position

end LineState

end ScopeGrammar
