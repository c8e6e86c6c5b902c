import ScopeGrammar.Capture.Tree
import ScopeGrammar.Grammar.Rule
import ScopeGrammar.Pattern.Regex
import ScopeGrammar.Scope.Path

/-!
# Frames

What is open at a place of a document, besides the grammar itself: regions, which may last over many
lines, and capture groups whose text is tokenized by rules of its own, which end in their line.
-/

namespace ScopeGrammar

/-- The end pattern or while pattern of an open region. -/
inductive ExitPattern where
  /-- A pattern of a grammar as it is. -/
  | fixed (grammar : GrammarId) (regex : RegexId)
  /-- A pattern with the captures of the begin match filled in. -/
  | filled (regex : Regex)

/-- What a capture group gives to its text: scopes, and rules to tokenize it. -/
structure CapturedScopes where
  scopes : List ScopeName
  patterns : Option RuleRef
  deriving DecidableEq, Repr

/-- An open region. -/
structure Region where
  kind : RegionKind
  rule : RuleRef
  /-- The scopes of the text that begins and ends the region. -/
  nameScopes : ScopePath
  /-- The scopes of the text in between. -/
  contentScopes : ScopePath
  exit : ExitPattern
  /-- Whether the exit pattern gives way to the rules of the region. -/
  exitLast : Bool
  /-- Where the region has to stop because the captured text around it does. -/
  bound : Option Nat
  /-- Whether the text that began the region took in the end of its line. -/
  tookLineEnd : Bool
  /-- Where the search anchor was before the region began in this line. -/
  anchorBefore : Option Nat
  /-- From where the begin pattern was searched in this line. -/
  enteredAt : Option Nat

/-- A capture group whose text is being tokenized. -/
structure CapturedText where
  /-- The rules for the text, if it has any. -/
  patterns : Option RuleRef
  scopes : ScopePath
  /-- The capture groups in it that are still to come, in order. -/
  pending : List (CaptureTree CapturedScopes)
  start : Nat
  stop : Nat

/-- What is open: a region or a capture group. -/
inductive Frame where
  | region (r : Region)
  | captured (c : CapturedText)

namespace Frame

/-- The rule whose rules are searched in the frame. -/
def owner? : Frame → Option RuleRef
  | region r => some r.rule
  | captured c => c.patterns

/-- The scopes of the text in the frame. -/
def scopes : Frame → ScopePath
  | region r => r.contentScopes
  | captured c => c.scopes

/-- Where the frame has to stop in this line. -/
def bound? : Frame → Option Nat
  | region r => r.bound
  | captured c => some c.stop

/-- Where the frame was entered in this line. -/
def enteredAt? : Frame → Option Nat
  | region r => r.enteredAt
  | captured c => some c.start

/-- The frame without what only counts in the current line. -/
def forNextLine : Frame → Frame
  | region r => region { r with anchorBefore := none, enteredAt := none }
  | captured c => captured c

/-- Whether the frame is a region of which every line has to match a pattern. -/
def isBeginWhile : Frame → Bool
  | region r => r.kind == .beginWhile
  | captured _ => false

end Frame

end ScopeGrammar
