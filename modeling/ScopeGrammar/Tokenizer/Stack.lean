import ScopeGrammar.Tokenizer.Frame

/-!
# The stack of open frames

The grammar of a document is always open; on top of it lie the frames of open regions and captures.
The stack is what one line hands over to the next.
-/

namespace ScopeGrammar

/-- The open frames of a document. -/
structure Stack where
  /-- The grammar that the document is tokenized with. -/
  grammar : GrammarId
  /-- Its scope. -/
  scope : ScopeName
  /-- The open frames, innermost first. -/
  frames : List Frame

namespace Stack

/-- The stack at the start of a document. -/
def ofGrammar (grammar : GrammarId) (scope : ScopeName) : Stack :=
  ⟨grammar, scope, []⟩

/-- The number of frames, with that of the grammar. -/
def depth (s : Stack) : Nat :=
  s.frames.length + 1

/-- The rule whose rules are searched in the innermost frame. -/
def owner? (s : Stack) : Option RuleRef :=
  match s.frames with
  | [] => some (.root s.grammar)
  | f :: _ => f.owner?

/-- The scopes of the text in the innermost frame. -/
def scopes (s : Stack) : ScopePath :=
  match s.frames with
  | [] => .ofRoot s.scope
  | f :: _ => f.scopes

/-- Where the innermost frame has to stop in this line. -/
def bound? (s : Stack) : Option Nat :=
  s.frames.head?.bind Frame.bound?

/-- Opens a frame. -/
def push (s : Stack) (f : Frame) : Stack :=
  { s with frames := f :: s.frames }

/-- Whether a rule is that of one of the innermost frames that were all entered at a position. -/
def hasEnteredAt (s : Stack) (rule : RuleRef) (position : Nat) : Bool :=
  (s.frames.takeWhile fun f ↦ f.enteredAt? == some position).any fun f ↦ f.owner? == some rule

/-- Whether the begin pattern of the innermost frame took in the end of its line. -/
def tookLineEnd (s : Stack) : Bool :=
  match s.frames with
  | .region r :: _ => r.tookLineEnd
  | _ => false

/-- The stack for the next line. -/
def forNextLine (s : Stack) : Stack :=
  { s with frames := s.frames.map Frame.forNextLine }

/-- The stack without the frames that end in their line. -/
def withoutBounded (s : Stack) : Stack :=
  { s with frames := s.frames.filter fun f ↦ f.bound?.isNone }

/-! ### Descriptions -/

/-- A rule as descriptions show it. -/
def describeRule (ref : RuleRef) : String :=
  " grammar=" ++ toString ref.grammar ++ ", rule=" ++ toString ref.rule

/-- An optional position as descriptions show it. -/
def describePosition : Option Nat → String
  | none => "None"
  | some p => "Some(" ++ toString p ++ ")"

/-- The end of a description: where the frame stops and was entered, as far as it is known. -/
def describePositions (bound anchor entered : Option Nat) : String :=
  (match bound with
    | some p => ", end_pos=" ++ toString p
    | none => "")
  ++ ", anchor_pos=" ++ describePosition anchor
  ++ (match entered with
    | some p => if anchor = some p then "" else ", enter_pos=" ++ toString p
    | none => "")

/-- A description of a frame. -/
def describeFrame : Frame → String
  | .region r =>
    (match r.kind with
      | .beginEnd => "BeginEnd"
      | .beginWhile => "BeginWhile")
    ++ describeRule r.rule
    ++ " name=[" ++ r.nameScopes.dotted ++ "]"
    ++ (if r.contentScopes = r.nameScopes then ""
      else ", content=[" ++ r.contentScopes.dotted ++ "]")
    ++ (match r.exit with
      | .filled regex => ", exit_pattern=\"" ++ regex.pattern ++ "\""
      | .fixed _ _ => "")
    ++ describePositions r.bound r.anchorBefore r.enteredAt
    ++ if r.tookLineEnd then ", begin_rule_has_captured_eol" else ""
  | .captured c =>
    "Capture"
    ++ (match c.patterns with
      | some ref => describeRule ref
      | none => "")
    ++ " name=[" ++ c.scopes.dotted ++ "]"
    ++ describePositions (some c.stop) none (some c.start)

/-- Descriptions of the frames, that of the grammar first, each indented by its depth. -/
def describe (s : Stack) : List String :=
  let root := "Root" ++ describeRule (.root s.grammar) ++ " name=[" ++ s.scope.dotted ++ "]"
    ++ describePositions none none none
  (root :: s.frames.reverse.map describeFrame).zipIdx.map fun (text, depth) ↦
    String.ofList (List.replicate (2 * depth) ' ') ++ text

end Stack

end ScopeGrammar
