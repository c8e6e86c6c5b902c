import ScopeGrammar.Json.Tree

/-!
# Reading JSON texts

The reader takes the tokens of a text one by one and keeps what surrounds the current place: the
arrays and objects that are open, each with what has been read of it. It never fails; when a token
does not fit, the open arrays and objects are cut there.
-/

namespace ScopeGrammar

/-- An array or object that is open, with what has been read of it, the last part first. -/
inductive JsonFrame where
  | array (items : List Json)
  | object (members : List (Option String × Json))
  /-- An object of which the value of a key is read. -/
  | member (members : List (Option String × Json)) (key : Option String)

namespace JsonFrame

/-- What the text breaks off in: the frame, with the value that was being read in it, if any. -/
def cut : JsonFrame → Option Json → Json
  | array items, none => .array (.prepend items .cut)
  | array items, some value => .array (.prepend (value :: items) .cut)
  | object members, _ => .object (.prepend members .cut)
  | member members key, value =>
    .object (.prepend ((key, value.getD .damaged) :: members) .cut)

/-- Cuts all open arrays and objects, the innermost first. -/
def cutAll (frames : List JsonFrame) : Json :=
  (frames.foldl (fun value frame ↦ some (frame.cut value)) none).getD .damaged

end JsonFrame

/-- What may come next. -/
inductive JsonExpected where
  | value
  /-- The first item of an array, or its end. -/
  | itemOrEnd
  | key
  /-- The first key of an object, or its end. -/
  | keyOrEnd
  | colon
  /-- A comma, or the end of an array or object. -/
  | commaOrEnd
  deriving DecidableEq, Repr

/-- A text that was read: its value, and whether nothing is wrong after it. -/
structure JsonDocument where
  value : Json
  complete : Bool

/-- What a token leads to. -/
inductive JsonMove where
  | goOn (expected : JsonExpected) (frames : List JsonFrame)
  | finished (value : Json)
  | unfit

namespace JsonMove

/-- A value is finished inside some frames. -/
def give (value : Json) : List JsonFrame → JsonMove
  | [] => finished value
  | .array items :: frames => goOn .commaOrEnd (.array (value :: items) :: frames)
  | .member members key :: frames => goOn .commaOrEnd (.object ((key, value) :: members) :: frames)
  | .object _ :: _ => unfit

/-- A token stands where a value is expected. -/
def atValue (frames : List JsonFrame) : JsonToken → JsonMove
  | .null => give .null frames
  | .bool b => give (.bool b) frames
  | .number n => give (.number n) frames
  | .string text => give (.string text) frames
  | .openArray => goOn .itemOrEnd (.array [] :: frames)
  | .openObject => goOn .keyOrEnd (.object [] :: frames)
  | _ => unfit

/-- A token stands where a key is expected. -/
def atKey : List JsonFrame → JsonToken → JsonMove
  | .object members :: frames, .string key => goOn .colon (.member members key :: frames)
  | _, _ => unfit

/-- The innermost array or object ends. -/
def close : List JsonFrame → JsonToken → JsonMove
  | .array items :: frames, .closeArray => give (.array (.prepend items .closed)) frames
  | .object members :: frames, .closeObject => give (.object (.prepend members .closed)) frames
  | _, _ => unfit

/-- What a token leads to. -/
def of (expected : JsonExpected) (frames : List JsonFrame) (t : JsonToken) : JsonMove :=
  match expected, t with
  | .value, t => atValue frames t
  | .itemOrEnd, .closeArray => close frames t
  | .itemOrEnd, t => atValue frames t
  | .key, t => atKey frames t
  | .keyOrEnd, .closeObject => close frames t
  | .keyOrEnd, t => atKey frames t
  | .colon, .colon => goOn .value frames
  | .colon, _ => unfit
  | .commaOrEnd, .comma =>
    match frames with
    | .array _ :: _ => goOn .value frames
    | .object _ :: _ => goOn .key frames
    | _ => unfit
  | .commaOrEnd, t => close frames t

end JsonMove

namespace JsonDocument

/-- Reads on from a place. -/
def ofTokens : JsonExpected → List JsonFrame → List JsonToken → JsonDocument
  | _, frames, [] => ⟨JsonFrame.cutAll frames, false⟩
  | expected, frames, t :: ts =>
    match JsonMove.of expected frames t with
    | .goOn expected frames => ofTokens expected frames ts
    | .finished value => ⟨value, ts.isEmpty⟩
    | .unfit => ⟨JsonFrame.cutAll frames, false⟩

/-- Reads a text. -/
def ofChars (cs : List Char) : JsonDocument :=
  ofTokens .value [] (JsonToken.listOf cs)

/-- Reads a text. -/
def ofString (text : String) : JsonDocument :=
  ofChars text.toList

end JsonDocument

end ScopeGrammar
