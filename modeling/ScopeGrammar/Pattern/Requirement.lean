import ScopeGrammar.Pattern.Facts

/-!
# What a match requires

A pattern tells where a match of it can begin: a certain text, or a byte of a certain set, has to
stand at some distance from there, or the match has to begin at the start of the text. `outlook`
collects what parts of a pattern tell, and `Requirement.ofPattern` picks what narrows a search down
most. A search that follows it finds the same matches, but it does not have to run a pattern in
vain at places where it would go back for a very long time.

Distances and lengths count bytes.
-/

namespace ScopeGrammar

/-- Least and, if there is one, greatest number of bytes. -/
structure ByteRange where
  low : Nat
  high : Option Nat
  deriving DecidableEq, Repr, Inhabited

namespace ByteRange

/-- No bytes. -/
def zero : ByteRange := ⟨0, some 0⟩

/-- Exactly `n` bytes. -/
def exactly (n : Nat) : ByteRange := ⟨n, some n⟩

/-- One character. -/
def oneChar : ByteRange := ⟨1, some 4⟩

/-- One after the other. -/
def add (a b : ByteRange) : ByteRange :=
  ⟨a.low + b.low, a.high.bind fun h ↦ b.high.map (h + ·)⟩

/-- One or else the other. -/
def merge (a b : ByteRange) : ByteRange :=
  ⟨min a.low b.low, a.high.bind fun h ↦ b.high.map (max h ·)⟩

/-- Some number of times. -/
def times (r : ByteRange) (low : Nat) (high : Option Nat) : ByteRange where
  low := r.low * low
  high := if r.high = some 0 then some 0 else high.bind fun n ↦ r.high.map (· * n)

/-- How much a distance that lies in the range is worth, the more the better it is known. -/
def worth (r : ByteRange) : Nat :=
  match r.high with
  | none => 0
  | some high =>
    let spread := high - r.low
    if spread < 100 then (2 * 1000 + spread + 1) / (2 * (spread + 1)) else 1

/-- Whether a second distance narrows a search down better than a first one, given what is to be
found there is worth. -/
def prefersSecond (first second : ByteRange) (worth₁ worth₂ : Nat) : Bool :=
  if worth₂ = 0 then false
  else if worth₁ = 0 then true
  else
    let v₁ := worth₁ * first.worth
    let v₂ := worth₂ * second.worth
    v₁ < v₂ || (v₁ == v₂ && second.low < first.low)

end ByteRange

/-- A condition on the surroundings that a search can make use of. -/
inductive SearchHint where
  /-- A match begins at the start of the text. -/
  | textStart
  /-- A match begins where the search began. -/
  | searchStart
  /-- A match begins at the start of a line. -/
  | lineStart
  /-- A match begins with any number of characters of a line. -/
  | anyOfLine
  /-- A match begins with any number of characters. -/
  | anyOfText
  /-- A match begins with a look-behind. -/
  | lookBehind
  /-- A match ends at the end of the text. -/
  | textEnd
  /-- A match ends at the end of the text or before the line feed that ends it. -/
  | textEndOrNewline
  /-- A match ends at the end of a line. -/
  | lineEnd
  /-- A match ends with a negated look-ahead. -/
  | notAhead
  deriving DecidableEq, Repr

/-- The hints for both ends of a part of a pattern. -/
structure SearchHints where
  left : List SearchHint := []
  right : List SearchHint := []
  deriving DecidableEq, Repr, Inhabited

namespace SearchHints

/-- One part after the other, given whether they take no text at all. -/
def concat (a b : SearchHints) (emptyA emptyB : Bool) : SearchHints where
  left := if emptyA then a.left ++ b.left else a.left
  right := b.right ++ (if emptyB then a.right else a.right.filter (· == .notAhead))

/-- One part or else the other. -/
def merge (a b : SearchHints) : SearchHints where
  left := a.left.filter b.left.contains
  right := a.right.filter b.right.contains

end SearchHints

/-- A text that has to stand at some distance. -/
structure RequiredText where
  distance : ByteRange := .zero
  hints : SearchHints := {}
  /-- Whether the text goes on to the end of the part. -/
  reachesEnd : Bool := false
  codes : List Nat := []
  deriving DecidableEq, Repr, Inhabited

/-- The number of bytes of some code points. -/
def codesSize (codes : List Nat) : Nat :=
  (codes.map codeSize).foldr (· + ·) 0

/-- How rare a byte is taken to be; a greater number stands for a more frequent one. -/
def byteFrequency (b : Nat) : Nat :=
  if b = 0 then 5
  else if b = 9 ∨ b = 10 ∨ b = 13 then 10
  else if b < 0x20 then 1
  else if b = 0x20 then 12
  else if b < 0x30 then if b = 0x22 then 7 else if b ≤ 0x28 then 4 else 5
  else if b < 0x3A then 6
  else if b < 0x41 then 5
  else if b < 0x5B then if b = 0x45 then 7 else 6
  else if b < 0x61 then if b = 0x5C then 6 else 5
  else if b < 0x7B then if b = 0x65 then 7 else 6
  else if b < 0x7F then 5
  else if b = 0x7F then 1
  else 4

namespace RequiredText

/-- The number of bytes of the text. -/
def size (r : RequiredText) : Nat :=
  codesSize r.codes

/-- The greatest number of bytes of a required text. -/
def maxSize : Nat := 24

/-- As many of some code points as there is room for after a text, and whether that is all. -/
def fitting (room : Nat) : List Nat → List Nat × Bool
  | [] => ([], true)
  | c :: cs =>
    if codeSize c ≤ room then
      let (taken, all) := fitting (room - codeSize c) cs
      (c :: taken, all)
    else ([], false)

/-- The required text of a text. -/
def ofCodes (distance : ByteRange) (codes : List Nat) : RequiredText :=
  let (taken, all) := fitting maxSize codes
  { distance := distance, reachesEnd := all, codes := taken }

/-- A text that follows another one. -/
def concat (a b : RequiredText) : RequiredText :=
  let (taken, all) := fitting (maxSize - a.size) b.codes
  let reachesEnd := all && b.reachesEnd
  let hints := a.hints.concat b.hints false false
  { a with
    codes := a.codes ++ taken
    reachesEnd := reachesEnd
    hints := if reachesEnd then hints else { hints with right := [] } }

/-- The common start of two lists. -/
def commonStart : List Nat → List Nat → List Nat
  | a :: as, b :: bs => if a = b then a :: commonStart as bs else []
  | _, _ => []

/-- What two alternatives both require. -/
def merge (a b : RequiredText) : RequiredText :=
  if a.codes.isEmpty || b.codes.isEmpty || a.distance != b.distance then {}
  else
    let codes := commonStart a.codes b.codes
    let reachesEnd := a.reachesEnd && b.reachesEnd && codes == a.codes && codes == b.codes
    let hints := a.hints.merge b.hints
    { a with
      codes := codes
      reachesEnd := reachesEnd
      hints := if reachesEnd then hints else { hints with right := [] } }

/-- How frequent the first byte is taken to be. -/
def frequency (r : RequiredText) : Nat :=
  match r.codes with
  | [] => 0
  | c :: _ => byteFrequency (leadByte c)

/-- The better one of two required texts. Of short ones the rarer counts, of others the longer. -/
def better (a b : RequiredText) : RequiredText :=
  if b.codes.isEmpty then a
  else if a.codes.isEmpty then b
  else
    let (va, vb) :=
      if a.size ≤ 2 ∧ b.size ≤ 2 then
        (b.frequency + (if 1 < a.size then 5 else 0), a.frequency + (if 1 < b.size then 5 else 0))
      else (a.size, b.size)
    if a.distance.prefersSecond b.distance (2 * va) (2 * vb) then b else a

end RequiredText

/-- A set of bytes one of which has to stand at some distance. -/
structure RequiredByte where
  distance : ByteRange := .zero
  hints : SearchHints := {}
  bytes : List Nat := []
  deriving DecidableEq, Repr, Inhabited

namespace RequiredByte

/-- How frequent the bytes are taken to be together. -/
def frequency (r : RequiredByte) : Nat :=
  (r.bytes.map byteFrequency).foldr (· + ·) 0

/-- What two alternatives both require. -/
def merge (a b : RequiredByte) : RequiredByte :=
  if a.bytes.isEmpty then a
  else if b.bytes.isEmpty || a.distance.high.any (· < b.distance.low) then {}
  else
    { distance := a.distance.merge b.distance
      hints := a.hints.merge b.hints
      bytes := a.bytes ++ b.bytes.filter (!a.bytes.contains ·) }

/-- The better one of two sets of bytes. -/
def better (a b : RequiredByte) : RequiredByte :=
  if b.bytes.isEmpty then a
  else if a.bytes.isEmpty then b
  else if a.distance.prefersSecond b.distance (32768 / a.frequency) (32768 / b.frequency) then b
  else a

end RequiredByte

/-- What a part of a pattern tells about its matches. -/
structure Outlook where
  length : ByteRange
  hints : SearchHints := {}
  /-- A text at the start. -/
  first : RequiredText := {}
  /-- A text further on. -/
  later : RequiredText := {}
  /-- A text that is only looked at. -/
  ahead : RequiredText := {}
  /-- A byte at the start. -/
  byte : RequiredByte := {}
  deriving Repr, Inhabited

namespace Outlook

/-- What nothing in particular tells, at some distance from the start of the match. -/
def ofLength (distance length : ByteRange) : Outlook where
  length := length
  first := { distance := distance }
  ahead := { distance := distance }
  byte := { distance := distance }

/-- Whether a part takes no text at all. -/
def isEmpty (o : Outlook) : Bool :=
  o.length.high == some 0

/-- One part after the other. -/
def concat (a b : Outlook) : Outlook :=
  let hints := a.hints.concat b.hints a.isEmpty b.isEmpty
  let bFirst : RequiredText :=
    if !b.first.codes.isEmpty && a.isEmpty then
      { b.first with hints := hints.concat b.first.hints a.isEmpty b.isEmpty }
    else b.first
  let bByte : RequiredByte :=
    if !b.byte.bytes.isEmpty && a.isEmpty && b.byte.distance.high == some 0 then
      { b.byte with hints := { b.byte.hints with left := b.byte.hints.left ++ hints.left } }
    else b.byte
  let (firstEnds, laterEnds) := (a.first.reachesEnd, a.later.reachesEnd)
  let keep (r : RequiredText) : RequiredText :=
    if b.isEmpty then r else { r with reachesEnd := false }
  let (first, later, rest) :=
    if bFirst.codes.isEmpty then (keep a.first, keep a.later, bFirst)
    else if firstEnds then ((keep a.first).concat bFirst, keep a.later, ({} : RequiredText))
    else if laterEnds then (keep a.first, (keep a.later).concat bFirst, ({} : RequiredText))
    else (keep a.first, keep a.later, bFirst)
  let later := (later.better rest).better b.later
  let (first, later, ahead) :=
    if a.ahead.codes.isEmpty then
      (first, later, if b.ahead.codes.isEmpty then a.ahead else b.ahead)
    else if b.isEmpty then (first, later, a.ahead)
    else if a.ahead.distance.high == some 0 then (first.better a.ahead, later, a.ahead)
    else (first, later.better a.ahead, a.ahead)
  { length := a.length.add b.length
    hints := hints
    first := first
    later := later
    ahead := ahead
    byte := a.byte.better bByte }

/-- One part or else the other. -/
def merge (a b : Outlook) : Outlook where
  length := a.length.merge b.length
  hints := a.hints.merge b.hints
  first := a.first.merge b.first
  later := a.later.merge b.later
  ahead := a.ahead.merge b.ahead
  byte := a.byte.merge b.byte

/-- Repeats the text at the start, up to a number of times in all. The flag says whether every one
of them fitted in. -/
def repeatText (r : RequiredText) : Nat → RequiredText → RequiredText × Bool
  | 0, acc => (acc, true)
  | n + 1, acc =>
    if RequiredText.maxSize ≤ acc.size then (acc, n == 0)
    else
      let next := acc.concat r
      if acc.size + r.size ≤ RequiredText.maxSize then repeatText r n next else (next, n == 0)

/-- A repeat of a part. -/
def repeated (o : Outlook) (distance : ByteRange) (low : Nat) (high : Option Nat)
    (anyRun : Option SearchHint) : Outlook :=
  let base : Outlook :=
    if low = 0 then .ofLength distance .zero
    else
      let first :=
        if !o.first.codes.isEmpty && o.first.reachesEnd then
          let (r, all) := repeatText o.first (low - 1) o.first
          if all then r else { r with reachesEnd := false }
        else o.first
      let open' (r : RequiredText) (fixed : Bool) : RequiredText :=
        if fixed then r else { r with reachesEnd := false }
      { o with
        first := open' first (high == some low)
        later := open' o.later (high == some low && low ≤ 1) }
  let hints :=
    match anyRun with
    | some h =>
      if high.isNone && distance.high == some 0 then
        { base.hints with left := h :: base.hints.left }
      else base.hints
    | none => base.hints
  { base with hints := hints, length := o.length.times low high }

end Outlook

/-- The hint that an anchor gives, and whether it is for the start of a match. -/
def Anchor.hint? : Anchor → Option SearchHints
  | lineStart => some { left := [.lineStart] }
  | textStart => some { left := [.textStart] }
  | searchStart => some { left := [.searchStart] }
  | lineEnd => some { right := [.lineEnd] }
  | textEnd => some { right := [.textEnd] }
  | textEndOrNewline => some { right := [.textEndOrNewline] }
  | wordBoundary | notWordBoundary => none

namespace Pattern

/-- The number of bytes that a pattern takes, by its number of characters. -/
def byteRange (groups : Nat → Extent) (p : Pattern) : ByteRange :=
  let e := p.extent groups
  ⟨e.low, e.high.map (· * 4)⟩

/-- What a pattern tells about its matches, at some distance from their start. -/
def outlook (groups : Nat → Extent) (references : List Nat) :
    Pattern → (distance : ByteRange) → Outlook
  | text codes _, distance =>
    { Outlook.ofLength distance (.exactly (codesSize codes)) with
      first := .ofCodes distance codes
      byte := { distance := distance, bytes := (codes.take 1).map leadByte } }
  | char test, distance =>
    if test.isSet && test.isAscii then
      { Outlook.ofLength distance (.exactly 1) with
        byte := { distance := distance, bytes := test.asciiCodes } }
    else .ofLength distance .oneChar
  | anchor a, distance =>
    { Outlook.ofLength distance .zero with hints := a.hint?.getD {} }
  | sequence a b, distance =>
    let first := a.outlook groups references distance
    first.concat (b.outlook groups references (distance.add first.length))
  | either a b, distance =>
    (a.outlook groups references distance).merge (b.outlook groups references distance)
  | group n body, distance =>
    let o := body.outlook groups references distance
    if references.contains n then
      { o with hints := { o.hints with
          left := o.hints.left.filter fun h ↦ h != .anyOfLine && h != .anyOfText } }
    else o
  | enclosed body, distance | atomic body, distance => body.outlook groups references distance
  | repeated body low high greedy, distance =>
    if high = some 0 then .ofLength distance .zero
    else
      let anyRun : Option SearchHint :=
        match greedy, body with
        | true, char .any => some .anyOfText
        | true, char .notNewline => some .anyOfLine
        | _, _ => none
      (body.outlook groups references distance).repeated distance low high anyRun
  | lookAhead false body, distance =>
    let o := body.outlook groups references distance
    let seen := if o.first.codes.isEmpty then o.later else o.first
    let base := Outlook.ofLength distance .zero
    { base with
      ahead := if seen.codes.isEmpty then base.ahead else { seen with reachesEnd := false }
      byte := if o.byte.bytes.isEmpty then base.byte else o.byte }
  | lookAhead true _, distance =>
    { Outlook.ofLength distance .zero with hints := { right := [.notAhead] } }
  | lookBehind false _, distance =>
    { Outlook.ofLength distance .zero with hints := { left := [.lookBehind] } }
  | lookBehind true _, distance => .ofLength distance .zero
  | backreference refs i inside, distance =>
    .ofLength distance (byteRange groups (backreference refs i inside))
  | never, distance => .ofLength distance .zero

end Pattern

/-- What has to stand at some distance from the start of a match. -/
inductive RequiredPlace where
  | nothing
  /-- A text. -/
  | text (codes : List Nat) (distance : ByteRange) (lineStart : Bool)
  /-- One of some bytes; the table says of every byte whether it is one of them. -/
  | byte (table : Array Bool) (distance : ByteRange) (lineStart : Bool)
  deriving DecidableEq, Repr, Inhabited

/-- What a search can make use of. -/
structure Requirement where
  place : RequiredPlace
  /-- A match begins at the start of the text. -/
  textStart : Bool
  /-- If there is a match, there is one where the search began. -/
  searchStart : Bool
  /-- If there is a match, there is one at the start of the search or of a line. -/
  lines : Bool
  /-- A match ends at the end of the text, or perhaps before the line feed that ends it. -/
  atEnd : Option Bool
  /-- The number of bytes of a match. -/
  length : ByteRange
  deriving DecidableEq, Repr, Inhabited

namespace Requirement

/-- What narrows a search for a pattern down most. -/
def ofOutlook (o : Outlook) : Requirement :=
  let left := o.hints.left.contains
  let right := o.hints.right.contains
  let text := o.first.better o.later
  let guarded := left .lookBehind || right .notAhead
  { place :=
      if !text.codes.isEmpty &&
          !(!o.byte.bytes.isEmpty &&
            text.distance.prefersSecond o.byte.distance (60 * text.size)
              (200 / o.byte.frequency)) then
        .text text.codes text.distance (text.hints.left.contains .lineStart)
      else if !o.byte.bytes.isEmpty then
        .byte (((List.range 256).map o.byte.bytes.contains).toArray) o.byte.distance
          (o.byte.hints.left.contains .lineStart)
      else .nothing
    textStart := left .textStart
    searchStart := left .searchStart || (left .anyOfText && !left .lookBehind)
    lines := left .anyOfLine && !guarded
    atEnd :=
      if right .textEnd then some false else if right .textEndOrNewline then some true else none
    length := o.length }

/-- What a resolved pattern requires, given the extents of its groups. -/
def ofPattern (p : Pattern) (groups : Nat → Extent) : Requirement :=
  ofOutlook (p.outlook groups p.references .zero)

/-- The requirement that nothing is known of. -/
def none : Requirement :=
  ⟨.nothing, false, false, false, Option.none, ⟨0, Option.none⟩⟩

end Requirement

end ScopeGrammar
