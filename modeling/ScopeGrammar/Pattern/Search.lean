import ScopeGrammar.Pattern.Machine

/-!
# Searching

A search runs a program at one position after the other and takes the first match. What matches
require tells which positions it can leave out: `Places` are those that are left.
-/

namespace ScopeGrammar

/-- A match: where it begins and ends, and the captures. -/
structure Found where
  start : Nat
  stop : Nat
  marks : Marks
  kept : Marks
  deriving Repr, Inhabited

namespace Found

/-- The span of a group that was closed. -/
def span? (f : Found) (n : Nat) : Option (Nat × Nat) :=
  match f.marks.get n, f.kept.get n with
  | ⟨some start, some stop⟩, _ => some (start, stop)
  | _, ⟨some start, some stop⟩ => some (start, stop)
  | _, _ => none

end Found

/-- What a search comes to. -/
inductive SearchResult where
  | found (f : Found)
  | nowhere
  /-- A run went back too often. -/
  | exhausted
  deriving Repr, Inhabited

namespace Program

/-- The marks of groups none of which took part. -/
def noMarks (program : Program) : Marks :=
  Array.replicate (program.groups + 1) {}

/-- The thread that begins at a position. -/
def threadAt (program : Program) (w : Window) (p : Nat) : Thread where
  pc := 0
  pos := p
  registers := { limit := w.stop, marks := program.noMarks }
  kept := program.noMarks
  pending := []

/-- Runs the program at a position, with a thread that stands elsewhere. A match does not end before
its start, nor after the end of the text. -/
def matchAt (program : Program) (w : Window) (t : Thread) (p : Nat) : SearchResult :=
  match { t with pos := p }.run program.code w (runFuel program.code) 0 with
  | .matched t =>
    if p ≤ t.pos ∧ t.pos ≤ w.stop then .found ⟨p, t.pos, t.registers.marks, t.kept⟩ else .nowhere
  | .mismatch => .nowhere
  | .exhausted => .exhausted

end Program

/-! ### Required places -/

namespace Window

/-- Whether a line begins at a position. -/
def atLineStart (w : Window) (p : Nat) : Bool :=
  p == 0 || w.before? p == some '\n'

/-- Whether a required place is at a position. -/
def hasPlace (w : Window) (p : Nat) : RequiredPlace → Bool
  | .nothing => true
  | .text codes _ lineStart =>
    (w.skipCodes? w.stop p codes).isSome && (!lineStart || w.atLineStart p)
  | .byte table _ lineStart =>
    match w.after? p with
    | some c => table[leadByte c.toNat]?.getD false && (!lineStart || w.atLineStart p)
    | none => false

/-- The first of `n` positions from `p` on that has a required place. -/
def findPlace? (w : Window) (place : RequiredPlace) : (n p : Nat) → Option Nat
  | 0, _ => none
  | n + 1, p => if w.hasPlace p place then some p else w.findPlace? place n (p + 1)

/-- The first of `n` positions from `p` on that lies `low` bytes or more after a byte position. -/
def findByte? (w : Window) (byte : Nat) : (n p : Nat) → Option Nat
  | 0, _ => none
  | n + 1, p => if byte ≤ w.text.offset p then some p else w.findByte? byte n (p + 1)

end Window

/-- The positions at which a search tries. -/
inductive Places where
  /-- All of them. -/
  | all
  /-- Those at which the search began or a line begins. -/
  | lines
  /-- Those that have a required place at a certain distance. -/
  | near (place : RequiredPlace) (distance : ByteRange)
  deriving Repr

namespace Program

/-- Whether a search tries at a position; `next` is the first required place that was found to be
far enough from an earlier position, and the answer has the one for this position. -/
def triesAt (w : Window) (places : Places) (p next : Nat) : Option (Bool × Nat) :=
  match places with
  | .all => some (true, next)
  | .lines => some (p == w.start || w.before? p == some '\n', next)
  | .near place distance =>
    let byte := w.text.offset p + distance.low
    let next? :=
      if p ≤ next ∧ byte ≤ w.text.offset next ∧ w.hasPlace next place then some next
      else
        match w.findByte? byte (w.stop + 1 - p) p with
        | some q => w.findPlace? place (w.stop - max q next) (max q next)
        | none => none
    next?.map fun q ↦ (distance.high.all (w.text.offset q ≤ w.text.offset p + ·), q)

/-- The first match at one of `n` positions from `p` on. -/
def searchFrom (program : Program) (w : Window) (places : Places) (t : Thread) :
    (n p next : Nat) → SearchResult
  | 0, _, _ => .nowhere
  | n + 1, p, next =>
    match triesAt w places p next with
    | none => .nowhere
    | some (false, next) => searchFrom program w places t n (p + 1) next
    | some (true, next) =>
      match program.matchAt w t p with
      | .nowhere => searchFrom program w places t n (p + 1) next
      | result => result

/-- The first and the last position at which a match can begin, by its end and its length. -/
def bounds (r : Requirement) (w : Window) : Nat × Nat :=
  match r.atEnd with
  | none => (w.start, w.stop)
  | some beforeNewline =>
    let stop := w.text.offset w.stop
    let newline := beforeNewline && w.before? w.stop == some '\n'
    let last := if newline then stop - 1 else stop
    if newline && (w.stop == 1 || w.stop - 1 < w.start) then (w.start, w.stop)
    else
      let first :=
        match r.length.high with
        | none => w.start
        | some high => ((w.findByte? (last - high) (w.stop + 1 - w.start) w.start).getD w.stop)
      let count := w.stop + 1 - w.start
      let tooLate := (w.findByte? (stop - r.length.low + 1) count w.start).getD (w.stop + 1)
      (first, tooLate - 1)

/-- The leftmost match in a window. -/
def search (program : Program) (w : Window) : SearchResult :=
  let r := program.requirement
  let t := program.threadAt w w.start
  let (first, last) := bounds r w
  let last := if r.textStart || r.searchStart then min first last else last
  let count := last + 1 - first
  if r.textStart && first ≠ 0 then .nowhere
  else
    match r.place with
    | .nothing => searchFrom program w .all t count first first
    | .text _ distance _ | .byte _ distance _ =>
      match distance.high with
      | some _ => searchFrom program w (.near r.place distance) t count first first
      | none =>
        -- A place at an unknown distance has to be there at all.
        match w.findByte? (w.text.offset first + distance.low) (w.stop + 1 - first) first with
        | none => .nowhere
        | some q =>
          if (w.findPlace? r.place (w.stop - q) q).isSome then
            searchFrom program w (if r.lines then .lines else .all) t count first first
          else .nowhere

end Program

end ScopeGrammar
