import ScopeGrammar.Pattern.Program
import ScopeGrammar.Text.Indexed

/-!
# The machine

A `Thread` goes through a text by the instructions of a program. What it did not choose is on its
stack: `Thread.backtrack` goes back to the last choice, with the registers of that time. `step` is
one instruction, `run` repeats it, and gives up when it had to go back too often.

The registers hold what a choice takes back with it: the end of the text as a look-behind sees it,
the captures of revocable groups, and the state of the repeats. The captures of other groups are
kept apart, since nothing takes them back.

Positions count characters.
-/

namespace ScopeGrammar

/-- The part of a text that a search sees: it may begin to match from `start` on, may look at all
that precedes, and nothing exists from `stop` on. -/
structure Window where
  text : IndexedText
  start : Nat
  stop : Nat
  deriving Repr

namespace Window

/-- The character after a position, if one is there before `limit`. -/
@[inline] def charAt? (w : Window) (limit p : Nat) : Option Char :=
  if h : p < w.text.chars.size then if p < limit then some w.text.chars[p] else none else none

/-- The character after a position. -/
def after? (w : Window) (p : Nat) : Option Char :=
  w.charAt? w.stop p

/-- The character before a position. -/
def before? (w : Window) (p : Nat) : Option Char :=
  match p with
  | 0 => none
  | p + 1 => w.after? p

/-- Whether a neighbour of a position is part of a word. -/
def isWordAt (c : Option Char) : Bool :=
  match c with
  | some c => isWordSign c
  | none => false

/-- Whether a word begins or ends at a position. At the start of the text a character has to be
there before `limit`. -/
def wordBoundary (w : Window) (limit p : Nat) : Bool :=
  if p = 0 then isWordAt (w.charAt? (min limit w.stop) p)
  else isWordAt (w.before? p) != isWordAt (w.after? p)

/-- Whether an anchor holds at a position. -/
def holds (w : Window) (limit p : Nat) : Anchor → Bool
  | .lineStart => p == 0 || (w.before? p == some '\n' && p < w.stop)
  | .lineEnd => p == w.stop || w.after? p == some '\n'
  | .textStart => p == 0
  | .textEnd => p == w.stop
  | .textEndOrNewline => p == w.stop || (w.after? p == some '\n' && p + 1 == w.stop)
  | .searchStart => p == w.start
  | .wordBoundary => w.wordBoundary limit p
  | .notWordBoundary => !w.wordBoundary limit p

/-- Whether some code points are those of the characters from a position on: the position after
them. -/
def skipCodes? (w : Window) (limit p : Nat) : List Nat → Option Nat
  | [] => some p
  | n :: ns =>
    match w.charAt? limit p with
    | some c => if c.toNat = n then w.skipCodes? limit (p + 1) ns else none
    | none => none

/-- Whether the first byte of the character after a position is a given one. -/
def leads (w : Window) (limit p byte : Nat) : Bool :=
  match w.charAt? limit p with
  | some c => leadByte c.toNat == byte
  | none => false

/-- Whether the `n` characters from `q` on are those from `p` on: the position after them. -/
def skipSame? (w : Window) (limit p q : Nat) : Nat → Option Nat
  | 0 => some p
  | n + 1 =>
    match w.charAt? limit p, w.after? q with
    | some c, some d => if c = d then w.skipSame? limit (p + 1) (q + 1) n else none
    | _, _ => none

/-- The same up to full case folds, character by character. The text that is compared has as many
bytes as the captured one, up to `bound`; a character that reaches past them counts only if it is
a single byte. -/
def skipSameFold? (w : Window) (p q bound : Nat) : Nat → Option Nat
  | 0 => some p
  | n + 1 =>
    match w.after? p, w.after? q with
    | some c, some d =>
      if fullFold c.toNat = fullFold d.toNat ∧
          (w.text.offset (p + 1) ≤ bound ∨ c.toNat < 0x80) then
        w.skipSameFold? (p + 1) (q + 1) bound n
      else none
    | _, _ => none

end Window

/-! ### Captures -/

/-- Where a group was opened and closed last. -/
structure Mark where
  start : Option Nat := none
  stop : Option Nat := none
  deriving DecidableEq, Repr, Inhabited

/-- The marks of the groups, by number. -/
abbrev Marks := Array Mark

namespace Marks

/-- The mark of a group. -/
def get (m : Marks) (n : Nat) : Mark :=
  m[n]?.getD {}

/-- Records a mark. -/
def put (m : Marks) (n : Nat) (mark : Mark) : Marks :=
  m.setIfInBounds n mark

end Marks

/-! ### Registers -/

/-- What a number of keys have been assigned. -/
abbrev Assignment (α : Type) := List (Nat × α)

namespace Assignment

/-- Assigns a value to a key. -/
def assign {α : Type} (key : Nat) (value : α) : Assignment α → Assignment α
  | [] => [(key, value)]
  | entry :: rest =>
    if entry.1 = key then (key, value) :: rest else entry :: assign key value rest

end Assignment

/-- The opening of a group: its number and its mark before. -/
structure Opening where
  group : Nat
  before : Mark
  deriving DecidableEq, Repr

/-- What is taken back together with a choice. -/
structure Registers where
  /-- Where the text ends. -/
  limit : Nat
  /-- The marks of revocable groups. -/
  marks : Marks
  /-- The openings of revocable groups, the last one first, and their number. -/
  openings : List Opening := []
  opened : Nat := 0
  /-- For each repeat where its round began, and how many openings there were. -/
  rounds : Assignment (Nat × Nat) := []
  /-- For each counted repeat its number of rounds. -/
  counts : Assignment Nat := []
  deriving Repr, Inhabited

/-- How a round of a repeat ended. -/
inductive RoundEnd where
  /-- It took text, or changed what a watched group captured. -/
  | progress
  /-- It changed nothing. -/
  | empty
  /-- It moved an empty capture, which cannot go on for ever. -/
  | stuck
  deriving DecidableEq, Repr

namespace Registers

/-- Whether a round that took no text made progress, by the openings of watched groups in it. -/
def judge (watched : List Nat) (p : Nat) : List Opening → RoundEnd → RoundEnd
  | [], verdict => verdict
  | o :: rest, verdict =>
    if watched.contains o.group then
      match o.before.start, o.before.stop with
      | some start, some stop =>
        if start ≠ stop then .progress
        else judge watched p rest (if stop = p then verdict else .stuck)
      | _, _ => .progress
    else judge watched p rest verdict

/-- How the round of a repeat that ends at `p` ended. -/
def roundEnd (r : Registers) (key p : Nat) (watched : List Nat) : RoundEnd :=
  match r.rounds.lookup key with
  | some (start, opened) =>
    if start ≠ p then .progress
    else if watched.isEmpty then .empty
    else judge watched p (r.openings.take (r.opened - opened)) .empty
  | none => .progress

end Registers

/-! ### Threads -/

/-- An entry of the stack. -/
inductive Pending where
  /-- Go on from an instruction and a position. -/
  | choice (pc pos : Nat) (registers : Registers)
  /-- Go back one more character, and so on up to a number of times. -/
  | back (pc pos : Nat) (more : Option Nat) (registers : Registers)
  /-- A mark with the position and the limit of that time. -/
  | mark (pos limit : Nat)
  deriving Repr

/-- A run of a program that is under way. -/
structure Thread where
  /-- The place of the next instruction. -/
  pc : Nat
  pos : Nat
  registers : Registers
  /-- The marks of the groups that are not revocable. -/
  kept : Marks
  pending : List Pending
  deriving Repr, Inhabited

/-- What an instruction leads to. -/
inductive Move where
  | go (t : Thread)
  /-- Go back to the last choice. -/
  | retreat (t : Thread)
  | accept (t : Thread)

namespace Thread

/-- Goes on with the next instruction. -/
@[inline] def next (t : Thread) : Move :=
  .go { t with pc := t.pc + 1 }

/-- Goes on with the next instruction at a position. -/
@[inline] def nextAt (t : Thread) (pos : Nat) : Move :=
  .go { t with pc := t.pc + 1, pos := pos }

/-- The place of an instruction that is some way off. -/
@[inline] def place (t : Thread) (offset : Int) : Nat :=
  (t.pc + offset).toNat

/-- Goes on with another instruction. -/
@[inline] def jump (t : Thread) (offset : Int) : Move :=
  .go { t with pc := t.place offset }

/-- Leaves another instruction as a choice and goes on with the next one. -/
@[inline] def choose (t : Thread) (offset : Int) : Move :=
  .go { t with
    pc := t.pc + 1
    pending := .choice (t.place offset) t.pos t.registers :: t.pending }

/-- Goes back to the last choice, if there is one. -/
def backtrack (t : Thread) : Option Thread :=
  go t t.pending
where
  /-- Looks for the last choice among some entries. -/
  go (t : Thread) : List Pending → Option Thread
    | [] => none
    | .choice pc pos registers :: rest =>
      some { t with pc := pc, pos := pos, registers := registers, pending := rest }
    | .back pc pos more registers :: rest =>
      match pos, more with
      | 0, _ | _, some 0 => go t rest
      | pos + 1, more =>
        some { t with
          pc := pc, pos := pos, registers := registers
          pending := .back pc pos (more.map (· - 1)) registers :: rest }
    | .mark _ _ :: rest => go t rest

/-- The last mark of a stack and what precedes it. -/
def lastMark? : List Pending → Option (Nat × Nat × List Pending)
  | [] => none
  | .mark pos limit :: rest => some (pos, limit, rest)
  | _ :: rest => lastMark? rest

/-- Forgets the choices since the last mark, and goes back to where it was set if asked for. -/
def cut (t : Thread) (back : Bool) : Move :=
  match lastMark? t.pending with
  | none => .retreat t
  | some (pos, limit, rest) =>
    if back then
      .go { t with
        pc := t.pc + 1
        pos := pos
        registers := { t.registers with limit := limit }
        pending := rest }
    else .go { t with pc := t.pc + 1, pending := rest }

/-- Opens a group. -/
def openGroup (t : Thread) (n : Nat) (revocable : Bool) : Move :=
  if revocable then
    let before := t.registers.marks.get n
    .go { t with
      pc := t.pc + 1
      registers := { t.registers with
        marks := t.registers.marks.put n { start := some t.pos }
        openings := ⟨n, before⟩ :: t.registers.openings
        opened := t.registers.opened + 1 } }
  else
    .go { t with
      pc := t.pc + 1
      kept := t.kept.put n { t.kept.get n with start := some t.pos } }

/-- Closes a group. -/
def closeGroup (t : Thread) (n : Nat) (revocable : Bool) : Move :=
  if revocable then
    .go { t with
      pc := t.pc + 1
      registers := { t.registers with
        marks := t.registers.marks.put n
          { t.registers.marks.get n with stop := some t.pos } } }
  else
    .go { t with
      pc := t.pc + 1
      kept := t.kept.put n { t.kept.get n with stop := some t.pos } }

/-- The position after the text of a group, if it comes next. `none` if it does not, and
`some none` if the text would have to be longer. -/
def skipGroup (w : Window) (limit p : Nat) (ignoreCase : Bool) (start stop : Nat) :
    Option (Option Nat) :=
  if ignoreCase then
    let bytes := w.text.offset stop - w.text.offset start
    let bound := w.text.offset p + bytes
    if w.text.offset limit < bound then some none
    else (w.skipSameFold? p start bound (stop - start)).map some
  else if limit < p + (stop - start) then some none
  else (w.skipSame? limit p start (stop - start)).map some

/-- Takes the text of the first of some groups that took part and fits. A text that is too long for
what is left fails for all of them. -/
def reference (w : Window) (t : Thread) (ignoreCase : Bool) : List Nat → Move
  | [] => .retreat t
  | n :: ns =>
    match t.registers.marks.get n with
    | ⟨some start, some stop⟩ =>
      match skipGroup w t.registers.limit t.pos ignoreCase start stop with
      | some (some p) => t.nextAt p
      | some none => .retreat t
      | none => reference w t ignoreCase ns
    | _ => reference w t ignoreCase ns

/-- Ends a round of a repeat. -/
def endRound (t : Thread) (distance : Nat) (watched : List Nat) : Move :=
  match t.registers.roundEnd (t.pc - distance) t.pos watched with
  | .progress => t.next
  | .empty => .go { t with pc := t.pc + 2 }
  | .stuck => .retreat t

/-- The thread with the number of rounds of a counted repeat. -/
def setCount (t : Thread) (key n : Nat) : Thread :=
  { t with registers := { t.registers with counts := t.registers.counts.assign key n } }

/-- Begins a counted repeat. -/
def beginCount (t : Thread) (bounds : RepeatBounds) (exit : Nat) : Move :=
  let t := t.setCount t.pc 0
  if bounds.low ≠ 0 then t.next
  else if bounds.greedy then t.choose exit
  else
    .go { t with
      pc := t.pc + exit
      pending := .choice (t.pc + 1) t.pos t.registers :: t.pending }

/-- Counts a round of a repeat: another one follows, or not, or there is a choice. -/
def countRound (t : Thread) (distance : Nat) (bounds : RepeatBounds) : Move :=
  let key := t.pc - distance
  let n := (t.registers.counts.lookup key).getD 0 + 1
  let again : Int := 1 - distance
  if bounds.high.any (· ≤ n) then (t.setCount key n).next
  else if n < bounds.low then (t.setCount key n).jump again
  else if bounds.greedy then
    let exit := Pending.choice (t.pc + 1) t.pos t.registers
    ({ t.setCount key n with pending := exit :: t.pending }).jump again
  else (t.setCount key n).choose again

/-- Takes a character of a run. -/
def takeRun (w : Window) (t : Thread) (test : CharTest) (next : Option Nat) : Move :=
  match w.charAt? t.registers.limit t.pos with
  | none => t.next
  | some c =>
    let pending :=
      if next.all (leadByte c.toNat == ·) then
        .choice (t.pc + 1) t.pos t.registers :: t.pending
      else t.pending
    if test.accepts c then .go { t with pos := t.pos + 1, pending := pending }
    else .retreat { t with pending := pending }

/-- Does one instruction. Outside the program there is none. -/
def step (program : Array Instruction) (w : Window) (t : Thread) : Move :=
  match program[t.pc]? with
  | none => .retreat t
  | some i =>
    match i with
    | .text codes =>
      match w.skipCodes? t.registers.limit t.pos codes with
      | some p => t.nextAt p
      | none => .retreat t
    | .char test =>
      match w.charAt? t.registers.limit t.pos with
      | some c => if test.accepts c then t.nextAt (t.pos + 1) else .retreat t
      | none => .retreat t
    | .anchor a => if w.holds t.registers.limit t.pos a then t.next else .retreat t
    | .takeRun test next => t.takeRun w test next
    | .choice offset => t.choose offset
    | .choiceIf byte offset =>
      if w.leads t.registers.limit t.pos byte then t.choose offset else t.next
    | .choiceOrJump byte offset =>
      if w.leads t.registers.limit t.pos byte then t.choose offset else t.jump offset
    | .jump offset => t.jump offset
    | .fail => .retreat t
    | .accept => .accept t
    | .drop => .go { t with pc := t.pc + 1, pending := t.pending.tail }
    | .mark =>
      .go { t with pc := t.pc + 1, pending := .mark t.pos t.registers.limit :: t.pending }
    | .cut back => t.cut back
    | .stepBack n => if n ≤ t.pos then t.nextAt (t.pos - n) else .retreat t
    | .stepBackFrom n more =>
      if n ≤ t.pos then
        let p := t.pos - n
        .go { t with
          pc := t.pc + 1
          pos := p
          pending := .back (t.pc + 1) p more t.registers :: t.pending }
      else .retreat t
    | .limitHere =>
      .go { t with pc := t.pc + 1, registers := { t.registers with limit := t.pos } }
    | .atLimit => if t.pos = t.registers.limit then t.next else .retreat t
    | .openGroup n revocable => t.openGroup n revocable
    | .closeGroup n revocable => t.closeGroup n revocable
    | .backreference groups ignoreCase => t.reference w ignoreCase groups
    | .beginRound =>
      let round := (t.pos, t.registers.opened)
      .go { t with
        pc := t.pc + 1
        registers := { t.registers with rounds := t.registers.rounds.assign t.pc round } }
    | .endRound distance watched => t.endRound distance watched
    | .beginCount bounds exit => t.beginCount bounds exit
    | .countRound distance bounds => t.countRound distance bounds

end Thread

/-- How a run ends. -/
inductive Outcome where
  /-- It matched; the thread has the end of the match and the captures. -/
  | matched (t : Thread)
  | mismatch
  /-- It went back too often. -/
  | exhausted
  deriving Repr, Inhabited

/-- How often a run may go back. -/
def maxRetreats : Nat := 10000000

/-- Runs a program to its end. The fuel bounds the number of instructions, `retreats` is how often
the run has gone back. -/
def Thread.run (program : Array Instruction) (w : Window) :
    (fuel retreats : Nat) → Thread → Outcome
  | 0, _, _ => .exhausted
  | fuel + 1, retreats, t =>
    match t.step program w with
    | .go t => run program w fuel retreats t
    | .accept t => .matched t
    | .retreat t =>
      if maxRetreats ≤ retreats then .exhausted
      else
        match t.backtrack with
        | some t => run program w fuel (retreats + 1) t
        | none => .mismatch

/-- More instructions than a run that is not exhausted comes to. A program without choices does each
of its instructions once. -/
def runFuel (program : Array Instruction) : Nat := Nat.pow 2 60 + program.size

end ScopeGrammar
