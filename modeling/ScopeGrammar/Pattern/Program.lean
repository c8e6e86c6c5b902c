import ScopeGrammar.Pattern.Requirement

/-!
# Programs

A resolved pattern is turned into a program for a machine that goes through a text, keeps the
choices it has passed on a stack and goes back to the last one when it fails. A program is a list of
instructions; where nothing else is said the next one in the list follows.

Repeats with few rounds are written out, longer ones are counted. Only counted and unlimited repeats
look out for rounds that take no text, so that how a repeat is written shows in what its groups
capture at the end.
-/

namespace ScopeGrammar

/-- The bounds of a counted repeat. -/
structure RepeatBounds where
  low : Nat
  high : Option Nat
  greedy : Bool
  deriving DecidableEq, Repr, Inhabited

/-- An instruction. An offset leads to another instruction, counted from this one. -/
inductive Instruction where
  /-- Takes the characters with some code points. -/
  | text (codes : List Nat)
  /-- Takes a character that meets a condition. -/
  | char (test : CharTest)
  | anchor (a : Anchor)
  /-- Takes characters that meet a condition as far as there are any, with a choice before each of
  them; a given first byte restricts the choices to characters that begin with it. -/
  | takeRun (test : CharTest) (next : Option Nat)
  /-- Leaves another instruction as a choice. -/
  | choice (offset : Int)
  /-- The same if the next byte of the text is the given one. -/
  | choiceIf (byte : Nat) (offset : Int)
  /-- The same if the next byte of the text is the given one; otherwise goes there. -/
  | choiceOrJump (byte : Nat) (offset : Int)
  | jump (offset : Int)
  | fail
  | accept
  /-- Forgets what was put on the stack last. -/
  | drop
  /-- Marks the stack. -/
  | mark
  /-- Forgets the choices since the last mark and the mark; `back` goes back to its position. -/
  | cut (back : Bool)
  /-- Goes back a number of characters. -/
  | stepBack (n : Nat)
  /-- Goes back a number of characters, with up to `more` further ones as choices. -/
  | stepBackFrom (n : Nat) (more : Option Nat)
  /-- Makes the current position the end of the text. -/
  | limitHere
  /-- Checks that the end of the text is reached. -/
  | atLimit
  | openGroup (n : Nat) (revocable : Bool)
  | closeGroup (n : Nat) (revocable : Bool)
  | backreference (groups : List Nat) (ignoreCase : Bool)
  /-- Begins a round of a repeat. -/
  | beginRound
  /-- Ends the round that began some instructions before. If it took no text, and changed none of
  the watched groups, the next instruction is left out. -/
  | endRound (distance : Nat) (watched : List Nat)
  /-- Begins a counted repeat, whose rounds follow. -/
  | beginCount (bounds : RepeatBounds) (exit : Nat)
  /-- Counts a round of the repeat that began some instructions before. -/
  | countRound (distance : Nat) (bounds : RepeatBounds)
  deriving DecidableEq, Repr, Inhabited

/-- A piece of a program, which can stand anywhere in it. -/
abbrev Code := List Instruction

namespace Instruction

/-- How much an instruction counts when code is measured. Going back a varying number of characters
is the only thing that is long by itself. -/
def weight : Instruction → Nat
  | limitHere => 10
  | _ => 1

end Instruction

namespace Code

/-- How long a piece of code counts. -/
def size (a : Code) : Nat :=
  (a.map Instruction.weight).foldr (· + ·) 0

/-- Tries one piece of code and, if that fails, another. -/
def orElse (a b : Code) : Code :=
  .choice (a.length + 2) :: a ++ .jump (b.length + 1) :: b

/-- A number of copies. -/
def copies (a : Code) : Nat → Code
  | 0 => []
  | n + 1 => a ++ copies a n

/-- A number of rounds of which each can be the last one. -/
def optional (a : Code) : Nat → Code
  | 0 => []
  | n + 1 => .choice ((n + 1) * (a.length + 1)) :: a ++ optional a n

/-- A part that can be left out and rather is. -/
def rather (a : Code) : Code :=
  .choice 2 :: .jump (a.length + 1) :: a

/-- Any number of rounds. Each is begun by an instruction that is given the offset of the end; with
`entered` the first one is begun from outside. -/
def loop (begin : Int → Instruction) (entered : Bool) (a : Code) : Code :=
  (if entered then [.jump 2] else []) ++
    begin (a.length + 2) :: a ++ [.jump (-(a.length + 1))]

/-- Any number of rounds, rather fewer than more. -/
def lazyLoop (entered : Bool) (a : Code) : Code :=
  .jump (if entered then 1 else a.length + 1) :: a ++ [.choice (-a.length)]

/-- As many rounds as there are, of a body without choices, for good. -/
def keepingLoop (a : Code) : Code :=
  .choice (a.length + 3) :: a ++ [.drop, .jump (-(a.length + 2))]

/-- A round of a repeat. `canBeEmpty` says that it has to look out for taking no text. -/
def round (canBeEmpty : Bool) (watched : List Nat) (a : Code) : Code :=
  if canBeEmpty then .beginRound :: a ++ [.endRound (a.length + 1) watched] else a

/-- A counted repeat of a round. -/
def counted (bounds : RepeatBounds) (a : Code) : Code :=
  .beginCount bounds (a.length + 2) :: a ++ [.countRound (a.length + 1) bounds]

/-- Code that must not match: what it did is taken back if it does. -/
def refuse (a : Code) : Code :=
  .mark :: .choice (a.length + 3) :: a ++ [.cut false, .fail, .drop]

/-- Code that is matched for good: its choices are forgotten. -/
def settle (back : Bool) (a : Code) : Code :=
  .mark :: a ++ [.cut back]

end Code

namespace Pattern

/-- The largest size of the code of a repeat that is written out. -/
def maxExpansion : Nat := 10

/-- Cuts a text into runs of characters that take the same number of bytes. -/
def textRuns : List Nat → List Instruction
  | [] => []
  | c :: cs =>
    match textRuns cs with
    | .text (d :: ds) :: rest =>
      if codeSize c = codeSize d then .text (c :: d :: ds) :: rest
      else .text [c] :: .text (d :: ds) :: rest
    | rest => .text [c] :: rest

/-- The first byte that the rounds of a greedy repeat of a body are known to begin with. A repeat in
the body knows it for the repeat around it. -/
def roundByte? (groups : Nat → Extent) : Pattern → (greedy : Bool) → Option Nat
  | _, false => none
  | repeated body low high greedy, true =>
    if (repeated body low high greedy).canBeEmpty groups then none
    else body.roundByte? groups greedy
  | body, true => if body.canBeEmpty groups then none else body.headByte?

/-- An unlimited greedy repeat of a round, without the rounds before it. `byte` is the first byte
that a round is known to begin with, `next` the one that is known to follow the repeat. -/
def greedyLoop (body : Pattern) (round : Code) (entered : Bool) (byte next : Option Nat) : Code :=
  match body, byte, next with
  | char .any, _, next => [.takeRun .any next]
  | char .notNewline, _, next => [.takeRun .notNewline next]
  | _, some byte, _ => round.loop (.choiceOrJump byte) entered
  | _, none, some byte => round.loop (.choiceIf byte) entered
  | _, none, none => round.loop .choice entered

/-- The code of a repeat, given the code of its body. -/
def repeatCode (f : PatternFacts) (body : Pattern) (code : Code) (bounds : RepeatBounds)
    (byte next : Option Nat) : Code :=
  let ⟨low, high, greedy⟩ := bounds
  let size := code.size
  let round := code.round (body.canBeEmpty f.groups) (body.watched f.groups f.references)
  if size = 0 then []
  else
    match high with
    | none =>
      if low ≤ 1 || size * low ≤ maxExpansion then
        let entered := low == 1 && maxExpansion < size
        (if entered then [] else code.copies low) ++
          if greedy then greedyLoop body round entered byte next else round.lazyLoop entered
      else round.counted bounds
    | some 0 => []
    | some high =>
      if greedy && (high == 1 || (size + 1) * high ≤ maxExpansion) then
        code.copies low ++ code.optional (high - low)
      else if !greedy && high == 1 && low == 0 then code.rather
      else round.counted bounds

/-- The code of a repeat that takes as many rounds as there are, for good. -/
def keptRepeatCode (code : Code) (low : Nat) : Code :=
  code.copies low ++ code.keepingLoop

/-- The code that goes back to where the body of a look-behind can begin, matches the body and
checks that it ends where it should. -/
def behindCode (e : Extent) (body : Code) : Code :=
  if e.isFixed then .stepBack e.low :: body
  else .limitHere :: .stepBackFrom e.low (e.high.map (· - e.low)) :: body ++ [.atLimit]

/-- The code of a pattern. `next` is the element after it in the same list; `led` says that a repeat
around the pattern already looks at the first byte. -/
def code (f : PatternFacts) : Pattern → (next : Option Pattern) → (led : Bool) → Code
  | text codes _, _, _ => textRuns codes
  | char test, _, _ => [.char test]
  | anchor a, _, _ => [.anchor a]
  | sequence a b, _, _ => a.code f (some b) false ++ b.code f none false
  | either a b, _, _ => (a.code f none false).orElse (b.code f none false)
  | group n body, next, _ =>
    .openGroup n (f.isRevocable n) :: body.code f next false ++ [.closeGroup n (f.isRevocable n)]
  | enclosed body, _, _ => body.code f none false
  | repeated body low high greedy, next, led =>
    let byte := body.roundByte? f.groups greedy
    let inner := body.code f none byte.isSome
    if greedy && high == none && next.any (body.keepsRounds low ·) then keptRepeatCode inner low
    else
      repeatCode f body inner ⟨low, high, greedy⟩ (if led then none else byte)
        ((next.bind headByte?).filter (· != 0))
  | atomic (repeated body low high greedy), _, _ =>
    let byte := body.roundByte? f.groups greedy
    let inner := body.code f none byte.isSome
    if greedy && high == none && low ≤ 1 && body.isPlainText then keptRepeatCode inner low
    else (repeatCode f body inner ⟨low, high, greedy⟩ byte none).settle false
  | atomic body, _, _ => (body.code f none false).settle false
  | lookAhead negated body, _, _ =>
    let inner := body.code f none false
    if negated then inner.refuse else inner.settle true
  | lookBehind negated body, _, _ =>
    let e := body.extent f.groups
    let inner := behindCode e (body.code f none false)
    if negated then inner.refuse else inner.settle (!e.isFixed)
  | backreference groups i _, _, _ => [.backreference groups i]
  | never, _, _ => [.fail]

end Pattern

namespace Instruction

/-- Whether an instruction can leave a choice. -/
def leavesChoice : Instruction → Bool
  | takeRun _ _ | choice _ | choiceIf _ _ | choiceOrJump _ _ | stepBackFrom _ _
  | beginCount _ _ | countRound _ _ => true
  | _ => false

end Instruction

/-- A program with the number of the groups of its pattern and what its matches require. -/
structure Program where
  code : Array Instruction
  groups : Nat
  requirement : Requirement
  deriving DecidableEq, Repr, Inhabited

namespace Program

/-- The program of a pattern with a number of groups. Where there are no choices a search need not
know what the matches require, since it never goes back far. -/
def ofPattern (p : Pattern) (groups : Nat) : Except PatternError Program := do
  let resolved ← p.resolve
  let extents := p.groupExtents
  let code := resolved.code (.ofPattern resolved extents) none false
  let requirement :=
    if code.any (·.leavesChoice) then Requirement.ofPattern resolved extents else .none
  pure ⟨(code ++ [Instruction.accept]).toArray, groups, requirement⟩

end Program

end ScopeGrammar
