/-!
# Tables of characters

Character properties are kept as sorted lists of code point ranges, and one-to-one character maps
as sorted lists of runs. Both are written as text, in hexadecimal: `"41-5A 61-7A"` holds the ASCII
letters, and `"61-7A/1>41"` maps `61`, `62`, … to `41`, `42`, …, every step of the given stride.
A look-up is a binary search.
-/

namespace ScopeGrammar

/-- The value of a hexadecimal digit. -/
def hexDigitValue? (c : Char) : Option Nat :=
  if '0' ≤ c ∧ c ≤ '9' then some (c.toNat - 48)
  else if 'a' ≤ c ∧ c ≤ 'f' then some (c.toNat - 87)
  else if 'A' ≤ c ∧ c ≤ 'F' then some (c.toNat - 55)
  else none

/-- The hexadecimal numbers in a text, in order, whatever stands between them. -/
def hexNumbers (text : String) : List Nat :=
  go text.toList none
where
  /-- Reads on with the number read so far, if a number has begun. -/
  go : List Char → Option Nat → List Nat
    | [], none => []
    | [], some n => [n]
    | c :: cs, n? =>
      match hexDigitValue? c, n? with
      | some d, n? => go cs (some (n?.getD 0 * 16 + d))
      | none, some n => n :: go cs none
      | none, none => go cs none

/-- A set of characters as sorted, disjoint ranges of code points, both ends included. -/
structure RangeTable where
  ranges : Array (Nat × Nat)
  deriving DecidableEq, Repr, Inhabited

namespace RangeTable

/-- The table without characters. -/
def empty : RangeTable := ⟨#[]⟩

/-- Pairs up the numbers of a list. -/
def pairs : List Nat → List (Nat × Nat)
  | a :: b :: rest => (a, b) :: pairs rest
  | _ => []

/-- The table written as a text of `low-high` ranges in ascending order. -/
def ofText (text : String) : RangeTable :=
  ⟨(pairs (hexNumbers text)).toArray⟩

/-- Joins overlapping and neighbouring ranges of a list sorted by the low end. `cur` is the range
that is still growing. -/
def coalesce (cur : Nat × Nat) : List (Nat × Nat) → List (Nat × Nat)
  | [] => [cur]
  | r :: rest =>
    if r.1 ≤ cur.2 + 1 then coalesce (cur.1, max cur.2 r.2) rest else cur :: coalesce r rest

/-- The union of several tables. -/
def unionAll (tables : List RangeTable) : RangeTable :=
  let all := tables.flatMap fun t ↦ t.ranges.toList
  match all.mergeSort fun r s ↦ r.1 ≤ s.1 with
  | [] => empty
  | r :: rest => ⟨(coalesce r rest).toArray⟩

/-- Whether a code point lies in one of the ranges with index in `[lo, hi)`. -/
def containsIn (t : RangeTable) (x lo hi : Nat) : Bool :=
  if lo < hi then
    let mid := (lo + hi) / 2
    match t.ranges[mid]? with
    | none => false
    | some (a, b) =>
      if x < a then t.containsIn x lo mid
      else if b < x then t.containsIn x (mid + 1) hi
      else true
  else false
termination_by hi - lo

/-- Whether a character is in the table. -/
def contains (t : RangeTable) (c : Char) : Bool :=
  t.containsIn c.toNat 0 t.ranges.size

end RangeTable

/-- A run of a character map: `low`, `low + stride`, …, `high` go to `target`, `target + stride`, …
in the same order. -/
structure CharRun where
  low : Nat
  high : Nat
  stride : Nat
  target : Nat
  deriving Repr, Inhabited

/-- A one-to-one map of characters that leaves every character outside its runs alone. -/
structure CharMap where
  runs : Array CharRun
  deriving Repr, Inhabited

namespace CharMap

/-- Groups the numbers of a list into runs. -/
def runsOf : List Nat → List CharRun
  | a :: b :: s :: t :: rest => ⟨a, b, s, t⟩ :: runsOf rest
  | _ => []

/-- The map written as a text of `low-high/stride>target` runs in ascending order. -/
def ofText (text : String) : CharMap :=
  ⟨(runsOf (hexNumbers text)).toArray⟩

/-- The run with index in `[lo, hi)` whose span holds a code point. -/
def runIn (m : CharMap) (x lo hi : Nat) : Option CharRun :=
  if lo < hi then
    let mid := (lo + hi) / 2
    match m.runs[mid]? with
    | none => none
    | some r =>
      if x < r.low then m.runIn x lo mid
      else if r.high < x then m.runIn x (mid + 1) hi
      else some r
  else none
termination_by hi - lo

/-- The image of a code point. -/
def applyNat (m : CharMap) (x : Nat) : Nat :=
  match m.runIn x 0 m.runs.size with
  | some r => if (x - r.low) % r.stride = 0 then r.target + (x - r.low) else x
  | none => x

/-- The image of a character. -/
def apply (m : CharMap) (c : Char) : Char :=
  Char.ofNat (m.applyNat c.toNat)

/-- The code points that a run sends to `y`. -/
def CharRun.preimage (r : CharRun) (y : Nat) : List Nat :=
  let x := r.low + (y - r.target)
  if r.target ≤ y ∧ x ≤ r.high ∧ (x - r.low) % r.stride = 0 then [x] else []

/-- The code points that the runs of a map send to `y`; `y` itself is not listed. -/
def preimages (m : CharMap) (y : Nat) : List Nat :=
  m.runs.toList.flatMap fun r ↦ CharRun.preimage r y

end CharMap

/-- Groups the numbers of a text into a character and its three-place form. -/
def longForms (text : String) : List (Nat × List Nat) :=
  go (hexNumbers text)
where
  /-- Takes four numbers at a time. -/
  go : List Nat → List (Nat × List Nat)
    | c :: a :: b :: d :: rest => (c, [a, b, d].filter (· ≠ 0)) :: go rest
    | _ => []

end ScopeGrammar
