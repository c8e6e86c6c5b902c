/-!
# Byte spans

Positions in a text count its bytes in UTF-8. A `Span` runs from a start to a stop position, the
stop excluded; `slice?` cuts it out of a text and refuses spans that leave the text, run backwards
or begin or end inside a character.
-/

namespace ScopeGrammar

/-- A range of byte positions. -/
structure Span where
  start : Nat
  stop : Nat
  deriving DecidableEq, Repr, Inhabited

namespace Span

/-- A span is empty when it holds no byte; a backward span counts as empty. -/
def isEmpty (s : Span) : Bool :=
  s.stop ≤ s.start

/-- Number of bytes in the span. -/
def length (s : Span) : Nat :=
  s.stop - s.start

/-- Whether `t` lies in `s`, ends included. -/
def encloses (s t : Span) : Bool :=
  s.start ≤ t.start && t.stop ≤ s.stop

@[simp] theorem isEmpty_eq_true {s : Span} : s.isEmpty = true ↔ s.stop ≤ s.start := by
  simp [isEmpty]

@[simp] theorem isEmpty_eq_false {s : Span} : s.isEmpty = false ↔ s.start < s.stop := by
  simp [isEmpty]

@[simp] theorem encloses_eq_true {s t : Span} :
    s.encloses t = true ↔ s.start ≤ t.start ∧ t.stop ≤ s.stop := by
  simp [encloses]

end Span

/-- The number of bytes of a text. -/
def byteLength : List Char → Nat
  | [] => 0
  | c :: cs => c.utf8Size + byteLength cs

@[simp] theorem byteLength_nil : byteLength [] = 0 := rfl

@[simp] theorem byteLength_cons (c : Char) (cs : List Char) :
    byteLength (c :: cs) = c.utf8Size + byteLength cs := rfl

@[simp] theorem byteLength_append (cs ds : List Char) :
    byteLength (cs ++ ds) = byteLength cs + byteLength ds := by
  induction cs with
  | nil => simp
  | cons c cs ih => simp [ih, Nat.add_assoc]

/-- The text from a byte position on, if a character begins there or the text ends there. -/
def dropBytes? : List Char → Nat → Option (List Char)
  | cs, 0 => some cs
  | [], _ + 1 => none
  | c :: cs, n + 1 => if c.utf8Size ≤ n + 1 then dropBytes? cs (n + 1 - c.utf8Size) else none

/-- The text up to a byte position, if a character begins there or the text ends there. -/
def takeBytes? : List Char → Nat → Option (List Char)
  | _, 0 => some []
  | [], _ + 1 => none
  | c :: cs, n + 1 =>
    if c.utf8Size ≤ n + 1 then (takeBytes? cs (n + 1 - c.utf8Size)).map (c :: ·) else none

/-- The characters of a span of a text. -/
def slice? (cs : List Char) (s : Span) : Option (List Char) :=
  if s.start ≤ s.stop then
    (dropBytes? cs s.start).bind fun rest ↦ takeBytes? rest (s.stop - s.start)
  else none

/-- Whether a byte position is the start of a character or the end of the text. -/
def IsBoundary (cs : List Char) (n : Nat) : Prop :=
  (dropBytes? cs n).isSome

instance (cs : List Char) (n : Nat) : Decidable (IsBoundary cs n) :=
  inferInstanceAs (Decidable ((dropBytes? cs n).isSome = true))

/-- The text after a prefix begins where the prefix ends. -/
theorem dropBytes?_byteLength (cs ds : List Char) :
    dropBytes? (cs ++ ds) (byteLength cs) = some ds := by
  induction cs with
  | nil => cases ds <;> rfl
  | cons c cs ih =>
    have hc := c.utf8Size_pos
    obtain ⟨m, hm⟩ : ∃ m, c.utf8Size + byteLength cs = m + 1 := ⟨_, (Nat.succ_pred (by omega)).symm⟩
    have hle : c.utf8Size ≤ m + 1 := by omega
    have hsub : m + 1 - c.utf8Size = byteLength cs := by omega
    simp [hm, dropBytes?, hle, hsub, ih]

/-- The text up to where a prefix ends is the prefix. -/
theorem takeBytes?_byteLength (cs ds : List Char) :
    takeBytes? (cs ++ ds) (byteLength cs) = some cs := by
  induction cs with
  | nil => cases ds <;> rfl
  | cons c cs ih =>
    have hc := c.utf8Size_pos
    obtain ⟨m, hm⟩ : ∃ m, c.utf8Size + byteLength cs = m + 1 := ⟨_, (Nat.succ_pred (by omega)).symm⟩
    have hle : c.utf8Size ≤ m + 1 := by omega
    have hsub : m + 1 - c.utf8Size = byteLength cs := by omega
    simp [hm, takeBytes?, hle, hsub, ih]

/-- The middle of a text is the slice between the ends of its neighbours. -/
theorem slice?_append (before middle after : List Char) :
    slice? (before ++ (middle ++ after))
      ⟨byteLength before, byteLength before + byteLength middle⟩ = some middle := by
  simp [slice?, dropBytes?_byteLength, takeBytes?_byteLength]

end ScopeGrammar
