import ScopeGrammar.Capture.Match

/-!
# Capture trees

The capture groups of a match that carry a label, arranged by how their spans nest. Captures
are taken in the order of their start, wider ones first, then by index; each becomes a child of the
innermost capture still open that encloses it. Groups that took no part and empty groups are left
out.
-/

namespace ScopeGrammar

/-- A capture, its label, and the captures nested in it. -/
structure CaptureTree (α : Type) where
  index : Nat
  span : Span
  label : α
  children : List (CaptureTree α)

namespace CaptureTree

variable {α : Type}

/-- The tree with one more child after the others. -/
def addChild (parent child : CaptureTree α) : CaptureTree α :=
  { parent with children := parent.children ++ [child] }

/-- Closes open captures until the innermost one left satisfies `keep`. `opened` lists the open
captures, innermost first, and a closed capture goes to the one around it or to the roots. -/
def settle (keep : CaptureTree α → Bool) (opened roots : List (CaptureTree α)) :
    List (CaptureTree α) × List (CaptureTree α) :=
  match opened with
  | [] => ([], roots)
  | [t] => if keep t then ([t], roots) else ([], roots ++ [t])
  | t :: parent :: rest =>
    if keep t then (t :: parent :: rest, roots)
    else settle keep (parent.addChild t :: rest) roots
termination_by opened.length

/-- Opens a capture after closing those that do not enclose it. -/
def insert (state : List (CaptureTree α) × List (CaptureTree α)) (item : Nat × Span × α) :
    List (CaptureTree α) × List (CaptureTree α) :=
  let (opened, roots) := settle (fun t ↦ t.span.encloses item.2.1) state.1 state.2
  (⟨item.1, item.2.1, item.2.2, []⟩ :: opened, roots)

/-- The order in which captures are placed: by start, wider first, then by index. -/
def itemLE (a b : Nat × Span × α) : Bool :=
  a.2.1.start < b.2.1.start ||
    (a.2.1.start == b.2.1.start &&
      (b.2.1.stop < a.2.1.stop || (a.2.1.stop == b.2.1.stop && a.1 ≤ b.1)))

/-- The captures of a match that have a label and hold some text. -/
def items (m : Match) (labels : List (Nat × α)) : List (Nat × Span × α) :=
  labels.filterMap fun (i, a) ↦
    match m.group? i with
    | some s => if s.isEmpty then none else some (i, s, a)
    | none => none

/-- The forest of the captures of a match that have a label. -/
def forest (m : Match) (labels : List (Nat × α)) : List (CaptureTree α) :=
  let (opened, roots) := ((items m labels).mergeSort itemLE).foldl insert ([], [])
  (settle (fun _ ↦ false) opened roots).2

end CaptureTree

end ScopeGrammar
