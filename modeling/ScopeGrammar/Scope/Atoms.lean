import Std.Data.HashMap
import ScopeGrammar.Scope.Name

/-!
# Atoms

Scope names are many and their segments are few, so that segments can be numbered. A table gives a
segment the next free number when it is first seen, its atom, and never takes one back. A name is
then a row of atoms, and names are compared by their atoms, without a look at the segments.
-/

namespace ScopeGrammar

/-- The segments that have an atom, in the order of their atoms, and the atom of each. -/
structure AtomTable where
  segments : Array String := #[]
  atoms : Std.HashMap String UInt32 := {}
  deriving Inhabited

namespace AtomTable

/-- The atom that the next new segment gets. -/
def nextAtom (t : AtomTable) : UInt32 :=
  .ofNat t.segments.size

/-- The table with one more segment. -/
def add (t : AtomTable) (segment : String) : AtomTable :=
  ⟨t.segments.push segment, t.atoms.insert segment t.nextAtom⟩

end AtomTable

/-- The conditions that a table of atoms can find broken. -/
inductive AtomFault where
  /-- All atoms have been given. -/
  | tableFull
  /-- An atom has not been given to a segment. -/
  | unknownAtom
  deriving DecidableEq, Repr

/-- A computation with a table of atoms. What it added before a fault stays in the table. -/
abbrev Interning := EStateM AtomFault AtomTable

/-- A scope name made of atoms. -/
@[ext]
structure InternedName where
  atoms : List UInt32
  deriving DecidableEq, Repr

namespace InternedName

/-- Whether the atoms of `n` begin the atoms of `m`. -/
def covers (n m : InternedName) : Bool :=
  n.atoms.isPrefixOf m.atoms

end InternedName

namespace Interning

/-- The atom of a segment, a new one if it has none. -/
def atom (segment : String) : Interning UInt32 := do
  let t ← get
  match t.atoms[segment]? with
  | some a => pure a
  | none =>
    if t.segments.size < UInt32.size then
      set (t.add segment)
      pure t.nextAtom
    else throw .tableFull

/-- The segment of an atom. -/
def segment (atom : UInt32) : Interning String := do
  match (← get).segments[atom.toNat]? with
  | some s => pure s
  | none => throw .unknownAtom

/-- The name that is written in a text. -/
def name (text : String) : Interning InternedName :=
  InternedName.mk <$> (ScopeName.ofString text).segments.mapM atom

/-- The name with some segments. -/
def intern (n : ScopeName) : Interning InternedName :=
  InternedName.mk <$> n.segments.mapM atom

/-- Names with some segments, one after the other. -/
def internAll (ns : List ScopeName) : Interning (List InternedName) :=
  ns.mapM intern

/-- The name with its segments. -/
def resolve (n : InternedName) : Interning ScopeName :=
  ScopeName.mk <$> n.atoms.mapM segment

end Interning

end ScopeGrammar
