import ScopeGrammar.Pattern.CaseVariants

/-!
# The extent of patterns

How many characters a pattern takes at least and at most. A back-reference takes what its group
takes, so that the extents of groups depend on each other; `groupExtents` goes over them until they
settle.
-/

namespace ScopeGrammar

/-- Least and, if there is one, greatest number of characters. `sure` says that the least number is
reached without regard to what surrounds the pattern or to what it captures. -/
structure Extent where
  low : Nat
  high : Option Nat
  sure : Bool
  deriving DecidableEq, Repr, Inhabited

namespace Extent

/-- Exactly `n` characters. -/
def exactly (n : Nat) : Extent := ⟨n, some n, true⟩

/-- The extent of a condition on the surroundings. -/
def condition : Extent := ⟨0, some 0, false⟩

/-- The extent of something unknown. -/
def unknown : Extent := ⟨0, none, false⟩

/-- Whether only one number of characters is possible. -/
def isFixed (e : Extent) : Bool :=
  e.high == some e.low

/-- One after the other. -/
def add (a b : Extent) : Extent :=
  ⟨a.low + b.low, a.high.bind fun h ↦ b.high.map (h + ·), a.sure && b.sure⟩

/-- One or else the other. The smaller least number counts. -/
def merge (a b : Extent) : Extent where
  low := min a.low b.low
  high := a.high.bind fun h ↦ b.high.map (max h ·)
  sure :=
    if b.low < a.low then b.sure else if a.low < b.low then a.sure else a.sure || b.sure

/-- Some number of times. -/
def times (e : Extent) (low : Nat) (high : Option Nat) : Extent :=
  if high = some 0 then exactly 0
  else
    { e with
      low := e.low * low
      high := high.bind fun n ↦ e.high.map (· * n) }

end Extent

namespace Pattern

/-- The extent of a text regardless of case, which can fold to fewer characters or more. -/
def foldedExtent (codes : List Nat) : Extent :=
  (expandCodes codes).foldl (fun e p ↦ e.add (ofVariants p)) (Extent.exactly 0)
where
  /-- The extent of a choice of texts. -/
  ofVariants : Pattern → Extent
    | either a b => (ofVariants a).merge (ofVariants b)
    | text codes _ => Extent.exactly codes.length
    | _ => Extent.exactly 1

/-- The extent of a pattern, given those of the groups. A reference to a group that is still open
finds nothing yet. -/
def extent (groups : Nat → Extent) : Pattern → Extent
  | text codes false => .exactly codes.length
  | text codes true => foldedExtent codes
  | char _ => .exactly 1
  | anchor _ | lookAhead _ _ | lookBehind _ _ => .condition
  | sequence a b => (a.extent groups).add (b.extent groups)
  | either a b => (a.extent groups).merge (b.extent groups)
  | group _ body => { body.extent groups with sure := false }
  | enclosed body | atomic body => body.extent groups
  | repeated body low high _ => (body.extent groups).times low high
  | backreference _ _ true => .condition
  | backreference refs _ false =>
    match refs.map groups with
    | [] => .unknown
    | e :: es => { es.foldl Extent.merge e with sure := false }
  | never => .exactly 0

/-- Whether the extent of a pattern depends on a text regardless of case. -/
def hasFoldedExtent : Pattern → Bool
  | text _ ignoreCase => ignoreCase
  | char _ | anchor _ | lookAhead _ _ | lookBehind _ _ | backreference _ _ _ | never => false
  | sequence a b | either a b => a.hasFoldedExtent || b.hasFoldedExtent
  | group _ body | enclosed body | atomic body => body.hasFoldedExtent
  | repeated body _ high _ => high != some 0 && body.hasFoldedExtent

/-- The groups on whose extents the extent of a pattern depends. -/
def extentReferences : Pattern → List Nat
  | text _ _ | char _ | anchor _ | lookAhead _ _ | lookBehind _ _ | backreference _ _ true
  | never => []
  | sequence a b | either a b => a.extentReferences ++ b.extentReferences
  | group _ body | enclosed body | atomic body => body.extentReferences
  | repeated body _ high _ => if high = some 0 then [] else body.extentReferences
  | backreference groups _ false => groups

/-- The groups that some groups lead to by their references; the fuel bounds the number of steps. -/
def reachedGroups (bodies : List (Nat × Pattern)) : Nat → List Nat → List Nat
  | 0, groups => groups
  | fuel + 1, groups =>
    let more := groups.flatMap fun n ↦ ((bodies.lookup n).map extentReferences).getD []
    let groups' := (groups ++ more).eraseDups
    if groups'.length = groups.length then groups else reachedGroups bodies fuel groups'

/-- The extent of a group in a table. -/
def lookupExtent (table : List (Nat × Extent)) (n : Nat) : Extent :=
  (table.lookup n).getD .unknown

/-- Goes over the bodies of groups with the extents found so far, until nothing changes any more or
the fuel is used up. -/
def settleExtents (bodies : List (Nat × Pattern)) :
    Nat → List (Nat × Extent) → List (Nat × Extent)
  | 0, table => table
  | fuel + 1, table =>
    let table' := bodies.map fun (n, body) ↦
      (n, { body.extent (lookupExtent table) with sure := false })
    if table' = table then table else settleExtents bodies fuel table'

/-- The extents of the groups of a pattern. Nobody asks for them if there are no references. -/
def groupExtents (p : Pattern) : Nat → Extent :=
  if p.references.isEmpty then fun _ ↦ .unknown
  else
    let bodies := p.groupBodies
    lookupExtent (settleExtents bodies (bodies.length + 1) (bodies.map fun (n, _) ↦ (n, .unknown)))

end Pattern

end ScopeGrammar
