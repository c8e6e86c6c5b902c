import ScopeGrammar.Scope.Name

/-!
# Scope paths

The scopes that are in force at a place of a text, outermost first. A path holds at least the root
scope, so it has a root and an innermost scope without further conditions, and removing the
innermost scope is possible only above the root.
-/

namespace ScopeGrammar

/-- The scopes in force at a place: the root and what is nested in it, outermost first. -/
structure ScopePath where
  root : ScopeName
  nested : List ScopeName
  deriving DecidableEq, Repr, Inhabited

namespace ScopePath

/-- The path of a root alone. -/
def ofRoot (root : ScopeName) : ScopePath :=
  ⟨root, []⟩

/-- The path of some scopes, if there are any. -/
def ofList? : List ScopeName → Option ScopePath
  | [] => none
  | root :: nested => some ⟨root, nested⟩

/-- All scopes, outermost first. -/
def toList (p : ScopePath) : List ScopeName :=
  p.root :: p.nested

/-- The path with one more scope inside. -/
def push (p : ScopePath) (scope : ScopeName) : ScopePath :=
  ⟨p.root, p.nested ++ [scope]⟩

/-- The path with some more scopes inside. -/
def append (p : ScopePath) (scopes : List ScopeName) : ScopePath :=
  ⟨p.root, p.nested ++ scopes⟩

/-- Takes the innermost scope off, unless it is the root. -/
def pop? (p : ScopePath) : Option (ScopeName × ScopePath) :=
  match p.nested.getLast? with
  | none => none
  | some scope => some (scope, ⟨p.root, p.nested.dropLast⟩)

/-- The innermost scope. -/
def innermost (p : ScopePath) : ScopeName :=
  p.nested.getLast?.getD p.root

/-- The number of scopes. -/
def length (p : ScopePath) : Nat :=
  p.nested.length + 1

/-- The dotted forms, outermost first. -/
def dottedNames (p : ScopePath) : List String :=
  p.toList.map ScopeName.dotted

/-- The dotted forms with a space between them. -/
def dotted (p : ScopePath) : String :=
  " ".intercalate p.dottedNames

instance : ToString ScopePath := ⟨dotted⟩

/-- A description of the path that tells it from the text it is made of. -/
def describe (p : ScopePath) : String :=
  "ScopePath(" ++ p.dotted ++ ")"

@[simp] theorem toList_ofRoot (root : ScopeName) : (ofRoot root).toList = [root] := rfl

@[simp] theorem toList_push (p : ScopePath) (scope : ScopeName) :
    (p.push scope).toList = p.toList ++ [scope] := rfl

@[simp] theorem toList_append (p : ScopePath) (scopes : List ScopeName) :
    (p.append scopes).toList = p.toList ++ scopes := rfl

@[simp] theorem append_nil (p : ScopePath) : p.append [] = p := by
  simp [append]

@[simp] theorem append_append (p : ScopePath) (a b : List ScopeName) :
    (p.append a).append b = p.append (a ++ b) := by
  simp [append]

/-- Taking off what was just pushed gives it back. -/
theorem pop?_push (p : ScopePath) (scope : ScopeName) : (p.push scope).pop? = some (scope, p) := by
  simp [pop?, push]

end ScopePath

end ScopeGrammar
