/-!
# Include targets

An `include` names the rules that take its place: those of the grammar itself, of the grammar that
a document is tokenized with, of an entry of a repository, or of another grammar.
-/

namespace ScopeGrammar

/-- What an include points to. -/
inductive IncludeTarget where
  /-- The root of the grammar that has the include. -/
  | self
  /-- The root of the grammar that the document is tokenized with. -/
  | base
  /-- An entry of the nearest repository that has it. -/
  | entry (name : String)
  /-- Another grammar, or an entry of its repository. -/
  | grammar (scopeName : String) (name : Option String)
  /-- Nothing that can be understood. -/
  | unknown (text : String)
  deriving DecidableEq, Repr

namespace IncludeTarget

/-- Reads the characters of a target. -/
def ofChars (cs : List Char) : IncludeTarget :=
  if cs = "$self".toList then self
  else if cs = "$base".toList then base
  else
    let scope := cs.takeWhile (· != '#')
    match scope, cs.dropWhile (· != '#') with
    | [], [] => unknown ""
    | [], ['#'] => unknown "#"
    | [], _ :: name => entry (String.ofList name)
    | scope, [] => grammar (String.ofList scope) none
    | _, ['#'] => unknown (String.ofList cs)
    | scope, _ :: name => grammar (String.ofList scope) (some (String.ofList name))

/-- Reads a target. -/
def ofString (text : String) : IncludeTarget :=
  ofChars text.toList

/-- The target as it is written. -/
def source : IncludeTarget → String
  | self => "$self"
  | base => "$base"
  | entry name => "#" ++ name
  | grammar scopeName none => scopeName
  | grammar scopeName (some name) => scopeName ++ "#" ++ name
  | unknown text => text

instance : ToString IncludeTarget := ⟨source⟩

end IncludeTarget

end ScopeGrammar
