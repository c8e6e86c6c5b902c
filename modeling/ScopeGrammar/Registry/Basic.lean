import ScopeGrammar.Error
import ScopeGrammar.Grammar.Basic
import ScopeGrammar.Registry.PatternCache

/-!
# Registries

A registry holds grammars, numbered in the order in which they were added. Of grammars of the same
scope name, or of the same name, the one added last is found; the others keep their numbers.
-/

namespace ScopeGrammar

/-- Grammars that can refer to each other. -/
structure Registry where
  grammars : Array Grammar := #[]
  /-- The grammar that includes of a scope name mean. -/
  byScopeName : Std.HashMap String GrammarId := {}
  /-- The grammar that users mean by a name. -/
  byName : Std.HashMap String GrammarId := {}
  /-- The scope names of grammars whose exported injection is meant for all others, in order. -/
  injectionScopes : List String := []
  /-- The filled-in patterns that all sessions share. -/
  patterns : PatternCache := {}
  deriving Inhabited

namespace Registry

/-- How many grammars a registry can hold. -/
def capacity : Nat := Nat.pow 2 16

/-- The grammar of an identifier. -/
def grammar (r : Registry) (id : GrammarId) : Except Fault Grammar :=
  match r.grammars[id]? with
  | some g => .ok g
  | none => .error .unknownGrammar

/-- Adds a grammar. -/
def add (r : Registry) (g : Grammar) : Except GrammarError (GrammarId × Registry) :=
  let id := r.grammars.size
  if id < capacity then
    .ok (id,
      { r with
        grammars := r.grammars.push g
        byScopeName := r.byScopeName.insert g.scopeName id
        byName := if g.name.isEmpty then r.byName else r.byName.insert g.name id })
  else .error .registryFull

/-- Makes the exported injection of the grammars of a scope name apply to all others. -/
def addInjectionScope (r : Registry) (scopeName : String) : Registry :=
  if scopeName ∈ r.injectionScopes then r
  else { r with injectionScopes := r.injectionScopes ++ [scopeName] }

/-- The grammar of a scope name. -/
def idByScopeName? (r : Registry) (scopeName : String) : Option GrammarId :=
  r.byScopeName[scopeName]?

/-- The grammar of a name, or else of a scope name. -/
def id? (r : Registry) (name : String) : Option GrammarId :=
  r.byName[name]? <|> r.idByScopeName? name

/-- Whether a name or scope name is that of a grammar. -/
def contains (r : Registry) (name : String) : Bool :=
  (r.id? name).isSome

/-- The rule that a reference means. -/
def rule (r : Registry) (ref : RuleRef) : Except Fault Rule := do
  (← r.grammar ref.grammar).rule ref.rule

/-- A description of a rule in one line. -/
def describe (r : Registry) (ref : RuleRef) : Except Fault String := do
  (← r.grammar ref.grammar).describe ref.rule

/-- The number of rules of all grammars. -/
def ruleCount (r : Registry) : Nat :=
  r.grammars.foldl (fun n g ↦ n + g.rules.size) 0

end Registry

end ScopeGrammar
