import ScopeGrammar.Scope.Name
import ScopeGrammar.Selector.Token

/-!
# Meaning of scope selectors

A selector is a list of terms, each with a precedence. A term is a condition on a list of scopes,
outermost first: the basic condition asks for some names, each a prefix of a scope, in order but
not necessarily next to each other, and conditions are combined by "and", "or" and "not". The first
term that holds decides the precedence.
-/

namespace ScopeGrammar

/-- A condition on a list of scopes. -/
inductive ScopeCondition where
  | path (names : List ScopeName)
  | both (a b : ScopeCondition)
  | either (a b : ScopeCondition)
  | not (a : ScopeCondition)
  deriving DecidableEq, Repr

namespace ScopeCondition

/-- Whether some names cover scopes of a list in order. Every name takes the first scope that it
covers after the one of the name before it. -/
def pathHolds : List ScopeName → List ScopeName → Bool
  | [], _ => true
  | _ :: _, [] => false
  | n :: ns, s :: scopes => if n.covers s then pathHolds ns scopes else pathHolds (n :: ns) scopes

/-- Whether the condition holds of a list of scopes. -/
def holds : ScopeCondition → List ScopeName → Bool
  | path names, scopes => pathHolds names scopes
  | both a b, scopes => a.holds scopes && b.holds scopes
  | either a b, scopes => a.holds scopes || b.holds scopes
  | not a, scopes => !a.holds scopes

end ScopeCondition

/-- A term of a selector. -/
structure SelectorTerm where
  precedence : Precedence
  condition : ScopeCondition
  deriving DecidableEq, Repr

/-- A selector: its text and its terms. -/
structure ScopeSelector where
  source : String
  terms : List SelectorTerm
  deriving DecidableEq, Repr

namespace ScopeSelector

/-- The precedence of the first term that holds of a list of scopes, if one does. -/
def precedence? (s : ScopeSelector) (scopes : List ScopeName) : Option Precedence :=
  (s.terms.find? fun t ↦ t.condition.holds scopes).map (·.precedence)

end ScopeSelector

end ScopeGrammar
