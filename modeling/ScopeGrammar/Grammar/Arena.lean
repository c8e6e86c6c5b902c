import ScopeGrammar.Error
import ScopeGrammar.Event
import ScopeGrammar.Grammar.Basic

/-!
# The arena of a grammar

While a grammar is compiled, its rules and patterns are collected in an arena, where each gets the
next index as its identifier, as long as there are any left. A rule takes its identifier before the
rules that it holds, which refer to it.
-/

namespace ScopeGrammar

/-- The number of identifiers for rules, and that of identifiers for patterns. -/
def arenaBound : Nat := Nat.pow 2 32

/-- The rules and patterns compiled so far, and what happened meanwhile. -/
structure Arena where
  rules : Array Rule := #[]
  regexes : Array Regex := #[]
  log : Array Event := #[]
  deriving Inhabited

/-- A computation on an arena; the arena stays as it was left when the computation fails. -/
abbrev Loading := EStateM Failure Arena

namespace Loading

/-- Ends with an error. -/
def refuse {α : Type} (e : GrammarError) : Loading α :=
  throw (.error e)

/-- Logs an event. -/
def log (e : Event) : Loading Unit :=
  modify fun a ↦ { a with log := a.log.push e }

/-- The identifier that comes after the first `size` ones, for a rule or pattern at a place. -/
def nextIndex (size : Nat) (location kind : String) : Loading Nat :=
  if size < arenaBound then pure size else refuse (.arenaFull location kind)

/-- Takes the next identifier for a rule. -/
def reserve (parent : Option RuleId) (disabled : Bool) (location : String) : Loading RuleId := do
  let id ← nextIndex (← get).rules.size location "rules"
  modify fun a ↦ { a with rules := a.rules.push ⟨id, parent, disabled, .group ⟨[], []⟩⟩ }
  pure id

/-- Puts a rule in the place that was taken for it. -/
def define (id : RuleId) (parent : Option RuleId) (disabled : Bool) (body : RuleBody) :
    Loading Unit := do
  if id < (← get).rules.size then
    modify fun a ↦ { a with rules := a.rules.setIfInBounds id ⟨id, parent, disabled, body⟩ }
  else throw (.fault .unknownRule)

/-- Adds a pattern, which has to compile. -/
def addRegex (E : Engine) (pattern location : String) : Loading RegexId := do
  let id ← nextIndex (← get).regexes.size location "patterns"
  let r := Regex.ofPattern pattern location
  match r.validate E with
  | .error e => refuse (.regex e)
  | .ok () =>
    modify fun a ↦ { a with regexes := a.regexes.push r }
    pure id

/-- Adds an end or while pattern. One that refers to captures of the begin pattern is checked with
other text in their place, since it only compiles once they are known. -/
def addExitRegex (E : Engine) (pattern location : String) : Loading (RegexId × Bool) := do
  let id ← nextIndex (← get).regexes.size location "patterns"
  let r := Regex.ofPattern pattern location
  match if r.hasReferences then r.validateTemplate E else r.validate E with
  | .error e => refuse (.regex e)
  | .ok () =>
    modify fun a ↦ { a with regexes := a.regexes.push r }
    pure (id, r.hasReferences)

/-- Adds a group of rules, whose repository and rules are added next, in this order. -/
def addGroup (parent : Option RuleId) (disabled : Bool) (location : String)
    (repository : RuleId → Loading Repository) (patterns : RuleId → Loading (List RuleId)) :
    Loading RuleId := do
  let id ← reserve parent disabled location
  let repository ← repository id
  let patterns ← patterns id
  define id parent disabled (.group ⟨patterns, repository⟩)
  pure id

end Loading

end ScopeGrammar
