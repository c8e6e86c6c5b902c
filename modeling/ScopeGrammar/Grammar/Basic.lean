import ScopeGrammar.Fault
import ScopeGrammar.Grammar.Rule
import ScopeGrammar.Pattern.Regex
import ScopeGrammar.Selector.Expression

/-!
# Grammars

A compiled grammar: its rules and patterns, and the injections it declares. Names of rules are
looked up in the repository of a rule and of those that hold it, from the inside out.
-/

namespace ScopeGrammar

/-- A rule that joins in wherever a selector holds. -/
structure Injection where
  selector : ScopeSelector
  rule : RuleId
  deriving DecidableEq, Repr

/-- A compiled grammar. -/
structure Grammar where
  name : String
  scopeName : String
  /-- The scope that all text of the grammar has. -/
  scope : ScopeName
  rules : Array Rule
  regexes : Array Regex
  /-- The injections into documents of this grammar. -/
  injections : List Injection
  /-- The injection of this grammar into documents of others. -/
  exported : Option Injection
  /-- The scope names of the grammars for which that injection is meant. -/
  injectTo : List String
  deriving Inhabited

namespace Grammar

/-- The rule of an identifier. -/
def rule (g : Grammar) (id : RuleId) : Except Fault Rule :=
  match g.rules[id]? with
  | some r => .ok r
  | none => .error .unknownRule

/-- The pattern of an identifier. -/
def regex (g : Grammar) (id : RegexId) : Except Fault Regex :=
  match g.regexes[id]? with
  | some r => .ok r
  | none => .error .unknownRegex

/-- The rule that a name stands for inside a rule: the entry of the innermost repository that has
the name. A rule is held by one of a smaller index, which bounds the search. -/
def lookup (g : Grammar) (inside : RuleId) (name : String) : Except Fault (Option RuleId) := do
  let r ← g.rule inside
  match r.repository.lookup name with
  | some id => pure (some id)
  | none =>
    match r.parent with
    | none => pure none
    | some parent => if parent < inside then g.lookup parent name else pure none
termination_by inside

/-- A text of which no more than some characters are shown. -/
def shortened (limit : Nat) (text : String) : String :=
  match text.toList.drop limit with
  | [] => text
  | _ => String.ofList (text.toList.take limit) ++ "..."

/-- A pattern as descriptions show it. -/
def describePattern (g : Grammar) (kind : String) (id : RegexId) : Except Fault String := do
  let r ← g.regex id
  pure (" " ++ kind ++ " /" ++ shortened 40 r.pattern ++ "/ at " ++ r.location)

/-- What a kind of rule says of itself. -/
def describeBody (g : Grammar) : RuleBody → Except Fault String
  | .single r => g.describePattern "match" r.regex
  | .region r =>
    match r.kind with
    | .beginEnd => g.describePattern "begin-end" r.begin
    | .beginWhile => g.describePattern "begin-while" r.begin
  | .includes target => pure (" include " ++ target.source)
  | .group r => pure (" group of " ++ toString r.patterns.length ++ " patterns")

/-- A description of a rule in one line. -/
def describe (g : Grammar) (id : RuleId) : Except Fault String := do
  let r ← g.rule id
  let name := (r.name?.map (·.source)).getD "--"
  let body ← g.describeBody r.body
  pure ("[" ++ name ++ "]" ++ body ++ if r.disabled then " (disabled)" else "")

end Grammar

end ScopeGrammar
