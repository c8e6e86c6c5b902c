/-!
# Grammar definitions

A grammar as its file has it, before it is compiled. All keys of a rule are optional; which kind of
rule it is depends on those that are there.
-/

namespace ScopeGrammar

/-- A rule as it is written. -/
structure RuleDefinition where
  /-- The target of an include. -/
  target : Option String := none
  /-- The scopes of the whole match or region. -/
  name : Option String := none
  /-- The scopes of what lies between the two ends of a region. -/
  contentName : Option String := none
  /-- The pattern of a rule that matches at one stroke. -/
  matchPattern : Option String := none
  /-- The pattern that begins a region. -/
  beginPattern : Option String := none
  /-- The pattern that ends a region. -/
  endPattern : Option String := none
  /-- The pattern that a line has to match for a region to go on in it. -/
  whilePattern : Option String := none
  /-- What is done with the captures of the patterns that have no such key of their own. -/
  captures : Option (List (String × RuleDefinition)) := none
  beginCaptures : Option (List (String × RuleDefinition)) := none
  endCaptures : Option (List (String × RuleDefinition)) := none
  whileCaptures : Option (List (String × RuleDefinition)) := none
  /-- Whether the end pattern gives way to the rules of the region. -/
  endLast : Bool := false
  patterns : List RuleDefinition := []
  /-- Named rules, in the order of their names. -/
  repository : List (String × RuleDefinition) := []
  disabled : Bool := false
  deriving Inhabited

/-- A grammar as it is written. -/
structure GrammarDefinition where
  name : String := ""
  scopeName : String := ""
  patterns : List RuleDefinition := []
  /-- Named rules, in the order of their names. -/
  repository : List (String × RuleDefinition) := []
  /-- Rules for where a selector holds, in the order of the selectors. -/
  injections : List (String × RuleDefinition) := []
  /-- Where the grammar asks to be injected into other grammars. -/
  injectionSelector : Option String := none
  /-- The scope names of those grammars. -/
  injectTo : List String := []
  deriving Inhabited

end ScopeGrammar
