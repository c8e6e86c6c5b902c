import ScopeGrammar.Grammar.Include
import ScopeGrammar.Scope.Template

/-!
# Rules

The rules of a compiled grammar. They lie in one array and refer to each other, and to the patterns
of the grammar, by index: downwards to the rules they hold, and upwards to the rule that holds them.
-/

namespace ScopeGrammar

/-- The index of a rule in its grammar. -/
abbrev RuleId := Nat

/-- The index of a pattern in its grammar. -/
abbrev RegexId := Nat

/-- The index of a grammar in a registry. -/
abbrev GrammarId := Nat

/-- The root of every grammar is its first rule. -/
def rootRule : RuleId := 0

/-- A rule of some grammar of a registry. -/
structure RuleRef where
  grammar : GrammarId
  rule : RuleId
  deriving DecidableEq, Hashable, Repr, Inhabited

/-- The root of a grammar. -/
def RuleRef.root (grammar : GrammarId) : RuleRef :=
  ⟨grammar, rootRule⟩

/-! ### Captures -/

/-- What is done with the text of a capture group. -/
structure CaptureRule where
  name : Option ScopeTemplate
  /-- The group of rules that tokenize the captured text. -/
  patterns : Option RuleId
  deriving DecidableEq, Repr

/-- What is done with capture groups, by index. -/
structure Captures where
  /-- The groups that something is done with, in the order of their indices. -/
  entries : List (Nat × CaptureRule) := []
  deriving DecidableEq, Repr, Inhabited

namespace Captures

/-- Whether nothing is done with any group. -/
def isEmpty (c : Captures) : Bool :=
  c.entries.isEmpty

/-- Whether the text of some group is tokenized by rules. -/
def hasPatterns (c : Captures) : Bool :=
  c.entries.any fun e ↦ e.2.patterns.isSome

/-- Entries with one more, which replaces an entry of the same index. -/
def insertEntry (index : Nat) (r : CaptureRule) :
    List (Nat × CaptureRule) → List (Nat × CaptureRule)
  | [] => [(index, r)]
  | (i, s) :: rest =>
    if index < i then (index, r) :: (i, s) :: rest
    else if index = i then (index, r) :: rest
    else (i, s) :: insertEntry index r rest

/-- Says what is done with a group. -/
def insert (c : Captures) (index : Nat) (r : CaptureRule) : Captures :=
  ⟨insertEntry index r c.entries⟩

end Captures

/-! ### Rules -/

/-- Named rules, in the order of their names. -/
abbrev Repository := List (String × RuleId)

/-- A rule that matches at one stroke. -/
structure SingleRule where
  name : Option ScopeTemplate
  regex : RegexId
  captures : Captures
  deriving DecidableEq, Repr

/-- How a region comes to its end. -/
inductive RegionKind where
  /-- A pattern ends it. -/
  | beginEnd
  /-- It lasts while a pattern matches at the start of the lines. -/
  | beginWhile
  deriving DecidableEq, Repr

/-- A rule for a region that a pattern begins. -/
structure RegionRule where
  kind : RegionKind
  name : Option ScopeTemplate
  contentName : Option ScopeTemplate
  begin : RegexId
  beginCaptures : Captures
  /-- The end pattern or while pattern. -/
  exit : RegexId
  /-- Whether that pattern refers to captures of the begin pattern. -/
  exitHasReferences : Bool
  exitCaptures : Captures
  /-- Whether the end pattern gives way to the rules of the region. -/
  endLast : Bool
  patterns : List RuleId
  repository : Repository
  deriving DecidableEq, Repr

/-- Rules that are tried in order. -/
structure GroupRule where
  patterns : List RuleId
  repository : Repository
  deriving DecidableEq, Repr

/-- The kinds of rules. -/
inductive RuleBody where
  | single (r : SingleRule)
  | region (r : RegionRule)
  | includes (target : IncludeTarget)
  | group (r : GroupRule)
  deriving DecidableEq, Repr

/-- A rule. -/
structure Rule where
  id : RuleId
  /-- The rule that holds it. -/
  parent : Option RuleId
  /-- A disabled rule keeps its place but never matches. -/
  disabled : Bool
  body : RuleBody
  deriving DecidableEq, Repr

namespace Rule

/-- The rules that are searched while this one is active. -/
def patterns (r : Rule) : List RuleId :=
  match r.body with
  | .region r => r.patterns
  | .group r => r.patterns
  | .single _ | .includes _ => []

/-- The named rules of this one. -/
def repository (r : Rule) : Repository :=
  match r.body with
  | .region r => r.repository
  | .group r => r.repository
  | .single _ | .includes _ => []

/-- The pattern that the rule begins to match with. -/
def entry? (r : Rule) : Option RegexId :=
  match r.body with
  | .single r => some r.regex
  | .region r => some r.begin
  | .includes _ | .group _ => none

/-- The scopes of what the rule matches. -/
def name? (r : Rule) : Option ScopeTemplate :=
  match r.body with
  | .single r => r.name
  | .region r => r.name
  | .includes _ | .group _ => none

/-- The captures of the end or while pattern. -/
def exitCaptures? (r : Rule) : Option Captures :=
  match r.body with
  | .region r => some r.exitCaptures
  | .single _ | .includes _ | .group _ => none

end Rule

end ScopeGrammar
