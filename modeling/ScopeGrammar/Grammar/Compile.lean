import ScopeGrammar.Grammar.Arena
import ScopeGrammar.Grammar.Decode

/-!
# Compiling grammars

Turns a definition into a grammar. The kind of a rule is that of the first of these keys that it
has: an include, a match pattern, a begin pattern; a rule without any of them is a group. Everything
is compiled in a fixed order, which gives identifiers their values and decides which error is found
first: the patterns and captures of a rule, then its repository by name, then its rules. Every
pattern has to compile in the engine that is asked.
-/

namespace ScopeGrammar

/-- A place inside a place of a grammar. -/
def joinLocation (location inner : String) : String :=
  if location.isEmpty then inner else location ++ "." ++ inner

/-- The key of a rule that its end or while pattern is written under. -/
def RegionKind.exitKey : RegionKind → String
  | .beginEnd => "end"
  | .beginWhile => "while"

namespace Loading

/-- Adds an include. -/
def addInclude (parent : Option RuleId) (disabled : Bool) (location target : String) :
    Loading RuleId := do
  let id ← reserve parent disabled location
  define id parent disabled (.includes (.ofString target))
  pure id

/-- Adds a rule of a single pattern, whose captures are added next. -/
def addSingle (E : Engine) (parent : Option RuleId) (disabled : Bool) (location : String)
    (name : Option String) (matchPattern : String) (captures : RuleId → Loading Captures) :
    Loading RuleId := do
  let id ← reserve parent disabled location
  let regex ← addRegex E matchPattern (joinLocation location "match")
  let captures ← captures id
  define id parent disabled (.single ⟨name.map .ofString, regex, captures⟩)
  pure id

/-- The kind of a region, and its end or while pattern. A while pattern counts more than an end
pattern. -/
def regionExit (location : String) (endPattern whilePattern : Option String) :
    Loading (RegionKind × String) :=
  match whilePattern, endPattern with
  | some whilePattern, _ => pure (.beginWhile, whilePattern)
  | none, some endPattern => pure (.beginEnd, endPattern)
  | none, none => refuse (.endlessRegion location)

/-- Adds a region, whose captures, repository and rules are added in this order. -/
def addRegion (E : Engine) (parent : Option RuleId) (disabled : Bool) (location : String)
    (name contentName : Option String) (beginPattern : String)
    (endPattern whilePattern : Option String) (endLast : Bool)
    (beginCaptures : RuleId → Loading Captures)
    (exitCaptures : RegionKind → RuleId → Loading Captures)
    (repository : RuleId → Loading Repository) (patterns : RuleId → Loading (List RuleId)) :
    Loading RuleId := do
  let id ← reserve parent disabled location
  let begin ← addRegex E beginPattern (joinLocation location "begin")
  let beginCaptures ← beginCaptures id
  let (kind, exitPattern) ← regionExit location endPattern whilePattern
  let (exit, exitHasReferences) ← addExitRegex E exitPattern (joinLocation location kind.exitKey)
  let exitCaptures ← exitCaptures kind id
  let repository ← repository id
  let patterns ← patterns id
  define id parent disabled (.region
    { kind, name := name.map .ofString, contentName := contentName.map .ofString
      begin, beginCaptures, exit, exitHasReferences, exitCaptures
      endLast := kind == .beginEnd && endLast
      patterns, repository })
  pure id

mutual

/-- Adds a rule. -/
def addRule (E : Engine) (parent : Option RuleId) (location : String) :
    RuleDefinition → Loading RuleId
  | ⟨target, name, contentName, matchPattern, beginPattern, endPattern, whilePattern, captures,
      beginCaptures, endCaptures, whileCaptures, endLast, patterns, repository, disabled⟩ =>
    match target, matchPattern, beginPattern with
    | some target, _, _ => addInclude parent disabled location target
    | none, some matchPattern, _ =>
      addSingle E parent disabled location name matchPattern
        (addCaptures E · (joinLocation location "captures") captures)
    | none, none, some beginPattern =>
      addRegion E parent disabled location name contentName beginPattern endPattern whilePattern
        endLast
        (fun id ↦
          let inner := joinLocation location "beginCaptures"
          match beginCaptures with
          | some _ => addCaptures E id inner beginCaptures
          | none => addCaptures E id inner captures)
        (fun kind id ↦
          let inner := joinLocation location (kind.exitKey ++ "Captures")
          match kind, endCaptures, whileCaptures with
          | .beginEnd, some _, _ => addCaptures E id inner endCaptures
          | .beginWhile, _, some _ => addCaptures E id inner whileCaptures
          | _, _, _ => addCaptures E id inner captures)
        (addRepository E · location repository) (addPatterns E · location 0 patterns)
    | none, none, none =>
      addGroup parent disabled location (addRepository E · location repository)
        (addPatterns E · location 0 patterns)

/-- Adds the entries of a repository. -/
def addRepository (E : Engine) (owner : RuleId) (location : String) :
    List (String × RuleDefinition) → Loading Repository
  | [] => pure []
  | (name, r) :: rest => do
    let id ← addRule E (some owner) (joinLocation location ("repository." ++ name)) r
    let rest ← addRepository E owner location rest
    pure ((name, id) :: rest)

/-- Adds rules, of which the first has the index `i` among those of its owner. -/
def addPatterns (E : Engine) (owner : RuleId) (location : String) (i : Nat) :
    List RuleDefinition → Loading (List RuleId)
  | [] => pure []
  | r :: rest => do
    let id ← addRule E (some owner) (joinLocation location ("patterns[" ++ toString i ++ "]")) r
    let rest ← addPatterns E owner location (i + 1) rest
    pure (id :: rest)

/-- Adds what is done with captures, if anything. -/
def addCaptures (E : Engine) (owner : RuleId) (location : String) :
    Option (List (String × RuleDefinition)) → Loading Captures
  | none => pure {}
  | some captures => addCaptureEntries E owner location {} captures

/-- Adds what is done with captures to what is known of others. A key that is no index is passed
over; of keys for the same index the last one counts. There is no room for the last index of all;
for the others the memory of the machine is taken to suffice. -/
def addCaptureEntries (E : Engine) (owner : RuleId) (location : String) (known : Captures) :
    List (String × RuleDefinition) → Loading Captures
  | [] => pure known
  | (key, ⟨_, name, _, _, _, _, _, _, _, _, _, _, patterns, repository, _⟩) :: rest =>
    match signedIndex? key.toList with
    | none => do
      log (.strayCapture key (shownLocation location))
      addCaptureEntries E owner location known rest
    | some index => do
      let inner := joinLocation location key
      let group ←
        if patterns.isEmpty then pure none
        else
          some <$> addGroup (some owner) false inner (addRepository E · inner repository)
            (addPatterns E · inner 0 patterns)
      if index + 1 < indexBound then
        addCaptureEntries E owner location (known.insert index ⟨name.map .ofString, group⟩) rest
      else throw (.fault .captureIndexTooLarge)

end

/-- Reads a selector. -/
def readSelector (source : String) : Loading ScopeSelector :=
  match ScopeSelector.parse source with
  | .ok selector => pure selector
  | .error (position, cause) => refuse (.selector source position cause)

/-- Adds injections. -/
def addInjections (E : Engine) : List (String × RuleDefinition) → Loading (List Injection)
  | [] => pure []
  | (source, r) :: rest => do
    let selector ← readSelector source
    let rule ← addRule E (some rootRule) ("injections." ++ source) r
    let rest ← addInjections E rest
    pure (⟨selector, rule⟩ :: rest)

/-- Reads the selector of an exported injection. -/
def readExported : Option String → Loading (Option Injection)
  | none => pure none
  | some source => do
    let selector ← readSelector source
    pure (some ⟨selector, rootRule⟩)

/-- Adds the root of a grammar, which has to be its first rule. -/
def addRoot (E : Engine) (d : GrammarDefinition) : Loading Unit := do
  let id ←
    addGroup none false "" (addRepository E · "" d.repository) (addPatterns E · "" 0 d.patterns)
  if id = rootRule then pure () else throw (.fault .misplacedRoot)

/-- Adds the rules of a grammar, the root first, and gives its own injections and the exported
one. -/
def addGrammar (E : Engine) (d : GrammarDefinition) :
    Loading (List Injection × Option Injection) := do
  addRoot E d
  let injections ← addInjections E d.injections
  let exported ← readExported d.injectionSelector
  pure (injections, exported)

end Loading

/-- What loading a grammar comes to: the grammar, or why there is none, and what happened. -/
structure LoadReport where
  result : Except Failure Grammar
  log : Array Event

namespace Grammar

/-- Compiles a definition. -/
def compile (d : GrammarDefinition) (E : Engine := .machine) : LoadReport :=
  match (Loading.addGrammar E d).run {} with
  | .ok (injections, exported) arena =>
    { result := .ok
        { name := d.name, scopeName := d.scopeName, scope := .ofString d.scopeName
          rules := arena.rules, regexes := arena.regexes
          injections, exported, injectTo := d.injectTo }
      log := arena.log }
  | .error failure arena => ⟨.error failure, arena.log⟩

/-- Compiles a definition that may not have been there or readable. -/
def load (d : Except GrammarError GrammarDefinition) (E : Engine := .machine) : LoadReport :=
  match d with
  | .ok d => compile d E
  | .error e => ⟨.error (.error e), #[]⟩

end Grammar

end ScopeGrammar
