import ScopeGrammar.Error
import ScopeGrammar.Grammar.Definition
import ScopeGrammar.Json.Reader

/-!
# Grammars from JSON

A grammar or rule is an object with optional keys, or an array of the values of those keys in a
fixed order. Values are taken in the order of the text, and the first thing that is wrong decides
the error: `malformed` for damage to the text, `mismatched` for a value of the wrong form. What no
key asks for has to be intact and is otherwise ignored.
-/

namespace ScopeGrammar

/-! ### Single values -/

namespace Json

/-- How deep arrays and objects that are looked at can be nested. -/
def depthLimit : Nat := 127

/-- The error for a value that is not of the expected form. A literal, number or string is read to
its end before its form counts, an array or object is not. -/
def unexpected : Json → JsonError
  | null | bool _ | array _ | object _ => .mismatched
  | number n => if n.isTooLarge then .malformed else .mismatched
  | string none => .malformed
  | string (some _) => .mismatched
  | damaged => .malformed

/-- A text. -/
def decodeText : Json → Except JsonError String
  | string (some text) => .ok text
  | j => .error j.unexpected

/-- A text, or `null` for none. -/
def decodeText? : Json → Except JsonError (Option String)
  | null => .ok none
  | j => j.decodeText.map some

end Json

mutual

/-- Whether a value inside `level` arrays and objects can be read with everything in it. -/
def Json.isReadable (level : Nat) : Json → Bool
  | .null | .bool _ => true
  | .number n => !n.isTooLarge
  | .string text => text.isSome
  | .array items => level < Json.depthLimit && items.isReadable (level + 1)
  | .object members => level < Json.depthLimit && members.isReadable (level + 1)
  | .damaged => false

/-- Whether items can be read with everything in them. -/
def JsonItems.isReadable (level : Nat) : JsonItems → Bool
  | .closed => true
  | .cut => false
  | .item value rest => value.isReadable level && rest.isReadable level

/-- Whether members can be read with everything in them. -/
def JsonMembers.isReadable (level : Nat) : JsonMembers → Bool
  | .closed => true
  | .cut => false
  | .member key value rest => key.isSome && value.isReadable level && rest.isReadable level

end

namespace Json

/-- Integers from `-flagBound` to below `flagBound` can stand for truth values. -/
def flagBound : Int := Int.pow 2 63

/-- A truth value, or an integer in its place. Anything else is read to its end before its form
counts. -/
def decodeFlag (level : Nat) : Json → Except JsonError Bool
  | bool b => .ok b
  | j =>
    match j with
    | number n =>
      match n.int? with
      | some i => if -flagBound ≤ i && i < flagBound then .ok (i != 0) else .error j.unexpected
      | none => .error j.unexpected
    | j => .error (if j.isReadable level then .mismatched else .malformed)

end Json

/-- The items of an array of texts. -/
def JsonItems.decodeTexts : JsonItems → Except JsonError (List String)
  | .closed => .ok []
  | .cut => .error .malformed
  | .item value rest => do
    let text ← value.decodeText
    let texts ← rest.decodeTexts
    pure (text :: texts)

/-- The entries of a list that is sorted by keys with one more, which replaces an entry of the same
key. -/
def insertByKey {α : Type} (key : String) (value : α) : List (String × α) → List (String × α)
  | [] => [(key, value)]
  | (k, v) :: rest =>
    if key < k then (key, value) :: (k, v) :: rest
    else if key = k then (key, value) :: rest
    else (k, v) :: insertByKey key value rest

/-! ### Rules -/

/-- The forms of the values that the keys of a rule have. -/
inductive RuleValueForm where
  | text
  | flag
  | rules
  | namedRules
  | captures
  deriving DecidableEq, Repr

/-- What a value of a form is decoded to. -/
abbrev RuleValueForm.Value : RuleValueForm → Type
  | text => Option String
  | flag => Bool
  | rules => List RuleDefinition
  | namedRules => List (String × RuleDefinition)
  | captures => Option (List (String × RuleDefinition))

/-- The keys of a rule. -/
inductive RuleKey where
  | target
  | name
  | contentName
  | matchPattern
  | beginPattern
  | endPattern
  | whilePattern
  | captures
  | beginCaptures
  | endCaptures
  | whileCaptures
  | endLast
  | patterns
  | repository
  | disabled
  deriving DecidableEq, Repr

namespace RuleKey

/-- The keys in the order in which an array has their values. -/
def all : List RuleKey :=
  [target, name, contentName, matchPattern, beginPattern, endPattern, whilePattern, captures,
    beginCaptures, endCaptures, whileCaptures, endLast, patterns, repository, disabled]

/-- The key as it is written. -/
def written : RuleKey → String
  | target => "include"
  | name => "name"
  | contentName => "contentName"
  | matchPattern => "match"
  | beginPattern => "begin"
  | endPattern => "end"
  | whilePattern => "while"
  | captures => "captures"
  | beginCaptures => "beginCaptures"
  | endCaptures => "endCaptures"
  | whileCaptures => "whileCaptures"
  | endLast => "applyEndPatternLast"
  | patterns => "patterns"
  | repository => "repository"
  | disabled => "disabled"

/-- Reads a key. -/
def ofString? (text : String) : Option RuleKey :=
  all.find? fun k ↦ k.written == text

/-- The form of the value of a key. -/
def form : RuleKey → RuleValueForm
  | target | name | contentName | matchPattern | beginPattern | endPattern | whilePattern => .text
  | captures | beginCaptures | endCaptures | whileCaptures => .captures
  | endLast | disabled => .flag
  | patterns => .rules
  | repository => .namedRules

end RuleKey

/-- The rule with the value of a key set. -/
def RuleDefinition.set (r : RuleDefinition) : (key : RuleKey) → key.form.Value → RuleDefinition
  | .target, v => { r with target := v }
  | .name, v => { r with name := v }
  | .contentName, v => { r with contentName := v }
  | .matchPattern, v => { r with matchPattern := v }
  | .beginPattern, v => { r with beginPattern := v }
  | .endPattern, v => { r with endPattern := v }
  | .whilePattern, v => { r with whilePattern := v }
  | .captures, v => { r with captures := v }
  | .beginCaptures, v => { r with beginCaptures := v }
  | .endCaptures, v => { r with endCaptures := v }
  | .whileCaptures, v => { r with whileCaptures := v }
  | .endLast, v => { r with endLast := v }
  | .patterns, v => { r with patterns := v }
  | .repository, v => { r with repository := v }
  | .disabled, v => { r with disabled := v }

mutual

/-- A rule inside `level` arrays and objects. -/
def Json.decodeRule (level : Nat) : Json → Except JsonError RuleDefinition
  | .object members =>
    if level < Json.depthLimit then members.decodeRule (level + 1) [] {} else .error .malformed
  | .array items =>
    if level < Json.depthLimit then items.decodeRule (level + 1) RuleKey.all {}
    else .error .malformed
  | j => .error j.unexpected

/-- The rest of a rule that is written as an object; `seen` are the keys it has already had. -/
def JsonMembers.decodeRule (level : Nat) (seen : List RuleKey) (r : RuleDefinition) :
    JsonMembers → Except JsonError RuleDefinition
  | .closed => .ok r
  | .cut => .error .malformed
  | .member none _ _ => .error .malformed
  | .member (some text) value rest =>
    match RuleKey.ofString? text with
    | none => if value.isIntact then rest.decodeRule level seen r else .error .malformed
    | some key =>
      if key ∈ seen then .error .mismatched
      else do
        let v ← value.decodeRuleValue level key.form
        rest.decodeRule level (key :: seen) (r.set key v)

/-- The rest of a rule that is written as an array; `keys` are those whose values are still to
come. -/
def JsonItems.decodeRule (level : Nat) (keys : List RuleKey) (r : RuleDefinition) :
    JsonItems → Except JsonError RuleDefinition
  | .closed => .ok r
  | .cut => .error .malformed
  | .item value rest =>
    match keys with
    | [] => .error .malformed
    | key :: keys => do
      let v ← value.decodeRuleValue level key.form
      rest.decodeRule level keys (r.set key v)

/-- A value of a key of a rule. -/
def Json.decodeRuleValue (level : Nat) : (form : RuleValueForm) → Json → Except JsonError form.Value
  | .rules, .array items =>
    if level < Json.depthLimit then items.decodeRules (level + 1) else .error .malformed
  | .namedRules, .object members =>
    if level < Json.depthLimit then members.decodeNamedRules (level + 1) []
    else .error .malformed
  | .captures, .null => .ok none
  | .captures, .object members =>
    if level < Json.depthLimit then (members.decodeNamedRules (level + 1) []).map some
    else .error .malformed
  | .text, j => j.decodeText?
  | .flag, j => j.decodeFlag level
  | _, j => .error j.unexpected

/-- The items of an array of rules. -/
def JsonItems.decodeRules (level : Nat) : JsonItems → Except JsonError (List RuleDefinition)
  | .closed => .ok []
  | .cut => .error .malformed
  | .item value rest => do
    let r ← value.decodeRule level
    let rs ← rest.decodeRules level
    pure (r :: rs)

/-- The members of an object of named rules, added to those that it has had. Of rules of the same
name the last one counts. -/
def JsonMembers.decodeNamedRules (level : Nat) (named : List (String × RuleDefinition)) :
    JsonMembers → Except JsonError (List (String × RuleDefinition))
  | .closed => .ok named
  | .cut => .error .malformed
  | .member none _ _ => .error .malformed
  | .member (some name) value rest => do
    let r ← value.decodeRule level
    rest.decodeNamedRules level (insertByKey name r named)

end

/-! ### Grammars -/

/-- The keys of a grammar. -/
inductive GrammarKey where
  | name
  | scopeName
  | patterns
  | repository
  | injections
  | injectionSelector
  | injectTo
  deriving DecidableEq, Repr

namespace GrammarKey

/-- The keys in the order in which an array has their values. -/
def all : List GrammarKey :=
  [name, scopeName, patterns, repository, injections, injectionSelector, injectTo]

/-- The key as it is written. -/
def written : GrammarKey → String
  | name => "name"
  | scopeName => "scopeName"
  | patterns => "patterns"
  | repository => "repository"
  | injections => "injections"
  | injectionSelector => "injectionSelector"
  | injectTo => "injectTo"

/-- Reads a key. -/
def ofString? (text : String) : Option GrammarKey :=
  all.find? fun k ↦ k.written == text

end GrammarKey

namespace GrammarDefinition

/-- The grammar with the value of a key decoded and set. -/
def decodeKey (level : Nat) (g : GrammarDefinition) (value : Json) :
    GrammarKey → Except JsonError GrammarDefinition
  | .name => do pure { g with name := ← value.decodeText }
  | .scopeName => do pure { g with scopeName := ← value.decodeText }
  | .patterns => do pure { g with patterns := ← value.decodeRuleValue level .rules }
  | .repository => do pure { g with repository := ← value.decodeRuleValue level .namedRules }
  | .injections => do pure { g with injections := ← value.decodeRuleValue level .namedRules }
  | .injectionSelector => do pure { g with injectionSelector := ← value.decodeText? }
  | .injectTo =>
    match value with
    | .array items => do pure { g with injectTo := ← items.decodeTexts }
    | j => .error j.unexpected

/-- The rest of a grammar that is written as an object; `seen` are the keys it has already had. -/
def decodeMembers (seen : List GrammarKey) (g : GrammarDefinition) :
    JsonMembers → Except JsonError GrammarDefinition
  | .closed => .ok g
  | .cut => .error .malformed
  | .member none _ _ => .error .malformed
  | .member (some text) value rest =>
    match GrammarKey.ofString? text with
    | none => if value.isIntact then decodeMembers seen g rest else .error .malformed
    | some key =>
      if key ∈ seen then .error .mismatched
      else do decodeMembers (key :: seen) (← g.decodeKey 1 value key) rest

/-- The rest of a grammar that is written as an array; `keys` are those whose values are still to
come. -/
def decodeItems (keys : List GrammarKey) (g : GrammarDefinition) :
    JsonItems → Except JsonError GrammarDefinition
  | .closed => .ok g
  | .cut => .error .malformed
  | .item value rest =>
    match keys with
    | [] => .error .malformed
    | key :: keys => do decodeItems keys (← g.decodeKey 1 value key) rest

/-- The form of a grammar in a JSON value. -/
def decode : Json → Except JsonError GrammarDefinition
  | .object members => decodeMembers [] {} members
  | .array items => decodeItems GrammarKey.all {} items
  | j => .error j.unexpected

/-- The form of a grammar in a JSON text. What follows the value is looked at last. -/
def decodeDocument (d : JsonDocument) : Except JsonError GrammarDefinition := do
  let g ← decode d.value
  if d.complete then pure g else .error .malformed

/-- A grammar from a JSON value. -/
def ofJson (j : Json) : Except GrammarError GrammarDefinition :=
  (decode j).mapError .json

/-- A grammar from a JSON text. -/
def ofString (text : String) : Except GrammarError GrammarDefinition :=
  (decodeDocument (.ofString text)).mapError .json

/-- A grammar from the content of a file, if there is such a file. -/
def ofFile : Option String → Except GrammarError GrammarDefinition
  | none => .error .missingFile
  | some text => ofString text

end GrammarDefinition

end ScopeGrammar
