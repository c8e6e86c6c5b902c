import ScopeGrammar.Fault
import ScopeGrammar.Pattern.Regex
import ScopeGrammar.Selector.Parser

/-!
# Errors

What can be wrong with a grammar, and with a request for one. `Failure` puts errors together with
the two other ways in which a computation can end without a result: a fault, and fuel that ran out.
-/

namespace ScopeGrammar

/-- The two ways in which a JSON text can fail to be a grammar. -/
inductive JsonError where
  /-- The text is not JSON. -/
  | malformed
  /-- The value does not have the form of a grammar. -/
  | mismatched
  deriving DecidableEq, Repr

/-- A place in a grammar as messages show it. -/
def shownLocation (location : String) : String :=
  if location.isEmpty then "<root>" else location

namespace RegexError

/-- The message for a pattern that was refused. -/
def message (e : RegexError) : String :=
  "regex compilation error at " ++ e.location ++ " for /" ++ e.pattern ++ "/: " ++ e.cause.message

end RegexError

/-- The reasons for which a grammar cannot be loaded, found or used. -/
inductive GrammarError where
  /-- There is no file of the name. -/
  | missingFile
  | json (cause : JsonError)
  /-- A rule begins a region that nothing ends. -/
  | endlessRegion (location : String)
  /-- There is no identifier left for a rule or pattern. -/
  | arenaFull (location kind : String)
  | regex (cause : RegexError)
  | selector (source : String) (position : Nat) (cause : SelectorError)
  /-- No grammar has the name. -/
  | unknownName (name : String)
  | registryFull
  deriving DecidableEq, Repr

namespace GrammarError

/-- The message for an error. -/
def message : GrammarError → String
  | missingFile => "I/O error: No such file or directory (os error 2)"
  | json .malformed => "JSON parsing error: malformed text"
  | json .mismatched => "JSON parsing error: mismatched value"
  | endlessRegion location =>
    "invalid rule at " ++ shownLocation location
      ++ ": rule has a \x60begin\x60 but neither \x60end\x60 nor \x60while\x60"
  | arenaFull location kind =>
    "invalid rule at " ++ shownLocation location ++ ": grammar has too many " ++ kind
  | regex cause => cause.message
  | selector source position cause =>
    "invalid scope selector '" ++ source ++ "' at offset " ++ toString position ++ ": "
      ++ cause.text
  | unknownName name => "grammar '" ++ name ++ "' not found"
  | registryFull => "too many grammars in the registry"

end GrammarError

/-- The ways to end without a result. -/
inductive Failure where
  | error (e : GrammarError)
  | fault (f : Fault)
  /-- The fuel ran out. -/
  | unfinished
  deriving DecidableEq, Repr

/-- Whether something failed that callers promise to keep whole. -/
def Failure.isFault : Failure → Bool
  | .fault _ => true
  | .error _ | .unfinished => false

end ScopeGrammar
