import ScopeGrammar.Text.Span

/-!
# Events

What happens while grammars are loaded and lines are tokenized, for the log. Rules appear in events
by their descriptions.
-/

namespace ScopeGrammar

/-- Something that a log shows. -/
inductive Event where
  /-- A region began. -/
  | began (rule : String) (span : Span)
  /-- A rule of a single pattern matched. -/
  | matched (rule : String) (span : Span)
  /-- A region ended with its end pattern. -/
  | ended (rule : String) (span : Span)
  /-- A region was closed because the captured text around it ended. -/
  | outlasted (rule : String)
  /-- A region goes on in another line. -/
  | continued (rule : String) (span : Span)
  /-- A region does not go on in another line, and is closed with all that it holds. -/
  | discontinued (rule : String) (position count : Nat)
  /-- A region would end where it began. -/
  | endedInPlace (rule : String) (position : Nat)
  /-- A rule would match no text. -/
  | matchedNothing (rule : String) (position : Nat)
  /-- A region would begin again where it began. -/
  | begunTwice (rule : String) (position : Nat)
  /-- A rule that is switched off was passed over. -/
  | disabledRule (rule : String)
  /-- An include leads nowhere. -/
  | deadInclude (target scopeName : String)
  /-- The key of a capture is no index. -/
  | strayCapture (key location : String)
  /-- A template asks for an unknown change of letter case. -/
  | unknownModifier (word template : String)
  deriving DecidableEq, Repr

namespace Event

/-- Whether the event is one of those that are only logged when rules are traced. -/
def isTrace : Event → Bool
  | disabledRule .. | deadInclude .. | strayCapture .. | unknownModifier .. => false
  | _ => true

/-- The text of an event. -/
def text : Event → String
  | began rule s => "[push] " ++ rule ++ " at " ++ spanText s
  | matched rule s => "[match] " ++ rule ++ " at " ++ spanText s
  | ended rule s => "[pop] " ++ rule ++ " at " ++ spanText s
  | outlasted rule => "[pop] " ++ rule ++ " at end of captured text"
  | continued rule s => "[while] " ++ rule ++ " continues at " ++ spanText s
  | discontinued rule p n =>
    "[while] " ++ rule ++ " no longer matches at " ++ toString p ++ ", closing " ++ toString n
      ++ " rule(s)"
  | endedInPlace rule p => "[loop guard] " ++ rule ++ " ended where it started at " ++ toString p
  | matchedNothing rule p => "[loop guard] " ++ rule ++ " matched nothing at " ++ toString p
  | begunTwice rule p => "[loop guard] " ++ rule ++ " was already entered at " ++ toString p
  | disabledRule rule => "skipping disabled rule " ++ rule
  | deadInclude target scopeName =>
    "unresolved include '" ++ target ++ "' in grammar " ++ scopeName
  | strayCapture key location => "ignoring capture key '" ++ key ++ "' at " ++ location
  | unknownModifier word template =>
    "unknown case modifier '" ++ word ++ "' in scope '" ++ template ++ "'"
where
  /-- A span as events show it. -/
  spanText (s : Span) : String :=
    toString s.start ++ ".." ++ toString s.stop

/-- The line of a log for an event. -/
def line (e : Event) : String :=
  (if e.isTrace then "TRACE " else "DEBUG ") ++ e.text

end Event

end ScopeGrammar
