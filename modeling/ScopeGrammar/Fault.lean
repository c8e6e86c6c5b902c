/-!
# Faults

A fault is the breach of a condition that callers promise: a path without its root, a span that is
not one of the text at hand, an identifier that names nothing. Faults are kept apart from errors,
which report bad grammars and patterns, so that "no run ends in a fault" can be stated.
-/

namespace ScopeGrammar

/-- The conditions that an operation can find broken. -/
inductive Fault where
  /-- A scope path was to be made of no scopes. -/
  | emptyPath
  /-- The root scope of a path was to be removed. -/
  | rootScopeRemoved
  /-- The root frame of a stack was to be removed. -/
  | rootFrameRemoved
  /-- A span does not lie on the characters of the text. -/
  | spanOutsideText
  /-- A frame that ends in its line was left at the end of the line. -/
  | boundedFrameLeft
  /-- A search was to run outside the text or to begin inside a character. -/
  | searchOutsideText
  /-- A search went back too often. -/
  | searchExhausted
  /-- A line was to be tokenized after one that ended in a fault. -/
  | sessionLost
  /-- A match ends before it starts. -/
  | backwardMatch
  /-- An identifier names no grammar of the registry. -/
  | unknownGrammar
  /-- An identifier names no rule of its grammar. -/
  | unknownRule
  /-- An identifier names no pattern of its grammar. -/
  | unknownRegex
  /-- A rule without a pattern of its own was to be applied. -/
  | ruleWithoutPattern
  /-- Some scoped ranges never ended. -/
  | unbalancedRanges
  /-- A capture index leaves no room for the entries up to it. -/
  | captureIndexTooLarge
  /-- The root of a grammar is not its first rule. -/
  | misplacedRoot
  /-- There is no atom left for a segment of a scope name. -/
  | atomsExhausted
  deriving DecidableEq, Repr

end ScopeGrammar
