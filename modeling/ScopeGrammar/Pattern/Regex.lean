import ScopeGrammar.Capture.Match
import ScopeGrammar.Pattern.Anchoring
import ScopeGrammar.Pattern.Backreference
import ScopeGrammar.Pattern.Parser
import ScopeGrammar.Pattern.Search

/-!
# Regular expressions of a grammar

A `Regex` is the text of a pattern, the place in its grammar where it is written, and what the text
compiles to under each choice of live anchors. Compiling is a function of the text alone, and the
type says so.

A search runs over an `IndexedText`, which knows the byte position of each of its characters, and
reports byte spans. What compiles and searches the patterns is an `Engine`, of which nothing but the
searches is seen.
-/

namespace ScopeGrammar

/-! ### Compiling -/

/-- A code point above all others, as some grammars write the upper end of a class. -/
def oversizedCodePoint : List Char := "\\x\x7b7fffffff\x7d".toList

/-- The greatest code point, in the same notation. -/
def greatestCodePoint : List Char := "\\x\x7b10ffff\x7d".toList

/-- Whether a text begins with the oversized code point, in upper or lower case. -/
def startsOversized (cs : List Char) : Bool :=
  (cs.take oversizedCodePoint.length).map Char.toLower == oversizedCodePoint

/-- Replaces every oversized code point by the greatest one. The number counts the characters of
the last replaced one that are still to be skipped. -/
def lowerOversized : Nat → List Char → List Char
  | _, [] => []
  | skip + 1, _ :: cs => lowerOversized skip cs
  | 0, c :: cs =>
    if startsOversized (c :: cs) then
      greatestCodePoint ++ lowerOversized (oversizedCodePoint.length - 1) cs
    else c :: lowerOversized 0 cs

/-- Whether a text has an oversized code point. -/
def hasOversized : List Char → Bool
  | [] => false
  | c :: cs => startsOversized (c :: cs) || hasOversized cs

/-- Compiles a text. One that is refused is tried again without its oversized code points, and then
refused for the reason of the second attempt. -/
def compileWith {α : Type} (attempt : List Char → Except PatternError α) (cs : List Char) :
    Except PatternError α :=
  match attempt cs with
  | .ok a => .ok a
  | .error e => if hasOversized cs then attempt (lowerOversized 0 cs) else .error e

/-- What is made of a compiled text can be made of what each attempt gives. -/
theorem compileWith_map {α β : Type} (f : α → β) (attempt : List Char → Except PatternError α)
    (cs : List Char) :
    (compileWith attempt cs).map f = compileWith (fun cs ↦ (attempt cs).map f) cs := by
  simp only [compileWith]
  cases attempt cs with
  | ok a => rfl
  | error e => cases hasOversized cs <;> rfl

/-- The program of a pattern as it stands. -/
def readProgram (cs : List Char) : Except PatternError Program :=
  (Pattern.parse cs).bind fun (p, groups) ↦ Program.ofPattern p groups

/-- The program of a pattern. -/
def compilePattern (cs : List Char) : Except PatternError Program :=
  compileWith readProgram cs

/-- A pattern that was refused, and where its grammar has it. -/
structure RegexError where
  pattern : String
  location : String
  cause : PatternError
  deriving DecidableEq, Repr

/-- What a pattern compiles to under each choice of live anchors. -/
structure Variants where
  both : Except PatternError Program
  textStart : Except PatternError Program
  searchStart : Except PatternError Program
  neither : Except PatternError Program

namespace Variants

/-- Compiles a pattern for all choices of live anchors. Masking that changes nothing is not
compiled again. -/
def ofChars (cs : List Char) : Variants :=
  let both := compilePattern cs
  let masked (a : LiveAnchors) : Except PatternError Program :=
    let cs' := a.mask cs
    if cs' = cs then both else compilePattern cs'
  ⟨both, masked ⟨true, false⟩, masked ⟨false, true⟩, masked ⟨false, false⟩⟩

/-- The program for a choice of live anchors. -/
def get (v : Variants) : LiveAnchors → Except PatternError Program
  | ⟨true, true⟩ => v.both
  | ⟨true, false⟩ => v.textStart
  | ⟨false, true⟩ => v.searchStart
  | ⟨false, false⟩ => v.neither

/-- The program for a choice of live anchors is that of the masked pattern. -/
theorem get_ofChars (cs : List Char) (a : LiveAnchors) :
    (ofChars cs).get a = compilePattern (a.mask cs) := by
  rcases a with ⟨_ | _, _ | _⟩
  · simp only [ofChars, get]; split <;> simp_all
  · simp only [ofChars, get]; split <;> simp_all
  · simp only [ofChars, get]; split <;> simp_all
  · exact congrArg compilePattern (LiveAnchors.mask_both cs).symm

end Variants

/-! ### Regular expressions -/

/-- A pattern of a grammar with everything it compiles to. -/
structure Regex where
  pattern : String
  /-- Where the pattern is written in its grammar. -/
  location : String
  variants : Variants
  variants_eq : variants = Variants.ofChars pattern.toList := by rfl

namespace Regex

instance : Inhabited Regex := ⟨⟨"", "", Variants.ofChars "".toList, rfl⟩⟩

/-- The regular expression of a pattern. -/
def ofPattern (pattern location : String) : Regex :=
  ⟨pattern, location, Variants.ofChars pattern.toList, rfl⟩

/-- The error of this pattern for a cause. -/
def error (r : Regex) (cause : PatternError) : RegexError :=
  ⟨r.pattern, r.location, cause⟩

/-- Whether the pattern refers to the captures of another match. -/
def hasReferences (r : Regex) : Bool :=
  ScopeGrammar.hasReferences r.pattern.toList

end Regex

/-! ### Engines -/

/-- What a compiled pattern answers when it is searched in a window. -/
inductive SearchAnswer where
  | found (m : Match)
  | nowhere
  /-- The search went back too often. -/
  | exhausted
  deriving Repr, Inhabited

/-- A compiled pattern: its leftmost match in each window. -/
abbrev Matcher := Window → SearchAnswer

/-- What compiles patterns and searches them. Tokenizing works with any engine; `Engine.machine` is
the one of this library. -/
structure Engine where
  /-- What the text of a pattern compiles to. -/
  compile : List Char → Except PatternError Matcher
  /-- What a regular expression compiles to under a choice of live anchors. -/
  compiled : Regex → LiveAnchors → Except PatternError Matcher
  /-- Whatever is compiled in advance is what the masked pattern compiles to. -/
  compiled_eq : ∀ r a, compiled r a = compileWith compile (a.mask r.pattern.toList)

namespace Engine

/-- The engine of a way to compile texts, which compiles nothing in advance. -/
def ofCompile (compile : List Char → Except PatternError Matcher) : Engine :=
  ⟨compile, fun r a ↦ compileWith compile (a.mask r.pattern.toList), fun _ _ ↦ rfl⟩

end Engine

namespace Program

/-- The match that a search reports. -/
def matchOf (t : IndexedText) (groups : Nat) (found : Found) : Match where
  whole := t.span found.start found.stop
  groups := (List.range groups).map fun g ↦
    (found.span? (g + 1)).map fun (start, stop) ↦ t.span start stop

/-- The searches of a program. -/
def matcher (program : Program) : Matcher := fun w ↦
  match program.search w with
  | .found f => .found (matchOf w.text program.groups f)
  | .nowhere => .nowhere
  | .exhausted => .exhausted

end Program

namespace Engine

/-- The engine that runs programs on the machine. -/
def machine : Engine where
  compile cs := (readProgram cs).map Program.matcher
  compiled r a := (r.variants.get a).map Program.matcher
  compiled_eq r a := by
    rw [r.variants_eq, Variants.get_ofChars, compilePattern, compileWith_map]

end Engine

/-! ### Searching -/

namespace Regex

/-- What the pattern compiles to under a choice of live anchors. -/
def compiled (r : Regex) (a : LiveAnchors) (E : Engine := .machine) : Except RegexError Matcher :=
  match E.compiled r a with
  | .ok matcher => .ok matcher
  | .error cause => .error (r.error cause)

/-- Checks that the pattern compiles with both anchors live. -/
def validate (r : Regex) (E : Engine := .machine) : Except RegexError Unit :=
  (r.compiled .both E).map fun _ ↦ ()

/-- Checks a pattern whose references are filled in later: each of them stands for text that never
occurs. -/
def validateTemplate (r : Regex) (E : Engine := .machine) : Except RegexError Unit :=
  match fillReferences r.pattern.toList [] ⟨⟨0, 0⟩, []⟩ with
  | .ok (some filled) =>
    match compileWith E.compile filled with
    | .ok _ => .ok ()
    | .error cause => .error (r.error cause)
  | _ => r.validate E

/-- What a search can report instead of a result. -/
inductive SearchFailure where
  | refused (e : RegexError)
  /-- The range is not one of the text. -/
  | outside
  /-- The search went back too often. -/
  | exhausted
  deriving DecidableEq, Repr

/-- The leftmost match that starts in a span of a text. Nothing of the text exists after the span,
but what precedes it can be looked at. -/
def search (r : Regex) (t : IndexedText) (range : Span) (a : LiveAnchors)
    (E : Engine := .machine) : Except SearchFailure (Option Match) :=
  match r.compiled a E with
  | .error e => .error (.refused e)
  | .ok matcher =>
    match t.index? range.start, t.index? range.stop with
    | some start, some stop =>
      if start ≤ stop then
        match matcher ⟨t, start, stop⟩ with
        | .found m => .ok (some m)
        | .nowhere => .ok none
        | .exhausted => .error .exhausted
      else .error .outside
    | _, _ => .error .outside

end Regex

end ScopeGrammar
