import ScopeGrammar.Grammar.Compile
import ScopeGrammar.Text.Quoted
import ScopeGrammar.Tokenizer.Session

/-!
# Listings of tokens

A listing shows the lines of a text, each with its number and followed by its tokens: their text in
quotes and their scopes. It stops at the first failure and keeps what it has shown by then.
-/

namespace ScopeGrammar

/-- A listing, perhaps cut short by a failure. -/
structure Listing where
  lines : List String := []
  failure : Option Failure := none
  log : List Event := []

namespace Listing

/-- A number in a column of four characters, or more if it is longer. -/
def numberColumn (n : Nat) : String :=
  let digits := toString n
  String.ofList (List.replicate (4 - digits.length) ' ') ++ digits

/-- The head of a line: its number, from 1 on, and its content. -/
def head (index : Nat) (line : String) : String :=
  numberColumn (index + 1) ++ " | " ++ String.ofList (lineContent line.toList)

/-- The row for a token of a line. -/
def row (line : String) (t : Token) : Except Failure String :=
  match slice? line.toList t.span with
  | some text => .ok ("     | " ++ quoted (String.ofList text) ++ " " ++ t.scopes.dotted)
  | none => .error (.fault .spanOutsideText)

/-- Puts a part of a listing before the rest of it. -/
def prepend (lines : List String) (log : List Event) (rest : Listing) : Listing :=
  { rest with lines := lines ++ rest.lines, log := log ++ rest.log }

/-- The listing of lines, of which the first has the given index. -/
def ofLines (s : Session) (r : Registry) (fuel index : Nat) : List String → Listing
  | [] => {}
  | line :: lines =>
    let report := s.tokenizeLine r line fuel
    let log := report.log.toList
    match report.result.bind fun tokens ↦ tokens.mapM (row line) with
    | .error failure => ⟨[head index line], some failure, log⟩
    | .ok rows =>
      prepend (head index line :: rows) log
        (ofLines report.session report.registry fuel (index + 1) lines)

/-- A listing that fails before its first line. -/
def failed (failure : Failure) : Listing :=
  { failure := some failure }

/-- The listing of a text, tokenized with the grammar of an identifier. -/
def ofText (r : Registry) (id : GrammarId) (trace : Bool) (text : String)
    (fuel : Nat := Session.defaultFuel) : Listing :=
  match Session.ofText r id text with
  | .error fault => failed (.fault fault)
  | .ok s => ofLines { s with trace := trace } r fuel 0 (splitLines text)

end Listing

end ScopeGrammar
