import ScopeGrammar.Dump.Command

/-!
# The command line

Reads the files that the arguments name, prints the listing, and says on the error stream what went
wrong.
-/

namespace ScopeGrammar

/-- The content of a file, if it can be read. -/
def readFile? (name : String) : IO (Option String) := do
  try
    return some (← IO.FS.readFile name)
  catch _ =>
    return none

/-- What the error stream shows of a failure. -/
def failureText : Failure → String
  | .error e => e.message
  | .fault _ => "internal fault"
  | .unfinished => "too many steps"

end ScopeGrammar

open ScopeGrammar

/-- Lists the tokens of a file. -/
def main (arguments : List String) : IO UInt32 := do
  match DumpArguments.ofList? arguments with
  | none =>
    IO.eprintln "usage: --grammar FILE... [--scope NAME] [--inject SCOPE]... [--trace] FILE"
    return 2
  | some request =>
    let grammars ← request.grammars.mapM readFile?
    let input : DumpInput :=
      { request with
        grammars := grammars.map GrammarDefinition.ofFile
        file := ← readFile? request.file }
    let report := DumpInput.run input
    for line in report.listing.lines do
      IO.println line
    for event in report.listing.log do
      IO.eprintln event.line
    match report.listing.failure with
    | some failure => IO.eprintln ("Error: " ++ failureText failure)
    | none => pure ()
    return report.code
