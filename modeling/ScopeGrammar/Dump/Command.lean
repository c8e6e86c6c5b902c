import ScopeGrammar.Dump.Listing

/-!
# The listing command

The command lists the tokens of a file with one of the grammars that it is given files of. Its
arguments are read, and its work is done, without touching any file: the contents come from outside,
`none` for a file that is not there.
-/

namespace ScopeGrammar

/-- What the command is asked for; `γ` and `φ` stand for what is known of a grammar and of the
file. -/
structure DumpRequest (γ φ : Type) where
  /-- The grammars, in the order in which they are loaded. -/
  grammars : List γ := []
  /-- The name or scope name of the grammar of the file; the first one that was loaded by
  default. -/
  scope : Option String := none
  /-- The scope names of grammars whose exported injections apply everywhere. -/
  inject : List String := []
  trace : Bool := false
  file : φ

/-- What the command comes to. -/
structure DumpReport where
  code : UInt32
  listing : Listing := {}

/-- A request with the contents of its files. -/
abbrev DumpInput := DumpRequest (Except GrammarError GrammarDefinition) (Option String)

namespace DumpInput

/-- Loads grammars one after the other, until one of them fails. -/
def loadAll (r : Registry) : List (Except GrammarError GrammarDefinition) → Except Failure Registry
  | [] => .ok r
  | d :: rest =>
    match (Grammar.load d).result with
    | .error failure => .error failure
    | .ok g =>
      match r.add g with
      | .error e => .error (.error e)
      | .ok (_, r) => loadAll r rest

/-- The grammar to use. -/
def grammarId (request : DumpInput) (r : Registry) : Except Failure GrammarId :=
  match request.scope with
  | none => .ok 0
  | some name =>
    match r.id? name with
    | some id => .ok id
    | none => .error (.error (.unknownName name))

/-- The listing that is asked for. -/
def listing (request : DumpInput) (fuel : Nat := Session.defaultFuel) : Listing :=
  match loadAll {} request.grammars with
  | .error failure => .failed failure
  | .ok r =>
    let r := request.inject.foldl Registry.addInjectionScope r
    match grammarId request r, request.file with
    | .error failure, _ => .failed failure
    | .ok _, none => .failed (.error .missingFile)
    | .ok id, some text => .ofText r id request.trace text fuel

/-- The exit code for what became of a listing; a fault is told apart from an error. -/
def exitCode : Option Failure → UInt32
  | none => 0
  | some failure => if failure.isFault then 101 else 1

/-- Does what is asked for. Without a grammar the request is not understood. -/
def run (request : DumpInput) (fuel : Nat := Session.defaultFuel) : DumpReport :=
  if request.grammars.isEmpty then { code := 2 }
  else
    let listing := listing request fuel
    { code := exitCode listing.failure, listing }

end DumpInput

/-! ### Arguments -/

/-- A request that names its files. -/
abbrev DumpArguments := DumpRequest String String

namespace DumpArguments

/-- What has been read of the arguments: perhaps the file is still to come. -/
abbrev Partly := DumpRequest String (Option String)

/-- An argument of the form `--option=value` as two arguments. -/
def splitArgument (argument : String) : List String :=
  let cs := argument.toList
  if "--".toList.isPrefixOf cs && cs.contains '=' then
    [String.ofList (cs.takeWhile (· != '=')), String.ofList ((cs.dropWhile (· != '=')).drop 1)]
  else [argument]

/-- Reads arguments after those that have been read. -/
def readArguments (known : Partly) : List String → Option Partly
  | [] => some known
  | "--trace" :: rest => readArguments { known with trace := true } rest
  | [option] => if "-".toList.isPrefixOf option.toList then none else setFile known option
  | option :: value :: rest =>
    if option = "--grammar" ∨ option = "-g" then
      readArguments { known with grammars := known.grammars ++ [value] } rest
    else if option = "--scope" ∨ option = "-s" then
      readArguments { known with scope := some value } rest
    else if option = "--inject" then
      readArguments { known with inject := known.inject ++ [value] } rest
    else if "-".toList.isPrefixOf option.toList then none
    else (setFile known option).bind fun known ↦ readArguments known (value :: rest)
where
  /-- Takes an argument for the name of the file, of which there is one. -/
  setFile (known : Partly) (name : String) : Option Partly :=
    if known.file.isNone then some { known with file := some name } else none

/-- The request of some arguments, or `none` for arguments that are not understood. -/
def ofList? (arguments : List String) : Option DumpArguments := do
  let known ← readArguments { file := none } (arguments.flatMap splitArgument)
  let file ← known.file
  pure { known with file := file }

end DumpArguments

end ScopeGrammar
