import ScopeGrammar.Pattern.Error
import ScopeGrammar.Pattern.Scan
import ScopeGrammar.Text.Property

/-!
# Names of groups

A group is named where it is defined, as in `(?<name>…)`, and referred to by name or number, as in
`\k<name>` and `\k<-1>`. `definedName` and `referenceName` read what follows the opening mark; the
closing mark is `>` or `'`. A reference can ask for the captures of a level of nesting besides; as
groups do not call each other, only level zero has any.
-/

namespace ScopeGrammar

/-- What a name refers to. -/
inductive GroupName where
  | named (name : List Char)
  /-- The group with a number. -/
  | absolute (number : Nat)
  /-- The group that many places before or after here. -/
  | relative (forward : Bool) (number : Nat)
  deriving DecidableEq, Repr

namespace GroupName

/-- Whether a character ends a name that is being defined. -/
def endsDefinition (close c : Char) : Bool :=
  c == close || c == ')'

/-- The part of a name that a message shows when its first character is refused: up to the closing
mark or parenthesis, if something follows that. -/
def refusedStart (close c : Char) (rest : List Char) : String :=
  match rest.dropWhile (!endsDefinition close ·) with
  | _ :: _ :: _ => String.ofList (c :: rest.takeWhile (!endsDefinition close ·))
  | _ => String.ofList (c :: rest)

/-- The part of a name without its end that a message shows: what precedes the last character that
was looked at. -/
def shownUnclosed (c : Char) (body after : List Char) : String :=
  String.ofList (if after.isEmpty && !body.isEmpty then c :: body.dropLast else c :: body)

/-- Reads the name that a group is given, after its opening mark. Only its first character has to be
part of words. -/
def definedName (close : Char) (cs : List Char) : Except PatternError (List Char × List Char) :=
  match cs with
  | [] => .error .emptyGroupName
  | c :: rest =>
    if c = close then .error .emptyGroupName
    else if isAsciiDigit c || c == '-' || c == '+' then
      .error (.invalidGroupName (refusedStart close c rest))
    else if !isWordSign c then .error (.invalidGroupNameChar (refusedStart close c rest))
    else
      let body := rest.takeWhile (!endsDefinition close ·)
      match rest.dropWhile (!endsDefinition close ·) with
      | d :: after =>
        if d = close then .ok (c :: body, after)
        else .error (.invalidGroupName (shownUnclosed c body (d :: after)))
      | [] => .error (.invalidGroupName (shownUnclosed c body []))

/-- Whether a character ends the name of a reference. -/
def endsReference (close c : Char) : Bool :=
  c == close || c == ')' || c == '+' || c == '-'

/-- What is wrong with a reference that begins with `c` and goes on with `body`, if anything is: a
number may have digits only, and needs one if `ended` says that its end was seen; a name has
characters of words only. -/
def referenceFault (c : Char) (body : List Char) (ended : Bool) (shown : String) :
    Option PatternError :=
  if isAsciiDigit c || c == '-' || c == '+' then
    match body.dropWhile isAsciiDigit with
    | [] =>
      if !isAsciiDigit c && body.isEmpty && ended then some (.invalidGroupName shown) else none
    | tail =>
      some
        (if tail.any (!isWordSign ·) then .invalidGroupNameChar shown else .invalidGroupName shown)
  else if !isWordSign c || body.any (!isWordSign ·) then some (.invalidGroupNameChar shown)
  else none

/-- The group that a well-formed reference means. -/
def ofReference (c : Char) (body : List Char) : Except PatternError GroupName :=
  if isAsciiDigit c then
    match Scan.number (c :: body) with
    | (some n, _) => .ok (.absolute n)
    | (none, _) => .error .numberTooLarge
  else if c == '-' || c == '+' then
    match Scan.number body with
    | (some 0, _) => .error (.invalidGroupName (String.ofList (c :: body)))
    | (some n, _) => .ok (.relative (c == '+') n)
    | (none, _) => .error .numberTooLarge
  else .ok (.named (c :: body))

/-- Reads the level of a reference after its sign, and the closing mark; `whole` is all that follows
the opening mark. -/
def level (close : Char) (cs : List Char) (whole : String) :
    Except PatternError (Nat × List Char) :=
  match cs with
  | [] => .error (.invalidGroupName whole)
  | d :: _ =>
    if isAsciiDigit d then
      match Scan.number cs with
      | (none, _) => .error .numberTooLarge
      | (some n, e :: rest) => if e = close then .ok (n, rest) else .error (.invalidGroupName whole)
      | (some _, []) => .error (.invalidGroupName whole)
    else .error (.invalidGroupName whole)

/-- Reads a reference after its opening mark: what it refers to, at which level, and the rest. -/
def referenceName (close : Char) (cs : List Char) :
    Except PatternError (GroupName × Nat × List Char) :=
  match cs with
  | [] => .error .emptyGroupName
  | c :: rest =>
    if c = close then .error .emptyGroupName
    else
      let body := rest.takeWhile (!endsReference close ·)
      let after := rest.dropWhile (!endsReference close ·)
      let shown := shownUnclosed c body after
      let whole := String.ofList cs
      match referenceFault c body (!after.isEmpty) shown, after with
      | some e, _ => .error e
      | none, [] =>
        if rest.isEmpty && (c == '+' || c == '-') then .error (.invalidGroupNameChar whole)
        else .error (.invalidGroupName whole)
      | none, d :: after =>
        if d = close then do
          let name ← ofReference c body
          pure (name, 0, after)
        else if d = ')' then .error (.invalidGroupName whole)
        else if after.isEmpty then .error (.invalidGroupNameChar (String.ofList (c :: body)))
        else do
          let (n, after) ← level close after whole
          let name ← ofReference c body
          pure (name, n, after)

end GroupName

end ScopeGrammar
