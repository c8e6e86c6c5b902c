import ScopeGrammar.Scope.Atoms
import ScopeGrammar.Tokenizer.Session

/-!
# Lines and the atoms of a process

All scope names of a process are made of the atoms of one table. The names that stand in a grammar
get theirs when it is loaded. Names of captured text get theirs while a line is tokenized, and a
line that makes one when no atom is left for it ends right there, in a fault.

Up to that point the line does not depend on the table, since names are told apart by their
segments. So the table is asked once the line has noted the names that it makes, in their order.
-/

namespace ScopeGrammar

namespace Session

/-- What a line comes to in a process with a table of atoms, and the table that it leaves. A name
that gets no atom ends the line, whatever would have come after it. -/
def tokenizeLineIn (s : Session) (t : AtomTable) (r : Registry) (line : String)
    (fuel : Nat := defaultFuel) : Except Failure (List Token) × AtomTable :=
  let report := s.tokenizeLine r line fuel
  match Interning.internAll report.names.toList t with
  | .ok _ t' => (report.result, t')
  | .error _ t' => (.error (.fault .atomsExhausted), t')

end Session

end ScopeGrammar
