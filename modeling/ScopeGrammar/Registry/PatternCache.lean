import ScopeGrammar.Pattern.Regex
import Std.Data.HashMap

/-!
# Filled-in patterns

An end or while pattern that refers to captures becomes a new pattern with every begin match, and
the same text tends to come again: labels, names of tags. The cache keeps the compiled form of the
last few hundred texts. Since a compiled pattern is a function of its text, what is cached differs
from what would be compiled at most in the location that errors report.
-/

namespace ScopeGrammar

/-- Compiled patterns by their texts. -/
structure PatternCache where
  entries : Std.HashMap String Regex := {}

namespace PatternCache

instance : Inhabited PatternCache := ⟨{}⟩

/-- How many patterns are kept. -/
def capacity : Nat := 512

/-- The compiled form of a pattern, which is added if it is not there yet. A full cache is emptied
first. -/
def compile (c : PatternCache) (pattern location : String) : Regex × PatternCache :=
  match c.entries[pattern]? with
  | some r => (r, c)
  | none =>
    let r := Regex.ofPattern pattern location
    let kept := if capacity ≤ c.entries.size then {} else c.entries
    (r, ⟨kept.insert pattern r⟩)

end PatternCache

end ScopeGrammar
