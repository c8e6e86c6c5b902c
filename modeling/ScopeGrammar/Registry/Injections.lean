import ScopeGrammar.Registry.Basic

/-!
# Active injections

The injections that take part when a document is tokenized with a grammar: its own ones, then those
that other grammars export to it, in the order of the grammars. A grammar exports to those that it
names itself, and to all if its scope name was added to the registry as an injection scope. A
grammar that another one of the same scope name has replaced exports nothing.
-/

namespace ScopeGrammar

namespace Registry

/-- Whether the exported injection of a grammar applies to documents of another one. -/
def exportsTo (r : Registry) (base : Grammar) (g : Grammar) : Bool :=
  r.injectionScopes.contains g.scopeName || g.injectTo.contains base.scopeName

/-- The exported injection of a grammar, if it applies to documents of another one. -/
def exportedInjection? (r : Registry) (baseId : GrammarId) (base : Grammar) (g : Grammar)
    (id : GrammarId) : Option (GrammarId × Injection) :=
  if id = baseId || r.idByScopeName? g.scopeName != some id || !r.exportsTo base g then none
  else g.exported.map (id, ·)

/-- The injections into documents of a grammar. -/
def injectionsFor (r : Registry) (baseId : GrammarId) :
    Except Fault (List (GrammarId × Injection)) := do
  let base ← r.grammar baseId
  let own := base.injections.map (baseId, ·)
  pure (own ++ r.grammars.toList.zipIdx.filterMap fun (g, id) ↦
    r.exportedInjection? baseId base g id)

end Registry

end ScopeGrammar
