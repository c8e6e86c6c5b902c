import Mathlib.Data.List.Forall2
import ScopeGrammar.Selector.Parser

/-!
# The grammar of selectors

A tree for each way in which tokens derive from the grammar of selectors, with one constructor for
each of its rules: `tokens` is what a tree derives, and `Holds` is what it says about the scopes of
a place. The lists of the grammar grow to the right, so its trees lean to the left.

The grammar alone does not say where a run of names ends, as `a b` is a run of two names as well as
two runs of one. A tree `IsMaximal` if none of its runs directly follows another, so that every run
takes all the names it can; `exists_maximal` finds such a tree for whatever can be derived.
-/

namespace ScopeGrammar

namespace SelectorSyntax

mutual

/-- What a conjunction is made of. -/
inductive Expression where
  /-- A run of names, which is not empty. -/
  | run (first : List Char) (others : List (List Char))
  | minus (e : Expression)
  | parens (d : Disjunction)

/-- One expression or more. -/
inductive Conjunction where
  | one (e : Expression)
  | more (c : Conjunction) (e : Expression)

/-- One conjunction or more, with separators between them. -/
inductive Disjunction where
  | one (c : Conjunction)
  | more (d : Disjunction) (c : Conjunction)

end

/-- A conjunction with or without a mark before it. -/
structure Term where
  mark : Option Precedence
  body : Conjunction

/-- One term or more, with separators between them. -/
inductive Selector where
  | one (t : Term)
  | more (s : Selector) (t : Term)

/-! ### What is derived -/

mutual

/-- The tokens of an expression. -/
def Expression.tokens : Expression → List SelectorToken
  | .run first others => (first :: others).map .name
  | .minus e => .minus :: e.tokens
  | .parens d => .openParen :: (d.tokens ++ [.closeParen])

/-- The tokens of a conjunction. -/
def Conjunction.tokens : Conjunction → List SelectorToken
  | .one e => e.tokens
  | .more c e => c.tokens ++ e.tokens

/-- The tokens of a disjunction. -/
def Disjunction.tokens : Disjunction → List SelectorToken
  | .one c => c.tokens
  | .more d c => d.tokens ++ .separator :: c.tokens

end

/-- The tokens of a term. -/
def Term.tokens (t : Term) : List SelectorToken :=
  (t.mark.map .mark).toList ++ t.body.tokens

/-- The tokens of a selector. -/
def Selector.tokens : Selector → List SelectorToken
  | .one t => t.tokens
  | .more s t => s.tokens ++ .separator :: t.tokens

/-- The terms of a selector, from left to right. -/
def Selector.terms : Selector → List Term
  | .one t => [t]
  | .more s t => s.terms ++ [t]

/-! ### What is meant -/

/-- Names on a path of scopes: each covers a scope, in order, with any scopes between them. -/
def OnPath (names scopes : List ScopeName) : Prop :=
  ∃ found, found.Sublist scopes ∧ List.Forall₂ (fun n s ↦ n.covers s = true) names found

mutual

/-- What an expression says: a run is one path, and a minus sign negates the next expression. -/
def Expression.Holds (scopes : List ScopeName) : Expression → Prop
  | .run first others => OnPath ((first :: others).map ScopeName.ofList) scopes
  | .minus e => ¬ e.Holds scopes
  | .parens d => d.Holds scopes

/-- Expressions next to each other all have to hold. -/
def Conjunction.Holds (scopes : List ScopeName) : Conjunction → Prop
  | .one e => e.Holds scopes
  | .more c e => c.Holds scopes ∧ e.Holds scopes

/-- Of conjunctions with separators between them one has to hold. -/
def Disjunction.Holds (scopes : List ScopeName) : Disjunction → Prop
  | .one c => c.Holds scopes
  | .more d c => d.Holds scopes ∨ c.Holds scopes

end

/-- Where a term asks to be placed. -/
def Term.precedence (t : Term) : Precedence :=
  t.mark.getD .default

/-- The precedence of the first of some terms that holds, if one does. -/
inductive FirstHolding (scopes : List ScopeName) : List Term → Option Precedence → Prop
  | nil : FirstHolding scopes [] none
  | here {t : Term} {ts : List Term} :
      t.body.Holds scopes → FirstHolding scopes (t :: ts) (some t.precedence)
  | later {t : Term} {ts : List Term} {p : Option Precedence} :
      ¬ t.body.Holds scopes → FirstHolding scopes ts p → FirstHolding scopes (t :: ts) p

/-! ### Maximal runs -/

/-- Whether an expression is a run of names. -/
def Expression.IsRun : Expression → Prop
  | .run _ _ => True
  | _ => False

/-- Whether the last token of an expression is a name, so that a run ends there. -/
def Expression.EndsInRun : Expression → Prop
  | .run _ _ => True
  | .minus e => e.EndsInRun
  | .parens _ => False

/-- Whether the last token of a conjunction is a name. -/
def Conjunction.EndsInRun : Conjunction → Prop
  | .one e => e.EndsInRun
  | .more _ e => e.EndsInRun

mutual

/-- No run in an expression directly follows another. -/
def Expression.IsMaximal : Expression → Prop
  | .run _ _ => True
  | .minus e => e.IsMaximal
  | .parens d => d.IsMaximal

/-- No run in a conjunction directly follows another. -/
def Conjunction.IsMaximal : Conjunction → Prop
  | .one e => e.IsMaximal
  | .more c e => c.IsMaximal ∧ e.IsMaximal ∧ ¬ (c.EndsInRun ∧ e.IsRun)

/-- No run in a disjunction directly follows another. -/
def Disjunction.IsMaximal : Disjunction → Prop
  | .one c => c.IsMaximal
  | .more d c => d.IsMaximal ∧ c.IsMaximal

end

/-- No run in a selector directly follows another. -/
def Selector.IsMaximal (s : Selector) : Prop :=
  ∀ t ∈ s.terms, t.body.IsMaximal

/-- Adds names to the run in which an expression ends. -/
def Expression.extend (names : List (List Char)) : Expression → Expression
  | .run first others => .run first (others ++ names)
  | .minus e => .minus (e.extend names)
  | .parens d => .parens d

/-- Adds names to the run in which a conjunction ends. -/
def Conjunction.extend (names : List (List Char)) : Conjunction → Conjunction
  | .one e => .one (e.extend names)
  | .more c e => .more c (e.extend names)

/-- An expression that ends in a run of names is extended by the names behind it. -/
theorem Expression.tokens_extend (names : List (List Char)) :
    ∀ {e : Expression}, e.EndsInRun → (e.extend names).tokens = e.tokens ++ names.map .name
  | .run _ _, _ => by simp [Expression.extend, Expression.tokens]
  | .minus e, h => by
    simp [Expression.extend, Expression.tokens, Expression.tokens_extend names (e := e) h]

/-- A conjunction that ends in a run of names is extended by the names behind it. -/
theorem Conjunction.tokens_extend (names : List (List Char)) {c : Conjunction}
    (h : c.EndsInRun) : (c.extend names).tokens = c.tokens ++ names.map .name := by
  cases c with
  | one e => exact Expression.tokens_extend names h
  | more c e =>
    simp only [Conjunction.extend, Conjunction.tokens, List.append_assoc]
    rw [Expression.tokens_extend names h]

theorem Expression.isRun_extend {names : List (List Char)} {e : Expression} :
    (e.extend names).IsRun ↔ e.IsRun := by
  cases e <;> rfl

/-- Extending its last run leaves an expression maximal. -/
theorem Expression.isMaximal_extend {names : List (List Char)} :
    ∀ {e : Expression}, e.IsMaximal → (e.extend names).IsMaximal
  | .run _ _, _ => trivial
  | .minus e, h => Expression.isMaximal_extend (e := e) h
  | .parens _, h => h

/-- Extending its last run leaves a conjunction maximal. -/
theorem Conjunction.isMaximal_extend {names : List (List Char)} {c : Conjunction}
    (h : c.IsMaximal) : (c.extend names).IsMaximal := by
  cases c with
  | one e => exact Expression.isMaximal_extend h
  | more c e => exact ⟨h.1, Expression.isMaximal_extend h.2.1, by
      rw [Expression.isRun_extend]
      exact h.2.2⟩

mutual

/-- The tokens of an expression can be derived with runs that are as long as they can be. -/
theorem Expression.exists_maximal :
    ∀ e : Expression, ∃ e' : Expression, e'.tokens = e.tokens ∧ e'.IsMaximal
  | .run first others => ⟨.run first others, rfl, trivial⟩
  | .minus e => by
    obtain ⟨e', he, hm⟩ := e.exists_maximal
    exact ⟨.minus e', by rw [Expression.tokens, he, Expression.tokens], hm⟩
  | .parens d => by
    obtain ⟨d', hd, hm⟩ := d.exists_maximal
    exact ⟨.parens d', by rw [Expression.tokens, hd, Expression.tokens], hm⟩

/-- The tokens of a conjunction can be derived with runs that are as long as they can be. -/
theorem Conjunction.exists_maximal :
    ∀ c : Conjunction, ∃ c' : Conjunction, c'.tokens = c.tokens ∧ c'.IsMaximal
  | .one e => by
    obtain ⟨e', he, hm⟩ := e.exists_maximal
    exact ⟨.one e', he, hm⟩
  | .more c e => by
    obtain ⟨c', hc, hcm⟩ := c.exists_maximal
    obtain ⟨e', he, hem⟩ := e.exists_maximal
    by_cases hmeet : c'.EndsInRun ∧ e'.IsRun
    · -- the run goes to the one before it
      match e', hmeet.2 with
      | .run first others, _ =>
        refine ⟨c'.extend (first :: others), ?_, Conjunction.isMaximal_extend hcm⟩
        rw [Conjunction.tokens_extend _ hmeet.1, Conjunction.tokens, hc, ← he, Expression.tokens]
    · exact ⟨.more c' e', by rw [Conjunction.tokens, hc, he, Conjunction.tokens],
        hcm, hem, hmeet⟩

/-- The tokens of a disjunction can be derived with runs that are as long as they can be. -/
theorem Disjunction.exists_maximal :
    ∀ d : Disjunction, ∃ d' : Disjunction, d'.tokens = d.tokens ∧ d'.IsMaximal
  | .one c => by
    obtain ⟨c', hc, hm⟩ := c.exists_maximal
    exact ⟨.one c', hc, hm⟩
  | .more d c => by
    obtain ⟨d', hd, hdm⟩ := d.exists_maximal
    obtain ⟨c', hc, hcm⟩ := c.exists_maximal
    exact ⟨.more d' c', by rw [Disjunction.tokens, hd, hc, Disjunction.tokens], hdm, hcm⟩

end

/-- **The tokens of a term can be derived with runs that are as long as they can be**, so that there
is one derivation to speak of. -/
theorem Term.exists_maximal (t : Term) :
    ∃ t' : Term, t'.tokens = t.tokens ∧ t'.body.IsMaximal := by
  obtain ⟨c, hc, hm⟩ := t.body.exists_maximal
  exact ⟨⟨t.mark, c⟩, by rw [Term.tokens, hc, Term.tokens], hm⟩

/-- Whatever derives from the grammar derives from it with maximal runs. -/
theorem Selector.exists_maximal (s : Selector) :
    ∃ s' : Selector, s'.tokens = s.tokens ∧ s'.IsMaximal := by
  induction s with
  | one t =>
    obtain ⟨t', ht, hm⟩ := t.exists_maximal
    exact ⟨.one t', ht, by simpa [Selector.IsMaximal, Selector.terms] using hm⟩
  | more s t ih =>
    obtain ⟨s', hs, hsm⟩ := ih
    obtain ⟨t', ht, htm⟩ := t.exists_maximal
    refine ⟨.more s' t', by rw [Selector.tokens, hs, ht, Selector.tokens], fun u hu ↦ ?_⟩
    rcases List.mem_append.mp hu with hu | hu
    · exact hsm u hu
    · rw [List.mem_singleton.mp hu]
      exact htm

end SelectorSyntax

end ScopeGrammar
