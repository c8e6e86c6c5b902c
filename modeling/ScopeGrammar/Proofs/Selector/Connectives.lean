import ScopeGrammar.Proofs.Selector.Derivation

/-!
# Selectors made of selectors

What a separator, or a minus sign and a pair of parentheses, make of the texts of other selectors.
The texts are put together from signs and other texts, so their tokens are those of the parts with
the signs between them (`Lexes.append_sign`), and they derive from the grammar in the way the parts
do:

* with a separator, the terms of the one selector come before those of the other, so that the first
  that holds is looked for in the one and then in the other (`precedence?_join`);
* in parentheses, the terms become alternatives, and one of these holds if and only if one of the
  terms does. No mark is possible there, so only a selector without marks has a complement
  (`precedence?_complement`).
-/

namespace ScopeGrammar

namespace SelectorSyntax

/-! ### Trees put together -/

/-- The terms of a selector, and after a separator those of another. -/
def Selector.append (s : Selector) : Selector → Selector
  | .one t => .more s t
  | .more s' t => .more (s.append s') t

theorem Selector.tokens_append (s s' : Selector) :
    (s.append s').tokens = s.tokens ++ .separator :: s'.tokens := by
  induction s' with
  | one t => rfl
  | more s' t ih => rw [append, tokens, ih, tokens, List.append_assoc, List.cons_append]

theorem Selector.terms_append (s s' : Selector) : (s.append s').terms = s.terms ++ s'.terms := by
  induction s' with
  | one t => rfl
  | more s' t ih => rw [append, terms, ih, terms, List.append_assoc]

theorem Selector.isMaximal_append {s s' : Selector} (hs : s.IsMaximal) (hs' : s'.IsMaximal) :
    (s.append s').IsMaximal := by
  rw [IsMaximal, terms_append, List.forall_mem_append]
  exact ⟨hs, hs'⟩

/-- What stands in the parentheses around a selector: its terms, without marks. -/
def Selector.alternatives : Selector → Disjunction
  | .one t => .one t.body
  | .more s t => .more s.alternatives t.body

theorem Term.tokens_of_mark {t : Term} (h : t.mark = none) : t.tokens = t.body.tokens := by
  rw [tokens, h]
  rfl

theorem Selector.tokens_alternatives {s : Selector} (h : ∀ t ∈ s.terms, t.mark = none) :
    s.alternatives.tokens = s.tokens := by
  induction s with
  | one t =>
    rw [alternatives, Disjunction.tokens, tokens, Term.tokens_of_mark (h t List.mem_cons_self)]
  | more s t ih =>
    rw [terms, List.forall_mem_append, List.forall_mem_singleton] at h
    rw [alternatives, Disjunction.tokens, tokens, ih h.1, Term.tokens_of_mark h.2]

theorem Selector.isMaximal_alternatives {s : Selector} (h : s.IsMaximal) :
    s.alternatives.IsMaximal := by
  induction s with
  | one t => exact h t List.mem_cons_self
  | more s t ih =>
    rw [IsMaximal, terms, List.forall_mem_append, List.forall_mem_singleton] at h
    exact ⟨ih h.1, h.2⟩

/-- **One of the alternatives holds if and only if one of the terms does.** -/
theorem Selector.holds_alternatives (s : Selector) (scopes : List ScopeName) :
    s.alternatives.condition.holds scopes =
      (s.terms.map Term.compiled).any (·.condition.holds scopes) := by
  induction s with
  | one t => simp [alternatives, Disjunction.condition, terms, Term.compiled]
  | more s t ih =>
    simp [alternatives, Disjunction.condition, ScopeCondition.holds, ih, terms, Term.compiled]

/-- A minus sign before a selector in parentheses. -/
def Selector.complement (s : Selector) : Selector :=
  .one ⟨none, .one (.minus (.parens s.alternatives))⟩

theorem Selector.tokens_complement {s : Selector} (h : ∀ t ∈ s.terms, t.mark = none) :
    s.complement.tokens = .minus :: .openParen :: (s.tokens ++ [.closeParen]) := by
  rw [← tokens_alternatives h]
  rfl

theorem Selector.isMaximal_complement {s : Selector} (h : s.IsMaximal) :
    s.complement.IsMaximal := by
  rw [IsMaximal, complement, terms, List.forall_mem_singleton]
  exact isMaximal_alternatives h

/-- The mark of a term is one of the tokens. -/
theorem Selector.mark_mem_tokens {s : Selector} {t : Term} {p : Precedence} (ht : t ∈ s.terms)
    (hp : t.mark = some p) : .mark p ∈ s.tokens := by
  have hmem : .mark p ∈ t.tokens := by simp [Term.tokens, hp]
  induction s with
  | one t' =>
    obtain rfl := List.mem_singleton.mp ht
    exact hmem
  | more s t' ih =>
    rw [tokens]
    rcases List.mem_append.mp ht with ht | ht
    · exact List.mem_append_left _ (ih ht)
    · obtain rfl := List.mem_singleton.mp ht
      exact List.mem_append_right _ (List.mem_cons_of_mem _ hmem)

end SelectorSyntax

namespace ScopeSelector

open SelectorSyntax

/-! ### Texts and trees -/

/-- A text whose tokens derive from the grammar is read as its derivation says. -/
theorem parse_of_lexes {source : String} {g : Selector}
    (hlexes : SelectorToken.Lexes source.toList g.tokens) (hm : g.IsMaximal) :
    parse source = .ok ⟨source, g.terms.map Term.compiled⟩ := by
  obtain ⟨st, c, htakes, hc, houter, hterms⟩ := Selector.takes hm
  exact parse_eq_ok_iff.mpr ⟨g.tokens, st, hlexes, htakes,
    SelectorReading.finish_eq_ok_iff.mpr (.inr ⟨c, hc, houter, hterms⟩), rfl⟩

/-- A name without two others. -/
theorem parse_without : parse "a -(b|c)" = .ok ⟨"a -(b|c)", [⟨.default,
    .both (.path [⟨["a"]⟩]) (.not (.either (.path [⟨["b"]⟩]) (.path [⟨["c"]⟩])))⟩]⟩ := by
  let g : Selector := .one ⟨none, .more (.one (.run ['a'] [])) (.minus (.parens (.more
    (.one (.one (.run ['b'] []))) (.one (.run ['c'] [])))))⟩
  have hspace : SelectorToken.continuesName ' ' = false := by
    simp [SelectorToken.continuesName, isWord_eq_false]
  have hbar := SelectorToken.continuesName_of_isSign .bar (by decide)
  have hclose := SelectorToken.continuesName_of_isSign .closeParen (by decide)
  have hlexes : SelectorToken.Lexes ['a', ' ', '-', '(', 'b', '|', 'c', ')'] g.tokens :=
    .token (SelectorToken.leads_letter (by decide) hspace) <| .space <| .sign .minus <|
      .sign .openParen <| .token (SelectorToken.leads_letter (by decide) hbar) <| .sign .bar <|
      .token (SelectorToken.leads_letter (by decide) hclose) <| .sign .closeParen .nil
  have hm : g.IsMaximal := by
    intro t ht
    rw [List.mem_singleton.mp ht]
    exact ⟨trivial, ⟨trivial, trivial⟩, fun h ↦ h.2⟩
  exact @parse_of_lexes "a -(b|c)" g hlexes hm

/-- A mark before parentheses. -/
theorem parse_marked : parse "L:(x)" = .ok ⟨"L:(x)", [⟨.left, .path [⟨["x"]⟩]⟩]⟩ := by
  let g : Selector := .one ⟨some .left, .one (.parens (.one (.one (.run ['x'] []))))⟩
  have hclose := SelectorToken.continuesName_of_isSign .closeParen (by decide)
  have hlexes : SelectorToken.Lexes ['L', ':', '(', 'x', ')'] g.tokens :=
    .token (.mark .left) <| .sign .openParen <|
      .token (SelectorToken.leads_letter (by decide) hclose) <| .sign .closeParen .nil
  have hm : g.IsMaximal := fun t ht ↦ (List.mem_singleton.mp ht) ▸ trivial
  exact @parse_of_lexes "L:(x)" g hlexes hm

/-- A selector with a term has been read from a text whose tokens derive from the grammar. -/
theorem exists_of_parse {source : String} {s : ScopeSelector} (h : parse source = .ok s)
    (hterms : s.terms ≠ []) :
    ∃ g : Selector, SelectorToken.Lexes source.toList g.tokens ∧ g.IsMaximal ∧
      s = ⟨source, g.terms.map Term.compiled⟩ := by
  obtain ⟨ts, st, hlexes, htakes, hfinish, -⟩ := parse_eq_ok_iff.mp h
  rcases htakes.derives hfinish with rfl | ⟨g, rfl⟩
  · obtain rfl := htakes.unique .nil
    exact absurd (Except.ok.inj hfinish).symm hterms
  · obtain ⟨g', htokens, hm⟩ := g.exists_maximal
    rw [← htokens] at hlexes
    exact ⟨g', hlexes, hm, terms_of_parse h hlexes hm⟩

/-- A term asks for no side if and only if it has no mark. -/
theorem precedence_eq_default_iff {source : String} {g : Selector} {t : Term}
    (hlexes : SelectorToken.Lexes source.toList g.tokens) (ht : t ∈ g.terms) :
    t.precedence = .default ↔ t.mark = none := by
  rw [Term.precedence]
  cases hmark : t.mark with
  | none => exact iff_of_true rfl rfl
  | some p =>
    refine iff_of_false (fun hp ↦ ?_) nofun
    rw [Option.getD_some] at hp
    exact hlexes.mark_default_not_mem (hp ▸ Selector.mark_mem_tokens ht hmark)

/-! ### What holds -/

theorem isSome_precedence? (s : ScopeSelector) (scopes : List ScopeName) :
    (s.precedence? scopes).isSome = s.terms.any (·.condition.holds scopes) := by
  rw [precedence?, Option.isSome_map, List.isSome_find?]

/-- Without marks all that is asked for is no side. -/
theorem precedence?_of_default {s : ScopeSelector} (h : ∀ t ∈ s.terms, t.precedence = .default)
    (scopes : List ScopeName) :
    s.precedence? scopes = if (s.precedence? scopes).isSome then some .default else none := by
  cases hp : s.precedence? scopes with
  | none => rfl
  | some p =>
    obtain ⟨t, ht, rfl⟩ := Option.map_eq_some_iff.mp hp
    rw [h t (List.mem_of_find?_eq_some ht)]
    rfl

/-! ### Disjunction -/

/-- **A separator makes an ordered choice**: what stands before it decides if it holds, and what
stands after it decides otherwise. So one more alternative takes no match away and changes the
precedence of none. -/
theorem precedence?_join {first second separator : String} {s t : ScopeSelector}
    (hs : parse first = .ok s) (hs' : s.terms ≠ []) (ht : parse second = .ok t) (ht' : t.terms ≠ [])
    (hseparator : separator ∈ [",", "|"]) :
    ∃ u, parse (first ++ separator ++ second) = .ok u ∧ ∀ scopes,
      u.precedence? scopes = (s.precedence? scopes).or (t.precedence? scopes) ∧
      ∀ p, s.precedence? scopes = some p → u.precedence? scopes = some p := by
  obtain ⟨g, hg, hgm, rfl⟩ := exists_of_parse hs hs'
  obtain ⟨g', hg', hgm', rfl⟩ := exists_of_parse ht ht'
  have hlexes : SelectorToken.Lexes (first ++ separator ++ second).toList (g.append g').tokens := by
    rw [Selector.tokens_append, String.toList_append, String.toList_append]
    rw [List.mem_pair] at hseparator
    rcases hseparator with rfl | rfl
    · rw [List.append_assoc]
      exact hg.append_sign .comma nofun hg'
    · rw [List.append_assoc]
      exact hg.append_sign .bar nofun hg'
  refine ⟨_, parse_of_lexes hlexes (Selector.isMaximal_append hgm hgm'), fun scopes ↦ ?_⟩
  have hor :
      precedence? ⟨first ++ separator ++ second, (g.append g').terms.map Term.compiled⟩ scopes =
      (precedence? ⟨first, g.terms.map Term.compiled⟩ scopes).or
        (precedence? ⟨second, g'.terms.map Term.compiled⟩ scopes) := by
    simp only [precedence?, Selector.terms_append, List.map_append, List.find?_append,
      Option.map_or]
  exact ⟨hor, fun p hp ↦ by rw [hor, hp, Option.some_or]⟩

/-- What the first selector leaves out goes to the left if the second one holds. -/
theorem precedence?_join_without : ∃ u, parse "a -(b|c),L:(x)" = .ok u ∧
    u.precedence? [⟨["a"]⟩, ⟨["x"]⟩] = some .default ∧
    u.precedence? [⟨["a"]⟩, ⟨["c"]⟩, ⟨["x", "y"]⟩] = some .left := by
  obtain ⟨u, hu, hor⟩ := precedence?_join parse_without (List.cons_ne_nil _ _) parse_marked
    (List.cons_ne_nil _ _) (List.mem_cons_self : "," ∈ [",", "|"])
  exact ⟨u, hu, (hor _).2 _ (by decide), (hor _).1.trans (by decide)⟩

/-! ### Negation -/

/-- A minus sign and parentheses around a selector without marks negate it and add none. -/
theorem exists_complement {source : String} {s : ScopeSelector} (hs : parse source = .ok s)
    (hs' : s.terms ≠ []) (hdefault : ∀ t ∈ s.terms, t.precedence = .default) :
    ∃ u, parse ("-(" ++ source ++ ")") = .ok u ∧ u.terms ≠ [] ∧
      (∀ t ∈ u.terms, t.precedence = .default) ∧
      ∀ scopes, (u.precedence? scopes).isSome = !(s.precedence? scopes).isSome := by
  obtain ⟨g, hg, hgm, rfl⟩ := exists_of_parse hs hs'
  have hmarks : ∀ t ∈ g.terms, t.mark = none := fun t ht ↦
    (precedence_eq_default_iff hg ht).mp (hdefault t.compiled (List.mem_map_of_mem ht))
  have hlexes : SelectorToken.Lexes ("-(" ++ source ++ ")").toList g.complement.tokens := by
    rw [Selector.tokens_complement hmarks, String.toList_append, String.toList_append]
    exact .sign .minus (.sign .openParen (hg.append_sign .closeParen nofun .nil))
  have hterms : g.complement.terms.map Term.compiled =
      [⟨.default, .not g.alternatives.condition⟩] := rfl
  refine ⟨_, parse_of_lexes hlexes (Selector.isMaximal_complement hgm), ?_, ?_, fun scopes ↦ ?_⟩
  · exact hterms ▸ List.cons_ne_nil _ _
  · rw [hterms, List.forall_mem_singleton]
  · rw [isSome_precedence?, isSome_precedence?]
    dsimp only
    rw [hterms, ← Selector.holds_alternatives, List.any_cons, List.any_nil, Bool.or_false,
      ScopeCondition.holds]

/-- **A minus sign before parentheses makes the complement** of a selector without marks, and done
twice it makes the selector again. -/
theorem precedence?_complement {source : String} {s : ScopeSelector} (hs : parse source = .ok s)
    (hs' : s.terms ≠ []) (hdefault : ∀ t ∈ s.terms, t.precedence = .default) :
    (∃ u, parse ("-(" ++ source ++ ")") = .ok u ∧ ∀ scopes,
      u.precedence? scopes = if (s.precedence? scopes).isSome then none else some .default) ∧
    ∃ v, parse ("-(-(" ++ source ++ "))") = .ok v ∧ ∀ scopes,
      v.precedence? scopes = s.precedence? scopes := by
  obtain ⟨u, hu, hu', hudefault, hsome⟩ := exists_complement hs hs' hdefault
  obtain ⟨v, hv, -, hvdefault, hvsome⟩ := exists_complement hu hu' hudefault
  have htwice : "-(-(" ++ source ++ "))" = "-(" ++ ("-(" ++ source ++ ")") ++ ")" :=
    String.toList_injective (by simp)
  refine ⟨⟨u, hu, fun scopes ↦ ?_⟩, v, htwice ▸ hv, fun scopes ↦ ?_⟩
  · rw [precedence?_of_default hudefault, hsome]
    cases (s.precedence? scopes).isSome <;> rfl
  · rw [precedence?_of_default hvdefault, hvsome, hsome, Bool.not_not,
      ← precedence?_of_default hdefault]

/-- The complement of a name without two others holds where one of these does. -/
theorem precedence?_complement_without :
    (∃ u, parse "-(a -(b|c))" = .ok u ∧ u.precedence? [⟨["a"]⟩] = none ∧
      u.precedence? [⟨["a"]⟩, ⟨["c", "x"]⟩] = some .default) ∧
    ∃ v, parse "-(-(a -(b|c)))" = .ok v ∧ v.precedence? [⟨["a"]⟩] = some .default := by
  obtain ⟨⟨u, hu, hnot⟩, v, hv, hsame⟩ :=
    precedence?_complement parse_without (List.cons_ne_nil _ _) (by decide)
  exact ⟨⟨u, hu, (hnot _).trans (by decide), (hnot _).trans (by decide)⟩,
    v, hv, (hsame _).trans (by decide)⟩

end ScopeSelector

end ScopeGrammar
