import ScopeGrammar.Proofs.Selector.Reading

/-!
# What is read derives

The tokens that the reader has taken always spell trees of the grammar: one for every part that is
finished, in the level that is being read and in the levels around the open parentheses. This is
kept by every step (`SelectorReading.Spells.moves`), and at the end of the text one tree is left.

With the other direction, `ScopeSelector.parse_derives` is the whole specification of the reader of
selectors: it accepts the texts whose tokens are empty or derive from the grammar, gives each the
meaning of its derivation with maximal runs, and otherwise points into the text.
-/

namespace ScopeGrammar

open SelectorSyntax

/-! ### The tokens of a level -/

namespace SelectorSyntax

/-- The tokens of the finished alternatives, if there are any, with the separator after them. -/
def alternativeTokens : Option Disjunction → List SelectorToken
  | none => []
  | some d => d.tokens ++ [.separator]

/-- The tokens of the finished expressions, if there are any. -/
def conjunctionTokens : Option Conjunction → List SelectorToken
  | none => []
  | some c => c.tokens

/-- An expression under some minus signs. -/
def Expression.under (minuses : Nat) (e : Expression) : Expression :=
  match minuses with
  | 0 => e
  | n + 1 => .minus (e.under n)

theorem Expression.tokens_under (n : Nat) (e : Expression) :
    (e.under n).tokens = List.replicate n .minus ++ e.tokens := by
  induction n with
  | zero => rfl
  | succ n ih => rw [Expression.under, Expression.tokens, ih, List.replicate_succ, List.cons_append]

theorem Expression.condition_under (n : Nat) (e : Expression) :
    (e.under n).condition = SelectorLevel.negated n e.condition := by
  induction n with
  | zero => rfl
  | succ n ih => rw [Expression.under, Expression.condition, ih, SelectorLevel.negated]

end SelectorSyntax

namespace SelectorLevel

/-- The tokens that a level has been read from: its alternatives, its expressions, its minus signs
and the run of names that still grows. -/
def Spells (l : SelectorLevel) (ts : List SelectorToken) : Prop :=
  ∃ (d? : Option Disjunction) (c? : Option Conjunction) (names : List (List Char)),
    l.alternatives = d?.map Disjunction.condition ∧
    l.conjunction = c?.map Conjunction.condition ∧
    l.names.reverse = names.map ScopeName.ofList ∧
    ts = alternativeTokens d? ++ (conjunctionTokens c? ++
      (List.replicate l.minuses .minus ++ names.map .name))

theorem spells_empty : ({} : SelectorLevel).Spells [] :=
  ⟨none, none, [], rfl, rfl, rfl, rfl⟩

theorem spells_alternatives (d : Disjunction) :
    ({ alternatives := some d.condition } : SelectorLevel).Spells (d.tokens ++ [.separator]) :=
  ⟨some d, none, [], rfl, rfl, rfl, by simp [alternativeTokens, conjunctionTokens]⟩

variable {l : SelectorLevel} {ts : List SelectorToken}

theorem Spells.eq_nil (h : ({} : SelectorLevel).Spells ts) : ts = [] := by
  obtain ⟨d?, c?, names, ha, hc, hnames, rfl⟩ := h
  obtain rfl := Option.map_eq_none_iff.mp ha.symm
  obtain rfl := Option.map_eq_none_iff.mp hc.symm
  obtain rfl := List.map_eq_nil_iff.mp hnames.symm
  rfl

theorem Spells.name (h : l.Spells ts) (text : List Char) :
    ({ l with names := ScopeName.ofList text :: l.names }).Spells
      (ts ++ [SelectorToken.name text]) := by
  obtain ⟨d?, c?, names, ha, hc, hnames, rfl⟩ := h
  exact ⟨d?, c?, names ++ [text], ha, hc, by simp [hnames], by simp⟩

/-- The tokens of a level without a growing run. -/
theorem Spells.of_nil (h : l.Spells ts) (hl : l.names = []) :
    ∃ (d? : Option Disjunction) (c? : Option Conjunction),
      l.alternatives = d?.map Disjunction.condition ∧
      l.conjunction = c?.map Conjunction.condition ∧
      ts = alternativeTokens d? ++ (conjunctionTokens c? ++ List.replicate l.minuses .minus) := by
  obtain ⟨d?, c?, names, ha, hc, hnames, rfl⟩ := h
  rw [hl] at hnames
  obtain rfl := List.map_eq_nil_iff.mp hnames.symm
  exact ⟨d?, c?, ha, hc, by simp⟩

theorem Spells.minus (h : l.Spells ts) (hl : l.names = []) :
    ({ l with minuses := l.minuses + 1 }).Spells (ts ++ [SelectorToken.minus]) := by
  obtain ⟨d?, c?, ha, hc, rfl⟩ := h.of_nil hl
  exact ⟨d?, c?, [], ha, hc, by simp [hl], by simp [List.replicate_succ']⟩

/-- An expression takes the minus signs before it and goes to the end of the conjunction. -/
theorem Spells.addExpression (h : l.Spells ts) (hl : l.names = []) (e : Expression) :
    (l.addExpression e.condition).Spells (ts ++ e.tokens) := by
  obtain ⟨d?, c?, ha, hc, rfl⟩ := h.of_nil hl
  cases c? with
  | none =>
    refine ⟨d?, some (.one (e.under l.minuses)), [], ha, ?_, by simp [hl], ?_⟩
    · simp [SelectorLevel.addExpression, hc, Conjunction.condition, Expression.condition_under]
    · simp [SelectorLevel.addExpression, conjunctionTokens, Conjunction.tokens,
        Expression.tokens_under]
  | some c =>
    refine ⟨d?, some (.more c (e.under l.minuses)), [], ha, ?_, by simp [hl], ?_⟩
    · simp [SelectorLevel.addExpression, hc, Conjunction.condition, Expression.condition_under]
    · simp [SelectorLevel.addExpression, conjunctionTokens, Conjunction.tokens,
        Expression.tokens_under]

theorem Spells.endRun (h : l.Spells ts) : l.endRun.Spells ts := by
  by_cases hl : l.names = []
  · rwa [endRun_of_nil hl]
  · obtain ⟨d?, c?, names, ha, hc, hnames, rfl⟩ := h
    obtain ⟨first, others, rfl⟩ : ∃ first others, names = first :: others :=
      List.exists_cons_of_ne_nil fun hnil ↦ hl (by simpa [hnil] using hnames)
    have hbefore : ({ l with names := [] }).Spells (alternativeTokens d? ++
        (conjunctionTokens c? ++ List.replicate l.minuses SelectorToken.minus)) :=
      ⟨d?, c?, [], ha, hc, rfl, by simp⟩
    have hafter := hbefore.addExpression rfl (.run first others)
    have hpath : ({ l.addExpression (.path l.names.reverse) with names := [] } : SelectorLevel) =
        ({ l with names := [] }).addExpression (Expression.run first others).condition := by
      rw [hnames]
      rfl
    rw [endRun_of_ne_nil hl, hpath]
    simpa [Expression.tokens] using hafter

/-- A finished level spells a conjunction after its alternatives. -/
theorem Spells.finished {c : ScopeCondition} (h : l.Spells ts) (hc : l.finished = .ok c) :
    ∃ (d? : Option Disjunction) (c' : Conjunction),
      l.alternatives = d?.map Disjunction.condition ∧ c'.condition = c ∧
      ts = alternativeTokens d? ++ c'.tokens := by
  obtain ⟨hminuses, hconj⟩ := finished_eq_ok_iff.mp hc
  obtain ⟨d?, c?, ha, hc?, rfl⟩ := h.endRun.of_nil names_endRun
  rw [hconj] at hc?
  obtain ⟨c', rfl, hc'⟩ := Option.map_eq_some_iff.mp hc?.symm
  rw [alternatives_endRun] at ha
  exact ⟨d?, c', ha, hc', by simp [hminuses, conjunctionTokens]⟩

/-- A finished level spells a disjunction. -/
theorem Spells.disjunction {c : ScopeCondition} (h : l.Spells ts) (hc : l.finished = .ok c) :
    ∃ d : Disjunction, d.tokens = ts ∧ d.condition = l.disjunction c := by
  obtain ⟨d?, c', ha, rfl, rfl⟩ := h.finished hc
  cases d? with
  | none => exact ⟨.one c', rfl, by rw [SelectorLevel.disjunction, ha]; rfl⟩
  | some d =>
    refine ⟨.more d c', ?_, by rw [SelectorLevel.disjunction, ha]; rfl⟩
    rw [Disjunction.tokens, alternativeTokens, List.append_assoc, List.singleton_append]

end SelectorLevel

/-! ### The tokens of a state -/

/-- The tokens of a level and of those around it, which stand before its open parenthesis. A
parenthesis opens only where no run grows, and there are no alternatives outside. -/
inductive SelectorLevel.Stacked :
    SelectorLevel → List SelectorLevel → List SelectorToken → Prop
  | outermost {l : SelectorLevel} {ts : List SelectorToken} :
      l.Spells ts → l.alternatives = none → Stacked l [] ts
  | inside {l o : SelectorLevel} {outer : List SelectorLevel} {ts us : List SelectorToken} :
      Stacked o outer ts → o.names = [] → l.Spells us →
      Stacked l (o :: outer) (ts ++ .openParen :: us)

/-- What is read on in a level is read on in all. -/
theorem SelectorLevel.Stacked.append {l l' : SelectorLevel} {outer : List SelectorLevel}
    {ts vs : List SelectorToken} (h : l.Stacked outer ts)
    (ha : l'.alternatives = l.alternatives)
    (hs : ∀ us, l.Spells us → l'.Spells (us ++ vs)) : l'.Stacked outer (ts ++ vs) := by
  cases h with
  | outermost hl hnone => exact .outermost (hs _ hl) (ha.trans hnone)
  | inside ho hnames hl =>
    rw [List.append_assoc, List.cons_append]
    exact .inside ho hnames (hs _ hl)

/-- The tokens of the finished terms, with the separator after them. -/
inductive TermsSpell : List SelectorTerm → List SelectorToken → Prop
  | nil : TermsSpell [] []
  | cons {t : SelectorTerm} {ts : List SelectorTerm} (s : Selector) :
      TermsSpell (t :: ts) (s.tokens ++ [.separator])

namespace SelectorReading

/-- The tokens that the reader has taken: those of the finished terms, the mark and the levels. -/
def Spells (st : SelectorReading) (ts : List SelectorToken) : Prop :=
  ∃ before us, TermsSpell st.terms before ∧ st.level.Stacked st.outer us ∧
    ts = before ++ ((st.mark.map SelectorToken.mark).toList ++ us)

variable {st st' : SelectorReading} {ts : List SelectorToken}

theorem spells_empty : ({} : SelectorReading).Spells [] :=
  ⟨[], [], .nil, .outermost SelectorLevel.spells_empty rfl, rfl⟩

/-- Outside of parentheses a finished conjunction completes a selector. -/
theorem Spells.selector {c : ScopeCondition} (h : st.Spells ts)
    (hc : st.level.finished = .ok c) (houter : st.outer = []) : ∃ s : Selector, s.tokens = ts := by
  obtain ⟨before, us, hbefore, hus, rfl⟩ := h
  rw [houter] at hus
  cases hus with
  | outermost hl hnone =>
    obtain ⟨d?, c', ha, -, rfl⟩ := hl.finished hc
    rw [hnone] at ha
    obtain rfl := Option.map_eq_none_iff.mp ha.symm
    generalize st.terms = terms at hbefore
    cases hbefore with
    | nil => exact ⟨.one ⟨st.mark, c'⟩, rfl⟩
    | cons s =>
      exact ⟨.more s ⟨st.mark, c'⟩, by simp [Selector.tokens, Term.tokens, alternativeTokens]⟩

/-- **Every step keeps what is spelled**: the next token goes to the level that is being read, or
finishes one. -/
theorem Spells.moves {t : SelectorToken} (h : st.Spells ts) (hmoves : st.Moves t st') :
    st'.Spells (ts ++ [t]) := by
  cases hmoves with
  | name text =>
    obtain ⟨before, us, hbefore, hus, rfl⟩ := h
    exact ⟨before, _, hbefore, hus.append rfl fun _ hl ↦ hl.name text, by simp⟩
  | minus =>
    obtain ⟨before, us, hbefore, hus, rfl⟩ := h
    refine ⟨before, _, hbefore, hus.append SelectorLevel.alternatives_endRun fun _ hl ↦
      hl.endRun.minus SelectorLevel.names_endRun, by simp⟩
  | openParen =>
    obtain ⟨before, us, hbefore, hus, rfl⟩ := h
    have hus : st.level.endRun.Stacked st.outer (us ++ []) :=
      hus.append SelectorLevel.alternatives_endRun fun _ hl ↦ by simpa using hl.endRun
    rw [List.append_nil] at hus
    exact ⟨before, _, hbefore, .inside hus SelectorLevel.names_endRun SelectorLevel.spells_empty,
      by simp⟩
  | @closeParen c o outer hc houter =>
    obtain ⟨before, us, hbefore, hus, rfl⟩ := h
    rw [houter] at hus
    cases hus with
    | inside ho hnames hl =>
      obtain ⟨d, rfl, hd⟩ := hl.disjunction hc
      refine ⟨before, _ ++ (Expression.parens d).tokens, hbefore, ho.append rfl fun us hs ↦ ?_,
        by simp [Expression.tokens]⟩
      rw [← hd]
      exact hs.addExpression hnames (.parens d)
  | endAlternative hc houter =>
    obtain ⟨before, us, hbefore, hus, rfl⟩ := h
    obtain ⟨o, outer, houter⟩ := List.exists_cons_of_ne_nil houter
    rw [houter] at hus
    cases hus with
    | inside ho hnames hl =>
      obtain ⟨d, rfl, hd⟩ := hl.disjunction hc
      have hstacked := SelectorLevel.Stacked.inside ho hnames (SelectorLevel.spells_alternatives d)
      rw [hd, ← houter] at hstacked
      exact ⟨before, _, hbefore, hstacked, by simp⟩
  | endTerm hc houter =>
    obtain ⟨s, rfl⟩ := h.selector hc houter
    exact ⟨_, [], .cons s, .outermost SelectorLevel.spells_empty rfl, by simp⟩
  | mark p hstart =>
    obtain ⟨before, us, hbefore, hus, rfl⟩ := h
    simp only [atTermStart, Bool.and_eq_true, beq_iff_eq, Option.isNone_iff_eq_none,
      List.isEmpty_iff] at hstart
    obtain ⟨⟨hmark, hlevel⟩, houter⟩ := hstart
    rw [hlevel, houter] at hus
    cases hus with
    | outermost hl hnone =>
      obtain rfl := hl.eq_nil
      refine ⟨before, [], hbefore, ?_, by simp [hmark]⟩
      rw [hlevel, houter]
      exact .outermost SelectorLevel.spells_empty rfl

theorem Spells.takes {us : List SelectorToken} (h : st.Spells ts) (htakes : st.Takes us st') :
    st'.Spells (ts ++ us) := by
  induction htakes generalizing ts with
  | nil => simpa using h
  | cons hmoves _ ih => simpa using ih (h.moves hmoves)

/-- What the reader accepts is empty or derives from the grammar. -/
theorem Takes.derives {terms : List SelectorTerm}
    (htakes : ({} : SelectorReading).Takes ts st) (h : st.finish = .ok terms) :
    ts = [] ∨ ∃ s : Selector, s.tokens = ts := by
  have hspells := spells_empty.takes htakes
  rw [List.nil_append] at hspells
  obtain ⟨hstart, hterms, -⟩ | ⟨c, hc, houter, -⟩ := finish_eq_ok_iff.mp h
  · obtain ⟨before, us, hbefore, hus, rfl⟩ := hspells
    simp only [atTermStart, Bool.and_eq_true, beq_iff_eq, Option.isNone_iff_eq_none,
      List.isEmpty_iff] at hstart
    obtain ⟨⟨hmark, hlevel⟩, houter⟩ := hstart
    rw [hlevel, houter] at hus
    rw [hterms] at hbefore
    cases hus with
    | outermost hl hnone =>
      obtain rfl := hl.eq_nil
      cases hbefore
      exact .inl (by simp [hmark])
  · exact .inr (hspells.selector hc houter)

end SelectorReading

/-! ### The whole reader -/

namespace ScopeSelector

/-- What the reader accepts: the text splits into tokens, and these lead to the terms. -/
theorem parse_eq_ok_iff {source : String} {s : ScopeSelector} :
    parse source = .ok s ↔
      ∃ ts st, SelectorToken.Lexes source.toList ts ∧ SelectorReading.Takes {} ts st ∧
        st.finish = .ok s.terms ∧ s.source = source := by
  rw [parse]
  constructor
  · intro h
    split at h
    · cases h
    · rename_i pts hpts
      split at h
      · rename_i terms hterms
        cases h
        obtain ⟨st, htakes, hfinish⟩ := SelectorReading.run_eq_ok_iff.mp hterms
        exact ⟨_, st, SelectorToken.lexes_of_tokenize hpts, htakes, hfinish, rfl⟩
      · cases h
  · rintro ⟨ts, st, hlexes, htakes, hfinish, rfl⟩
    obtain ⟨pts, hpts, rfl⟩ := SelectorToken.tokenize_of_lexes hlexes 0
    rw [hpts]
    dsimp only
    rw [SelectorReading.run_eq_ok_iff.mpr ⟨st, htakes, hfinish⟩]

/-- The terms that are read are those of any derivation with maximal runs. -/
theorem terms_of_parse {source : String} {s : ScopeSelector} {g : Selector}
    (h : parse source = .ok s) (hlexes : SelectorToken.Lexes source.toList g.tokens)
    (hm : g.IsMaximal) : s = ⟨source, g.terms.map Term.compiled⟩ := by
  obtain ⟨ts, st, hlexes', htakes, hfinish, hsource⟩ := parse_eq_ok_iff.mp h
  obtain rfl := hlexes.unique hlexes'
  obtain ⟨st', c, htakes', hc, houter, hterms⟩ := Selector.takes hm
  obtain rfl := htakes.unique htakes'
  have hfinish' := SelectorReading.finish_eq_ok_iff.mpr (.inr ⟨c, hc, houter, hterms⟩)
  rw [← hsource, ← Except.ok.inj (hfinish.symm.trans hfinish')]

/-- The position of an error is one of the text. -/
theorem position_le_of_parse {source : String} {position : Nat} {e : SelectorError}
    (h : parse source = .error (position, e)) : position ≤ byteLength source.toList := by
  have hle := SelectorToken.position_le_of_tokenize 0 source.toList
  rw [Nat.zero_add] at hle
  rw [parse] at h
  split at h
  · rename_i p hp
    cases h
    rw [hp] at hle
    exact hle
  · rename_i pts hpts
    rw [hpts] at hle
    split at h
    · cases h
    · rename_i err herr
      cases h
      rcases SelectorReading.position_of_run herr with rfl | hmem
      · exact Nat.le_refl _
      · obtain ⟨q, hq, rfl⟩ := List.mem_map.mp hmem
        exact hle q hq

/-- **The reader accepts what the grammar derives and means what it says.** A text is accepted if
and only if it splits into tokens that are none or derive from the grammar of selectors. What is
accepted has a derivation with maximal runs, unless there are no tokens, and by any of these the
selector gives the precedence of the first term that holds. What is refused is refused at a position
of the text. -/
theorem parse_derives (source : String) :
    ((∃ s, parse source = .ok s) ↔
      ∃ ts, SelectorToken.Lexes source.toList ts ∧ (ts = [] ∨ ∃ g : Selector, g.tokens = ts)) ∧
    (∀ s, parse source = .ok s → ∃ ts, SelectorToken.Lexes source.toList ts ∧
      (ts = [] ∧ (∀ scopes, s.precedence? scopes = none) ∨
        (∃ g : Selector, g.tokens = ts ∧ g.IsMaximal) ∧
        ∀ g : Selector, g.tokens = ts → g.IsMaximal →
          ∀ scopes, FirstHolding scopes g.terms (s.precedence? scopes))) ∧
    (∀ position e, parse source = .error (position, e) →
      position ≤ byteLength source.toList) := by
  refine ⟨⟨?_, ?_⟩, ?_, fun _ _ ↦ position_le_of_parse⟩
  · rintro ⟨s, h⟩
    obtain ⟨ts, st, hlexes, htakes, hfinish, -⟩ := parse_eq_ok_iff.mp h
    exact ⟨ts, hlexes, htakes.derives hfinish⟩
  · rintro ⟨ts, hlexes, rfl | ⟨g, rfl⟩⟩
    · exact ⟨⟨source, []⟩, parse_eq_ok_iff.mpr ⟨[], {}, hlexes, .nil, rfl, rfl⟩⟩
    · obtain ⟨g', htokens, hm⟩ := g.exists_maximal
      obtain ⟨st, c, htakes, hc, houter, hterms⟩ := Selector.takes hm
      rw [htokens] at htakes
      exact ⟨⟨source, g'.terms.map Term.compiled⟩,
        parse_eq_ok_iff.mpr ⟨g.tokens, st, hlexes, htakes,
        SelectorReading.finish_eq_ok_iff.mpr (.inr ⟨c, hc, houter, hterms⟩), rfl⟩⟩
  · intro s h
    obtain ⟨ts, st, hlexes, htakes, hfinish, hsource⟩ := parse_eq_ok_iff.mp h
    refine ⟨ts, hlexes, ?_⟩
    rcases htakes.derives hfinish with rfl | ⟨g, rfl⟩
    · refine .inl ⟨rfl, fun scopes ↦ ?_⟩
      obtain rfl := htakes.unique .nil
      rw [precedence?, ← Except.ok.inj hfinish]
      rfl
    · refine .inr ⟨?_, fun g' htokens hm scopes ↦ ?_⟩
      · obtain ⟨g', htokens, hm⟩ := g.exists_maximal
        exact ⟨g', htokens, hm⟩
      · rw [terms_of_parse h (htokens ▸ hlexes) hm]
        exact firstHolding_find? g'.terms

/-- A mark and the name without segments, which covers every scope. -/
theorem parse_derives_mark :
    ∃ s, parse "L:." = .ok s ∧ s.precedence? (ScopeName.listOfString "source") = some .left := by
  let g : Selector := .one ⟨some .left, .one (.run ['.'] [])⟩
  have hname : SelectorToken.Leads ['.'] (.name ['.']) [] :=
    @SelectorToken.Leads.name '.' [] [] (fun _ _ hmark ↦ nomatch hmark) rfl nofun nofun
  have hlexes : SelectorToken.Lexes "L:.".toList g.tokens :=
    .token (.mark .left) (.token hname .nil)
  have hm : g.IsMaximal := by
    intro t ht
    rw [List.mem_singleton.mp ht]
    trivial
  obtain ⟨haccepts, hmeans, -⟩ := parse_derives "L:."
  obtain ⟨s, hs⟩ := haccepts.mpr ⟨_, hlexes, .inr ⟨g, rfl⟩⟩
  obtain ⟨ts, hts, h⟩ := hmeans s hs
  obtain rfl := hlexes.unique hts
  rcases h with ⟨hnil, -⟩ | ⟨-, h⟩
  · cases hnil
  · refine ⟨s, hs, ?_⟩
    have hfirst := h g rfl hm (ScopeName.listOfString "source")
    generalize s.precedence? _ = p at hfirst
    cases hfirst with
    | here => rfl
    | later hnot _ => exact absurd ((Conjunction.holds_condition _).mp (by decide)) hnot

end ScopeSelector

end ScopeGrammar
