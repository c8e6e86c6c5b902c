import ScopeGrammar.Proofs.Faultless
import ScopeGrammar.Proofs.Selector.Lexing
import ScopeGrammar.Proofs.Selector.Syntax

/-!
# What derives can be read

`SelectorReading.Moves` says once what a step of the reader can do, and `Takes` follows the reader
through some tokens. A tree of the grammar with maximal runs is taken by induction on the tree: each
rule of the grammar says what has to become of the level that is being read. The condition that
comes out is the tree's own, and it holds where the tree does.
-/

namespace ScopeGrammar

/-! ### Steps and levels -/

namespace SelectorReading

/-- What a step of the reader can do. -/
inductive Moves (st : SelectorReading) : SelectorToken → SelectorReading → Prop
  | name (text : List Char) :
      Moves st (.name text)
        { st with level := { st.level with names := ScopeName.ofList text :: st.level.names } }
  | minus :
      Moves st .minus
        { st with level := { st.level.endRun with minuses := st.level.endRun.minuses + 1 } }
  | openParen : Moves st .openParen { st with level := {}, outer := st.level.endRun :: st.outer }
  | closeParen {c : ScopeCondition} {l : SelectorLevel} {outer : List SelectorLevel} :
      st.level.finished = .ok c → st.outer = l :: outer →
      Moves st .closeParen
        { st with level := l.addExpression (st.level.disjunction c), outer := outer }
  | endAlternative {c : ScopeCondition} :
      st.level.finished = .ok c → st.outer ≠ [] →
      Moves st .separator { st with level := { alternatives := some (st.level.disjunction c) } }
  | endTerm {c : ScopeCondition} :
      st.level.finished = .ok c → st.outer = [] →
      Moves st .separator { terms := ⟨st.mark.getD .default, c⟩ :: st.terms }
  | mark (p : Precedence) :
      st.atTermStart = true → Moves st (.mark p) { st with mark := some p }

/-- Reading a token succeeds just if it is one of the moves, and leads where the move says. -/
theorem step_eq_ok_iff {st st' : SelectorReading} {t : SelectorToken} :
    st.step t = .ok st' ↔ st.Moves t st' := by
  constructor
  · intro h
    cases t with
    | name text =>
      cases h
      exact .name text
    | minus =>
      cases h
      exact .minus
    | openParen =>
      cases h
      exact .openParen
    | closeParen =>
      obtain ⟨c, hc, h⟩ := exists_of_bind_eq_ok h
      split at h
      · cases h
      · rename_i houter
        cases h
        exact .closeParen hc houter
    | separator =>
      obtain ⟨c, hc, h⟩ := exists_of_bind_eq_ok h
      split at h
      · rename_i houter
        cases h
        exact .endTerm hc houter
      · rename_i houter
        cases h
        exact .endAlternative hc (houter ▸ List.cons_ne_nil _ _)
    | mark p =>
      simp only [step] at h
      split at h
      · rename_i hstart
        cases h
        exact .mark p hstart
      · obtain ⟨c, -, h⟩ := exists_of_bind_eq_ok h
        cases h
  · rintro (text | _ | _ | ⟨hc, houter⟩ | ⟨hc, houter⟩ | ⟨hc, houter⟩ | ⟨p, hstart⟩)
    · rfl
    · rfl
    · rfl
    · simp only [step, hc, houter]
      rfl
    · obtain ⟨o, outer, houter⟩ := List.exists_cons_of_ne_nil houter
      simp only [step, hc, houter]
      rfl
    · simp only [step, hc, houter]
      rfl
    · exact if_pos hstart

/-- The reader gets from one state to another by some tokens. -/
inductive Takes : SelectorReading → List SelectorToken → SelectorReading → Prop
  | nil {st : SelectorReading} : Takes st [] st
  | cons {st st' st'' : SelectorReading} {t : SelectorToken} {ts : List SelectorToken} :
      st.Moves t st' → Takes st' ts st'' → Takes st (t :: ts) st''

theorem Takes.one {st st' : SelectorReading} {t : SelectorToken} (h : st.Moves t st') :
    st.Takes [t] st' :=
  .cons h .nil

/-- Tokens that are taken one part after the other are taken as a whole. -/
theorem Takes.append {st st' st'' : SelectorReading} {ts us : List SelectorToken}
    (h : st.Takes ts st') (h' : st'.Takes us st'') : st.Takes (ts ++ us) st'' := by
  induction h with
  | nil => exact h'
  | cons hstep _ ih => exact .cons hstep (ih h')

/-- Tokens lead to one state only. -/
theorem Takes.unique {st st' st'' : SelectorReading} {ts : List SelectorToken}
    (h : st.Takes ts st') (h' : st.Takes ts st'') : st' = st'' := by
  induction h with
  | nil =>
    cases h'
    rfl
  | cons hmoves _ ih =>
    cases h' with
    | cons hmoves' htakes' =>
      have heq := (step_eq_ok_iff.mpr hmoves).symm.trans
        (step_eq_ok_iff.mpr hmoves')
      rw [← Except.ok.inj heq] at htakes'
      exact ih htakes'

/-- What the reader returns at the end of the text. -/
theorem finish_eq_ok_iff {st : SelectorReading} {terms : List SelectorTerm} :
    st.finish = .ok terms ↔
      (st.atTermStart = true ∧ st.terms = [] ∧ terms = []) ∨
      ∃ c, st.level.finished = .ok c ∧ st.outer = [] ∧
        terms = (⟨st.mark.getD .default, c⟩ :: st.terms).reverse := by
  have hempty : ∀ c, st.level.finished = .ok c → st.atTermStart = false := by
    intro c hc
    by_contra hstart
    simp only [atTermStart, Bool.not_eq_false, Bool.and_eq_true, beq_iff_eq] at hstart
    rw [hstart.1.2] at hc
    cases hc
  unfold finish
  split
  · rename_i hstart
    constructor
    · intro h
      split at h
      · rename_i hterms
        cases h
        exact .inl ⟨hstart, hterms, rfl⟩
      · cases h
    · rintro (⟨-, hterms, rfl⟩ | ⟨c, hc, -⟩)
      · rw [hterms]
      · rw [hempty c hc] at hstart
        cases hstart
  · rename_i hstart
    constructor
    · intro h
      obtain ⟨c, hc, h⟩ := exists_of_bind_eq_ok h
      split at h
      · rename_i houter
        cases h
        exact .inr ⟨c, hc, houter, rfl⟩
      · cases h
    · rintro (⟨hstart', -⟩ | ⟨c, hc, houter, rfl⟩)
      · exact absurd hstart' hstart
      · simp only [hc, houter]
        rfl

/-- A run of the reader takes all tokens and finishes where they lead. -/
theorem run_eq_ok_iff {stop : Nat} {st : SelectorReading} {pts : List (Nat × SelectorToken)}
    {terms : List SelectorTerm} :
    run stop st pts = .ok terms ↔
      ∃ st', st.Takes (pts.map (·.2)) st' ∧ st'.finish = .ok terms := by
  induction pts generalizing st with
  | nil =>
    rw [run]
    constructor
    · intro h
      refine ⟨st, .nil, ?_⟩
      cases hf : st.finish with
      | ok terms' =>
        rw [hf] at h
        exact congrArg Except.ok (Except.ok.inj h)
      | error e =>
        rw [hf] at h
        cases h
    · rintro ⟨_, ⟨⟩, h⟩
      rw [h]
      rfl
  | cons q pts ih =>
    rw [run]
    constructor
    · intro h
      split at h
      · rename_i st' hstep
        obtain ⟨st'', htakes, hfinish⟩ := ih.mp h
        exact ⟨st'', .cons (step_eq_ok_iff.mp hstep) htakes, hfinish⟩
      · cases h
    · rintro ⟨st'', ⟨⟩ | ⟨hmoves, htakes⟩, hfinish⟩
      rw [step_eq_ok_iff.mpr hmoves]
      exact ih.mpr ⟨st'', htakes, hfinish⟩

/-- The position of an error is that of a token, or the end of the text. -/
theorem position_of_run {stop position : Nat} {e : SelectorError} {st : SelectorReading}
    {pts : List (Nat × SelectorToken)} (h : run stop st pts = .error (position, e)) :
    position = stop ∨ position ∈ pts.map (·.1) := by
  induction pts generalizing st with
  | nil =>
    rw [run] at h
    cases hf : st.finish with
    | ok terms =>
      rw [hf] at h
      cases h
    | error e' =>
      rw [hf] at h
      exact .inl (congrArg Prod.fst (Except.error.inj h)).symm
  | cons q pts ih =>
    rw [run] at h
    rw [List.map_cons, List.mem_cons]
    split at h
    · exact (ih h).imp_right .inr
    · exact .inr (.inl (congrArg Prod.fst (Except.error.inj h)).symm)

end SelectorReading

namespace SelectorLevel

/-- Without names there is no run to end. -/
theorem endRun_of_nil {l : SelectorLevel} (h : l.names = []) : l.endRun = l := by
  rw [endRun, h]

/-- Names that were read make a path, in the order in which they were read. -/
theorem endRun_of_ne_nil {l : SelectorLevel} (h : l.names ≠ []) :
    l.endRun = { l.addExpression (.path l.names.reverse) with names := [] } := by
  unfold endRun
  split
  · contradiction
  · rfl

@[simp] theorem names_addExpression {l : SelectorLevel} {c : ScopeCondition} :
    (l.addExpression c).names = l.names := rfl

@[simp] theorem alternatives_addExpression {l : SelectorLevel} {c : ScopeCondition} :
    (l.addExpression c).alternatives = l.alternatives := rfl

/-- No names are left when a run is ended. -/
@[simp] theorem names_endRun {l : SelectorLevel} : l.endRun.names = [] := by
  unfold endRun
  split <;> first | assumption | rfl

/-- Ending a run adds to the last alternative and leaves the others. -/
@[simp] theorem alternatives_endRun {l : SelectorLevel} :
    l.endRun.alternatives = l.alternatives := by
  unfold endRun
  split <;> rfl

/-- A sign of negation before a negated condition counts as one more. -/
theorem negated_not (n : Nat) (c : ScopeCondition) : negated n (.not c) = negated (n + 1) c := by
  induction n with
  | zero => rfl
  | succ n ih => rw [negated, ih, negated, negated, negated]

/-- One more minus sign before an expression negates it. -/
theorem addExpression_minus (l : SelectorLevel) (c : ScopeCondition) :
    ({ l with minuses := l.minuses + 1 }).addExpression c = l.addExpression (.not c) := by
  rw [addExpression, addExpression, negated_not]

/-- A level with a conjunction and without further minus signs is finished. -/
theorem finished_eq_ok_iff {l : SelectorLevel} {c : ScopeCondition} :
    l.finished = .ok c ↔ l.endRun.minuses = 0 ∧ l.endRun.conjunction = some c := by
  unfold finished
  dsimp only
  split
  · rename_i h
    exact ⟨nofun, fun h' ↦ absurd h'.1 h⟩
  · rename_i h
    rw [not_not] at h
    split
    · rename_i hc
      rw [hc, Except.ok.injEq, Option.some.injEq]
      exact ⟨fun h' ↦ ⟨h, h'⟩, fun h' ↦ h'.2⟩
    · rename_i hc
      rw [hc]
      exact ⟨nofun, fun h' ↦ nomatch h'.2⟩

end SelectorLevel

/-! ### Conditions for trees -/

namespace SelectorSyntax

mutual

/-- The condition that an expression is read as. -/
def Expression.condition : Expression → ScopeCondition
  | .run first others => .path ((first :: others).map ScopeName.ofList)
  | .minus e => .not e.condition
  | .parens d => d.condition

/-- The condition that a conjunction is read as. -/
def Conjunction.condition : Conjunction → ScopeCondition
  | .one e => e.condition
  | .more c e => .both c.condition e.condition

/-- The condition that a disjunction is read as. -/
def Disjunction.condition : Disjunction → ScopeCondition
  | .one c => c.condition
  | .more d c => .either d.condition c.condition

end

/-- The term of a selector that a term is read as. -/
def Term.compiled (t : Term) : SelectorTerm :=
  ⟨t.precedence, t.body.condition⟩

/-- To give every name the first scope that it covers is to find the names on the path. -/
theorem pathHolds_iff {names scopes : List ScopeName} :
    ScopeCondition.pathHolds names scopes = true ↔ OnPath names scopes := by
  fun_induction ScopeCondition.pathHolds names scopes with
  | case1 scopes => exact ⟨fun _ ↦ ⟨[], scopes.nil_sublist, .nil⟩, fun _ ↦ rfl⟩
  | case2 n ns =>
    refine ⟨nofun, ?_⟩
    rintro ⟨found, hsub, hfound⟩
    obtain rfl := List.sublist_nil.mp hsub
    cases hfound
  | case3 n ns s scopes hcovers ih =>
    rw [ih]
    constructor
    · rintro ⟨found, hsub, hfound⟩
      exact ⟨s :: found, hsub.cons_cons s, .cons hcovers hfound⟩
    · rintro ⟨_, hsub, hnames⟩
      obtain ⟨s', found, -, hfound, rfl⟩ := List.forall₂_cons_left_iff.mp hnames
      exact ⟨found, hsub.of_cons_cons, hfound⟩
  | case4 n ns s scopes hcovers ih =>
    rw [ih]
    constructor
    · rintro ⟨found, hsub, hfound⟩
      exact ⟨found, hsub.cons s, hfound⟩
    · rintro ⟨_, hsub, hnames⟩
      obtain ⟨s', found, hs', hfound, rfl⟩ := List.forall₂_cons_left_iff.mp hnames
      cases hsub with
      | cons _ hsub => exact ⟨s' :: found, hsub, .cons hs' hfound⟩
      | cons_cons => exact absurd hs' hcovers

mutual

/-- The condition of an expression holds of scopes just if the expression does. -/
theorem Expression.holds_condition {scopes : List ScopeName} :
    ∀ e : Expression, e.condition.holds scopes = true ↔ e.Holds scopes
  | .run first others => by
    rw [Expression.condition, ScopeCondition.holds, pathHolds_iff, Expression.Holds]
  | .minus e => by
    rw [Expression.condition, ScopeCondition.holds, Expression.Holds,
      ← Expression.holds_condition e, Bool.not_eq_true', Bool.not_eq_true]
  | .parens d => by
    rw [Expression.condition, Expression.Holds, Disjunction.holds_condition d]

/-- The condition of a conjunction holds of scopes just if the conjunction does. -/
theorem Conjunction.holds_condition {scopes : List ScopeName} :
    ∀ c : Conjunction, c.condition.holds scopes = true ↔ c.Holds scopes
  | .one e => by
    rw [Conjunction.condition, Conjunction.Holds, Expression.holds_condition e]
  | .more c e => by
    rw [Conjunction.condition, ScopeCondition.holds, Bool.and_eq_true, Conjunction.Holds,
      Conjunction.holds_condition c, Expression.holds_condition e]

/-- The condition of a disjunction holds of scopes just if the disjunction does. -/
theorem Disjunction.holds_condition {scopes : List ScopeName} :
    ∀ d : Disjunction, d.condition.holds scopes = true ↔ d.Holds scopes
  | .one c => by
    rw [Disjunction.condition, Disjunction.Holds, Conjunction.holds_condition c]
  | .more d c => by
    rw [Disjunction.condition, ScopeCondition.holds, Bool.or_eq_true, Disjunction.Holds,
      Disjunction.holds_condition d, Conjunction.holds_condition c]

end

/-- A minus sign reaches to the end of the next expression, here a parenthesis. -/
example : (Conjunction.more (.one (.run ['f'] [['b']])) (.minus (.parens (.more
    (.one (.one (.run ['y'] []))) (.one (.run ['m'] [])))))).condition.holds
      (ScopeName.listOfString "f b y") = false := by
  decide

/-- The precedence that a selector gives is that of the first term that holds. -/
theorem firstHolding_find? {scopes : List ScopeName} {source : String} (ts : List Term) :
    FirstHolding scopes ts
      (ScopeSelector.precedence? ⟨source, ts.map Term.compiled⟩ scopes) := by
  induction ts with
  | nil => exact .nil
  | cons t ts ih =>
    rw [ScopeSelector.precedence?, List.map_cons, List.find?_cons]
    by_cases ht : t.body.Holds scopes
    · have hfind : t.compiled.condition.holds scopes = true := t.body.holds_condition.mpr ht
      rw [hfind]
      exact .here ht
    · have hfind : t.compiled.condition.holds scopes = false := by
        rw [← Bool.not_eq_true, Term.compiled, t.body.holds_condition]
        exact ht
      rw [hfind]
      exact .later ht ih

/-! ### What derives can be taken -/

/-- Names are taken into the run that is being read. -/
theorem takes_names (names : List (List Char)) (st : SelectorReading) :
    st.Takes (names.map .name) { st with level := { st.level with
      names := (names.map ScopeName.ofList).reverse ++ st.level.names } } := by
  induction names generalizing st with
  | nil => exact .nil
  | cons name names ih =>
    refine .cons (.name name) ?_
    simpa using ih { st with level := { st.level with
      names := ScopeName.ofList name :: st.level.names } }

/-- A run that nothing precedes becomes one path. -/
theorem endRun_names {l : SelectorLevel} {names : List ScopeName} (hl : l.names = [])
    (hnames : names ≠ []) :
    ({ l with names := names.reverse }).endRun = l.addExpression (.path names) := by
  rw [SelectorLevel.endRun_of_ne_nil (by simpa using hnames), List.reverse_reverse]
  cases l
  cases hl
  rfl

mutual

/-- The reader takes an expression from any level, unless the expression is a run that would become
a part of the one before it. -/
theorem Expression.takes (st : SelectorReading) :
    ∀ e : Expression, e.IsMaximal → (e.IsRun → st.level.names = []) →
      ∃ l, st.Takes e.tokens { st with level := l } ∧
        l.endRun = st.level.endRun.addExpression e.condition ∧ (l.names ≠ [] → e.EndsInRun)
  | .run first others, _, hst => by
    have hl := hst trivial
    refine ⟨_, takes_names (first :: others) st, ?_, fun _ ↦ trivial⟩
    rw [hl, List.append_nil, SelectorLevel.endRun_of_nil hl]
    exact endRun_names hl (by simp)
  | .minus e, hm, _ => by
    obtain ⟨l, htakes, hl, hends⟩ := Expression.takes
      { st with level := { st.level.endRun with minuses := st.level.endRun.minuses + 1 } } e hm
      (fun _ ↦ SelectorLevel.names_endRun)
    have hminus : ({ st.level.endRun with minuses := st.level.endRun.minuses + 1 } :
        SelectorLevel).endRun = { st.level.endRun with minuses := st.level.endRun.minuses + 1 } :=
      SelectorLevel.endRun_of_nil SelectorLevel.names_endRun
    refine ⟨l, .cons .minus htakes, ?_, hends⟩
    dsimp only at hl
    rw [hl, hminus, SelectorLevel.addExpression_minus, Expression.condition]
  | .parens d, hm, _ => by
    obtain ⟨l, c, htakes, hfinished, hl⟩ :=
      Disjunction.takes { st with level := {}, outer := st.level.endRun :: st.outer } d hm rfl
        (List.cons_ne_nil _ _)
    refine ⟨st.level.endRun.addExpression d.condition,
      .cons .openParen (htakes.append (.one ?_)), ?_, ?_⟩
    · rw [← hl]
      exact .closeParen hfinished rfl
    · exact SelectorLevel.endRun_of_nil SelectorLevel.names_endRun
    · exact fun h ↦ absurd SelectorLevel.names_endRun h

/-- The reader takes a conjunction where one can begin. -/
theorem Conjunction.takes (st : SelectorReading) (a : Option ScopeCondition) :
    ∀ c : Conjunction, c.IsMaximal → st.level = { alternatives := a } →
      ∃ l, st.Takes c.tokens { st with level := l } ∧
        l.endRun = { alternatives := a, conjunction := some c.condition } ∧
        (l.names ≠ [] → c.EndsInRun)
  | .one e, hm, hst => by
    obtain ⟨l, htakes, hl, hends⟩ := Expression.takes st e hm (fun _ ↦ by rw [hst])
    rw [hst] at hl
    exact ⟨l, htakes, hl, hends⟩
  | .more c e, hm, hst => by
    obtain ⟨l, htakes, hl, hends⟩ := Conjunction.takes st a c hm.1 hst
    obtain ⟨l', htakes', hl', hends'⟩ := Expression.takes { st with level := l } e hm.2.1
      (fun hrun ↦ by_contra fun hnames ↦ hm.2.2 ⟨hends hnames, hrun⟩)
    rw [hl] at hl'
    exact ⟨l', htakes.append htakes', hl', hends'⟩

/-- The reader takes a disjunction after an open parenthesis. -/
theorem Disjunction.takes (st : SelectorReading) :
    ∀ d : Disjunction, d.IsMaximal → st.level = {} → st.outer ≠ [] →
      ∃ l c, st.Takes d.tokens { st with level := l } ∧ l.finished = .ok c ∧
        l.disjunction c = d.condition
  | .one c, hm, hst, _ => by
    obtain ⟨l, htakes, hl, -⟩ := Conjunction.takes st none c hm hst
    refine ⟨l, c.condition, htakes, SelectorLevel.finished_eq_ok_iff.mpr (by rw [hl]; simp), ?_⟩
    have halternatives : l.alternatives = none := by
      rw [← SelectorLevel.alternatives_endRun, hl]
    rw [SelectorLevel.disjunction, halternatives, Disjunction.condition]
  | .more d c, hm, hst, houter => by
    obtain ⟨l, a, htakes, hfinished, hl⟩ := Disjunction.takes st d hm.1 hst houter
    obtain ⟨l', htakes', hl', -⟩ := Conjunction.takes
      { st with level := { alternatives := some d.condition } } _ c hm.2 rfl
    have hmoves : ({ st with level := l }).Moves .separator
        { st with level := { alternatives := some d.condition } } := by
      rw [← hl]
      exact .endAlternative hfinished houter
    refine ⟨l', c.condition, htakes.append (.cons hmoves htakes'),
      SelectorLevel.finished_eq_ok_iff.mpr (by rw [hl']; simp), ?_⟩
    have halternatives : l'.alternatives = some d.condition := by
      rw [← SelectorLevel.alternatives_endRun, hl']
    rw [SelectorLevel.disjunction, halternatives, Disjunction.condition]

end

/-- The reader takes a term where one can begin. -/
theorem Term.takes {t : Term} (hm : t.body.IsMaximal) (terms : List SelectorTerm) :
    ∃ l, SelectorReading.Takes { terms } t.tokens { terms, mark := t.mark, level := l } ∧
      l.finished = .ok t.body.condition := by
  obtain ⟨l, htakes, hl, -⟩ :=
    t.body.takes { terms, mark := t.mark } none hm rfl
  have hmark : SelectorReading.Takes { terms } (t.mark.map .mark).toList
      { terms, mark := t.mark } := by
    cases t.mark with
    | none => exact .nil
    | some p => exact .one (.mark p rfl)
  exact ⟨l, hmark.append htakes, SelectorLevel.finished_eq_ok_iff.mpr (by rw [hl]; simp)⟩

/-- The reader takes a selector, term by term. -/
theorem Selector.takes {s : Selector} (hm : s.IsMaximal) :
    ∃ st c, SelectorReading.Takes {} s.tokens st ∧ st.level.finished = .ok c ∧ st.outer = [] ∧
      s.terms.map Term.compiled = (⟨st.mark.getD .default, c⟩ :: st.terms).reverse := by
  induction s with
  | one t =>
    obtain ⟨l, htakes, hl⟩ := Term.takes (hm t (by simp [Selector.terms])) []
    exact ⟨_, _, htakes, hl, rfl, rfl⟩
  | more s t ih =>
    obtain ⟨st, c, htakes, hc, houter, hterms⟩ :=
      ih fun u hu ↦ hm u (List.mem_append_left _ hu)
    obtain ⟨l, htakes', hl⟩ := Term.takes (hm t (by simp [Selector.terms]))
      (⟨st.mark.getD .default, c⟩ :: st.terms)
    refine ⟨_, _, htakes.append (.cons (.endTerm hc houter) htakes'), hl, rfl, ?_⟩
    rw [Selector.terms, List.map_append, hterms]
    exact List.reverse_cons.symm

end SelectorSyntax

end ScopeGrammar
