import Mathlib.Data.Prod.Lex
import ScopeGrammar.Proofs.Tokenizer.Remembered
import ScopeGrammar.Proofs.Tokenizer.Sound

/-!
# The preferred match

What is looked for in the innermost frame is the least match by its start and the rank of its
candidate, among the searches of all candidates (`IsLeastMatch`). The candidates are ranked by
`Context.ranking`, without anything remembered, with the end pattern of a region before its rules or
after them (`Context.ofFrame`). They are gone through once, and the first match at the position of
the line ends it, since no match starts before that position (`exists_isLeastMatch_of_bestOf`).

A search that fails is only come to if no candidate before it has a match at the position
(`bestOf_of_error`). What is looked for is put together from the two in `findBest_preferred`.
-/

namespace ScopeGrammar

open Tokenizing

/-! ### Searches of candidates -/

/-- The pattern of a candidate, if it has one. -/
def Candidate.regex? (r : Registry) (stack : Stack) : Candidate → Except Fault (Option Regex)
  | exit =>
    match stack.frames with
    | .region region :: _ => some <$> region.exit.regex r
    | _ => .ok none
  | rule ref => do
    let g ← r.grammar ref.grammar
    let rule ← g.rule ref.rule
    match rule.entry? with
    | some id => some <$> g.regex id
    | none => pure none

/-- The search of a candidate from the position of a line to a bound. -/
def Candidate.search (ctx : Context) (line : LineText) (s : LineState) (bound : Nat)
    (c : Candidate) : Except Failure (Option Match) :=
  match c.regex? ctx.registry s.stack with
  | .error f => .error (.fault f)
  | .ok none => .ok none
  | .ok (some regex) =>
    match regex.search line.indexed ⟨s.position, bound⟩ s.liveAnchors ctx.engine with
    | .ok found => .ok found
    | .error (.refused e) => .error (.error (.regex e))
    | .error .outside => .error (.fault .searchOutsideText)
    | .error .exhausted => .error (.fault .searchExhausted)

section Search

variable {ctx : Context} {line : LineText} {s : LineState} {bound : Nat} {c : Candidate}

theorem ofFault_map {α β : Type} (f : α → β) (x : Except Fault α) :
    ofFault (f <$> x) = f <$> ofFault x := by
  cases x <;> rfl

theorem ofFault_bind {α β : Type} (x : Except Fault α) (f : α → Except Fault β) :
    ofFault (x >>= f) = ofFault x >>= fun a ↦ ofFault (f a) := by
  cases x <;> rfl

/-- The program comes to the pattern of a candidate, or to the same fault. -/
theorem candidateRegex_eq (stack : Stack) (c : Candidate) :
    candidateRegex ctx stack c = ofFault (c.regex? ctx.registry stack) := by
  cases c with
  | exit =>
    obtain ⟨grammar, scope, frames⟩ := stack
    cases frames with
    | nil => rfl
    | cons f below =>
      cases f with
      | region r => exact (ofFault_map some _).symm
      | captured c => rfl
  | rule ref =>
    rw [candidateRegex, Candidate.regex?, ofFault_bind]
    congr 1
    funext g
    rw [ofFault_bind]
    congr 1
    funext rule
    cases rule.entry? with
    | some id => exact (ofFault_map some _).symm
    | none => rfl

/-- A match that is found starts no earlier than at the position. -/
theorem Candidate.position_le_start (hE : ctx.engine.StaysInRange) {m : Match}
    (h : c.search ctx line s bound = .ok (some m)) : s.position ≤ m.start := by
  rw [search] at h
  split at h
  · cases h
  · cases h
  · split at h
    · rename_i found hfound
      obtain rfl := Except.ok.inj h
      rw [line.indexed_eq] at hfound
      exact (hE.of_reportsIn (Regex.reportsIn_of_search hfound)).1
    all_goals cases h

/-- **A candidate is searched, and then the others**, unless the search fails or finds a match at
the position. -/
theorem bestOf_cons (best : Option (Match × Candidate)) (cs : List Candidate) (memory : Memory) :
    bestOf ctx line s bound best (c :: cs) memory =
      match c.search ctx line s bound with
      | .error e => .error e memory
      | .ok none => bestOf ctx line s bound best cs memory
      | .ok (some m) =>
        if startsBefore m best then
          if m.start = s.position then .ok (some (m, c)) memory
          else bestOf ctx line s bound (some (m, c)) cs memory
        else bestOf ctx line s bound best cs memory := by
  rw [bestOf, candidateRegex_eq, Candidate.search]
  cases c.regex? ctx.registry s.stack with
  | error f => rfl
  | ok regex? =>
    cases regex? with
    | none => rfl
    | some regex =>
      show (Tokenizing.search ctx line regex ⟨s.position, bound⟩ s.liveAnchors >>= _) memory = _
      rw [Tokenizing.search]
      dsimp only
      cases regex.search line.indexed ⟨s.position, bound⟩ s.liveAnchors ctx.engine with
      | error e => cases e <;> rfl
      | ok found =>
        cases found with
        | none => rfl
        | some m =>
          show (if startsBefore m best then _ else _ : Tokenizing _) memory =
            if startsBefore m best then _ else _
          by_cases hbefore : startsBefore m best
          · rw [if_pos hbefore, if_pos hbefore]
            by_cases hstart : m.start = s.position
            · rw [if_pos hstart, if_pos hstart]
              rfl
            · rw [if_neg hstart, if_neg hstart]
          · rw [if_neg hbefore, if_neg hbefore]

end Search

/-! ### The least match -/

/-- A match of some candidates is the least one by its start and the rank of its candidate; none is
if no candidate matches. -/
def IsLeastMatch (search : Candidate → Except Failure (Option Match)) (cs : List Candidate) :
    Option (Match × Candidate) → Prop
  | none => ∀ c ∈ cs, ∀ m, search c ≠ .ok (some m)
  | some (m, c) => ∃ rank, cs[rank]? = some c ∧ search c = .ok (some m) ∧
      ∀ (rank' : Nat) c' m', cs[rank']? = some c' → search c' = .ok (some m') →
        toLex (m.start, rank) ≤ toLex (m'.start, rank')

/-- The first match that starts at a position. -/
def firstAt? (search : Candidate → Except Failure (Option Match)) (position : Nat)
    (cs : List Candidate) : Option (Match × Candidate) :=
  cs.findSome? fun c ↦
    match search c with
    | .ok (some m) => if m.start = position then some (m, c) else none
    | _ => none

section Least

variable {search : Candidate → Except Failure (Option Match)} {before after : List Candidate}
  {c : Candidate} {m : Match} {best : Option (Match × Candidate)}

theorem isLeastMatch_nil : IsLeastMatch search [] none :=
  fun c hmem ↦ by cases hmem

/-- A match before all of those of preferred candidates, and not after those of the others. -/
theorem isLeastMatch_of_lt (hc : search c = .ok (some m))
    (hbefore : ∀ c' ∈ before, ∀ m', search c' = .ok (some m') → m.start < m'.start)
    (hafter : ∀ c' ∈ after, ∀ m', search c' = .ok (some m') → m.start ≤ m'.start) :
    IsLeastMatch search (before ++ c :: after) (some (m, c)) := by
  refine ⟨before.length, by simp, hc, fun rank' c' m' hrank' hc' ↦ ?_⟩
  rw [Prod.Lex.toLex_le_toLex]
  rw [List.getElem?_append] at hrank'
  split at hrank'
  · exact .inl (hbefore c' (List.mem_of_getElem? hrank') m' hc')
  · rename_i hle
    cases hrank : rank' - before.length with
    | zero =>
      rw [hrank] at hrank'
      obtain rfl := Option.some.inj hrank'
      obtain rfl := Option.some.inj (Except.ok.inj (hc.symm.trans hc'))
      exact .inr ⟨rfl, Nat.le_of_not_lt hle⟩
    | succ n =>
      rw [hrank] at hrank'
      rcases Nat.lt_or_eq_of_le (hafter c' (List.mem_of_getElem? hrank') m' hc') with hlt | heq
      · exact .inl hlt
      · exact .inr ⟨heq, Nat.le_of_not_lt hle⟩

/-- A match that starts before the least one starts before all. -/
theorem IsLeastMatch.lt_of_startsBefore (h : IsLeastMatch search before best)
    (hm : startsBefore m best = true) :
    ∀ c' ∈ before, ∀ m', search c' = .ok (some m') → m.start < m'.start := by
  intro c' hmem m' hc'
  cases best with
  | none => exact (h c' hmem m' hc').elim
  | some b =>
    obtain ⟨rank, -, -, hleast⟩ := h
    obtain ⟨rank', hrank'⟩ := List.mem_iff_getElem?.1 hmem
    have hle := hleast rank' c' m' hrank' hc'
    rw [Prod.Lex.toLex_le_toLex] at hle
    have hlt : m.start < b.1.start := of_decide_eq_true hm
    omega

/-- A candidate whose match does not start before the least one changes nothing. -/
theorem IsLeastMatch.concat (h : IsLeastMatch search before best)
    (hc : ∀ m, search c = .ok (some m) → startsBefore m best = false) :
    IsLeastMatch search (before ++ [c]) best := by
  cases best with
  | none =>
    intro c' hmem m hm
    rcases List.mem_append.1 hmem with hmem | hmem
    · exact h c' hmem m hm
    · rw [List.mem_singleton.1 hmem] at hm
      cases hc m hm
  | some b =>
    obtain ⟨rank, hrank, hb, hleast⟩ := h
    have hlt : rank < before.length := (List.getElem?_eq_some_iff.1 hrank).1
    refine ⟨rank, by rw [List.getElem?_append_left hlt, hrank], hb, fun rank' c' m' hrank' hm' ↦ ?_⟩
    rw [List.getElem?_append] at hrank'
    split at hrank'
    · exact hleast rank' c' m' hrank' hm'
    · rename_i hle
      have hmem : c' ∈ [c] := List.mem_of_getElem? hrank'
      rw [List.mem_singleton.1 hmem] at hm'
      have hge : ¬ m'.start < b.1.start := of_decide_eq_false (hc m' hm')
      rw [Prod.Lex.toLex_le_toLex]
      show b.1.start < m'.start ∨ b.1.start = m'.start ∧ rank ≤ rank'
      omega

end Least

/-! ### One pass -/

section Pass

variable {ctx : Context} {line : LineText} {s : LineState} {bound : Nat}
  {before after cs : List Candidate} {c : Candidate} {best : Option (Match × Candidate)}

/-- **If no search fails, the least match is found.** The best match so far starts after the
position, or the pass would have ended with it. -/
theorem exists_isLeastMatch_of_bestOf (hE : ctx.engine.StaysInRange)
    (hbest : IsLeastMatch (Candidate.search ctx line s bound) before best)
    (hlater : ∀ b, best = some b → s.position < b.1.start)
    (hcs : ∀ c ∈ cs, ∀ e, c.search ctx line s bound ≠ .error e) :
    ∃ least, IsLeastMatch (Candidate.search ctx line s bound) (before ++ cs) least ∧
      ∀ memory, bestOf ctx line s bound best cs memory = .ok least memory := by
  induction cs generalizing before best with
  | nil => exact ⟨best, by rwa [List.append_nil], fun _ ↦ rfl⟩
  | cons c cs ih =>
    obtain ⟨hc, hcs⟩ := List.forall_mem_cons.1 hcs
    -- the pass goes on with what was the best so far
    have hsame : (∀ m, c.search ctx line s bound = .ok (some m) → startsBefore m best = false) →
        ∃ least, IsLeastMatch (Candidate.search ctx line s bound) (before ++ c :: cs) least ∧
          ∀ memory, bestOf ctx line s bound best cs memory = .ok least memory := by
      intro hnot
      have hrest := ih (hbest.concat hnot) hlater hcs
      rwa [List.append_assoc] at hrest
    simp only [bestOf_cons]
    cases hsearch : c.search ctx line s bound with
    | error e => exact (hc e hsearch).elim
    | ok found =>
      cases found with
      | none => exact hsame fun m hm ↦ by rw [hm] at hsearch; cases hsearch
      | some m =>
        have hposition : s.position ≤ m.start := Candidate.position_le_start hE hsearch
        dsimp only
        by_cases hm : startsBefore m best
        · have hlt := hbest.lt_of_startsBefore hm
          simp only [if_pos hm]
          by_cases hstart : m.start = s.position
          · -- no match starts before the position
            refine ⟨some (m, c), isLeastMatch_of_lt hsearch hlt fun c' _ m' hc' ↦ ?_,
              fun memory ↦ ?_⟩
            · rw [hstart]
              exact Candidate.position_le_start hE hc'
            · rw [if_pos hstart]
          · have hnext : s.position < m.start := Nat.lt_of_le_of_ne hposition (Ne.symm hstart)
            simp only [if_neg hstart]
            have hleast :
                IsLeastMatch (Candidate.search ctx line s bound) (before ++ [c]) (some (m, c)) :=
              isLeastMatch_of_lt hsearch hlt fun c' hmem ↦ by cases hmem
            have hrest := ih hleast (fun b hb ↦ Option.some.inj hb ▸ hnext) hcs
            rwa [List.append_assoc] at hrest
        · simp only [if_neg hm]
          refine hsame fun m' hm' ↦ ?_
          obtain rfl := Option.some.inj (Except.ok.inj (hsearch.symm.trans hm'))
          exact Bool.eq_false_iff.2 hm

/-- **A search that fails is come to unless there is a match at the position before it**, which is
then the first one. -/
theorem bestOf_of_error (hE : ctx.engine.StaysInRange) {e : Failure}
    (hlater : ∀ b, best = some b → s.position < b.1.start)
    (hbefore : ∀ c ∈ before, ∀ e, c.search ctx line s bound ≠ .error e)
    (hc : c.search ctx line s bound = .error e) (memory : Memory) :
    bestOf ctx line s bound best (before ++ c :: after) memory =
      match firstAt? (Candidate.search ctx line s bound) s.position before with
      | some first => .ok (some first) memory
      | none => .error e memory := by
  induction before generalizing best with
  | nil =>
    rw [List.nil_append, bestOf_cons, hc]
    rfl
  | cons c' before ih =>
    obtain ⟨hc', hbefore⟩ := List.forall_mem_cons.1 hbefore
    rw [List.cons_append, bestOf_cons, firstAt?, List.findSome?_cons, ← firstAt?]
    cases hsearch : c'.search ctx line s bound with
    | error e' => exact (hc' e' hsearch).elim
    | ok found =>
      cases found with
      | none => exact ih hlater hbefore
      | some m =>
        have hposition : s.position ≤ m.start := Candidate.position_le_start hE hsearch
        dsimp only
        by_cases hstart : m.start = s.position
        · have hm : startsBefore m best = true := by
            cases best with
            | none => rfl
            | some b =>
              have hlt := hlater b rfl
              exact decide_eq_true (by omega)
          rw [if_pos hm, if_pos hstart, if_pos hstart]
        · have hnext : s.position < m.start := Nat.lt_of_le_of_ne hposition (Ne.symm hstart)
          rw [if_neg hstart, if_neg hstart]
          split
          · exact ih (fun b hb ↦ Option.some.inj hb ▸ hnext) hbefore
          · exact ih hlater hbefore

end Pass

/-! ### Ranks -/

namespace Context

variable (ctx : Context)

/-- The rules of the injections whose selectors hold of some scopes with one of some precedences. -/
def injectedAt (scopes : ScopePath) (wanted : Precedence → Bool) : List RuleRef :=
  (ctx.injections.filter fun i ↦ (i.2.selector.precedence? scopes.toList).any wanted).map fun i ↦
    ⟨i.1, i.2.rule⟩

/-- The candidates that some rules lead to, rule by rule. -/
def entries : List RuleRef → Except Fault (List Candidate)
  | [] => pure []
  | ref :: rest => do
    let (found, _) ← ctx.registry.entryCandidates ctx.base ref
    let others ← entries rest
    pure (found.map .rule ++ others)

/-- The candidates of the innermost frame itself, which has some rules. The end pattern of its
region comes before all of them or, if its rule applies the end pattern last, after all of them. -/
def ofFrame (stack : Stack) (rules : List Candidate) : List Candidate :=
  match stack.frames with
  | .region r :: _ =>
    match r.kind, r.exitLast with
    | .beginEnd, false => .exit :: rules
    | .beginEnd, true => rules ++ [.exit]
    | .beginWhile, _ => rules
  | _ => rules

/-- All that can match in the innermost frame, which has the rules of `owner`: the rules of
injections that ask for the left, the candidates of the frame, and the rules of the other
injections. -/
def ranking (stack : Stack) (owner : RuleRef) : Except Fault (List Candidate) := do
  let left ← ctx.entries (ctx.injectedAt stack.scopes (· == .left))
  let (rules, _) ← ctx.registry.childCandidates ctx.base owner
  let others ← ctx.entries (ctx.injectedAt stack.scopes (· != .left))
  pure (left ++ ofFrame stack (rules.map .rule) ++ others)

/-- One of the two places around the rules is empty. -/
theorem exitCandidate_append_append (stack : Stack) (rules : List Candidate) :
    exitCandidate stack false ++ rules ++ exitCandidate stack true = ofFrame stack rules := by
  obtain ⟨grammar, scope, frames⟩ := stack
  cases frames with
  | nil => exact List.append_nil rules
  | cons f below =>
    cases f with
    | captured c => exact List.append_nil rules
    | region r =>
      cases hkind : r.kind <;> cases hlast : r.exitLast <;>
        simp [exitCandidate, ofFrame, hkind, hlast]

end Context

namespace Tokenizing

variable {α β : Type} {ctx : Context}

/-- The computation comes to what is there to find, whatever is remembered. -/
def Finds (ctx : Context) (x : Except Fault α) (y : Tokenizing α) : Prop :=
  ∀ memory : Memory, memory.Agrees ctx → ∃ memory' : Memory, memory'.Agrees ctx ∧
    y memory =
      match x with
      | .ok a => .ok a memory'
      | .error f => .error (.fault f) memory'

theorem finds_pure (a : α) : Finds ctx (pure a) (pure a) :=
  fun memory h ↦ ⟨memory, h, rfl⟩

/-- What is found by one part after the other is there to find, whatever either remembers. -/
theorem Finds.bind {x : Except Fault α} {y : Tokenizing α} {f : α → Except Fault β}
    {g : α → Tokenizing β} (h : Finds ctx x y) (hfg : ∀ a, Finds ctx (f a) (g a)) :
    Finds ctx (x >>= f) (y >>= g) := by
  intro memory hmemory
  obtain ⟨memory', hmemory', hy⟩ := h memory hmemory
  cases x with
  | error e => exact ⟨memory', hmemory', bind_eq_of_eq_error hy⟩
  | ok a =>
    obtain ⟨memory'', hmemory'', hg⟩ := hfg a memory' hmemory'
    exact ⟨memory'', hmemory'', (bind_eq_of_eq_ok hy).trans hg⟩

/-- Candidates that are remembered are those that would be found. -/
theorem finds_candidates (ref : RuleRef) (kind : CandidateKind) {f : List RuleRef → Except Fault β}
    {g : List RuleRef → Tokenizing β} (hfg : ∀ refs, Finds ctx (f refs) (g refs)) :
    Finds ctx (ctx.registry.freshCandidates ctx.base ref kind >>= fun found ↦ f found.1)
      (candidates ctx ref kind >>= g) := by
  intro memory hmemory
  cases hfresh : ctx.registry.freshCandidates ctx.base ref kind with
  | ok found =>
    obtain ⟨memory', hmemory', -, hcandidates⟩ := exists_candidates_eq hmemory hfresh
    obtain ⟨memory'', hmemory'', hg⟩ := hfg found.1 memory' hmemory'
    exact ⟨memory'', hmemory'', (bind_eq_of_eq_ok hcandidates).trans hg⟩
  | error e => exact ⟨memory, hmemory, bind_eq_of_eq_error (candidates_eq_error hmemory hfresh)⟩

/-- The candidates of injections are those that the rules lead to, rule by rule. -/
theorem finds_injectedCandidates (injected : List (Precedence × RuleRef)) :
    Finds ctx (ctx.entries (injected.map (·.2))) (injectedCandidates ctx injected) := by
  induction injected with
  | nil => exact finds_pure []
  | cons i rest ih =>
    exact finds_candidates i.2 .entry fun refs ↦ ih.bind fun others ↦ finds_pure _

/-- The active injections of some precedences have the rules that ask for them, in their order. -/
theorem map_filter_activeInjections (scopes : ScopePath) (wanted : Precedence → Bool) :
    ((activeInjections ctx scopes).filter (wanted ·.1)).map (·.2) =
      ctx.injectedAt scopes wanted := by
  rw [activeInjections, Context.injectedAt]
  induction ctx.injections with
  | nil => rfl
  | cons i rest ih =>
    obtain ⟨grammar, injection⟩ := i
    cases hp : injection.selector.precedence? scopes.toList with
    | none => simpa [hp] using ih
    | some p => cases hwanted : wanted p <;> simpa [hp, hwanted] using ih

/-- **The candidates are those of the ranking, in that order.** -/
theorem finds_orderedCandidates (stack : Stack) (owner : RuleRef) :
    Finds ctx (ctx.ranking stack owner) (orderedCandidates ctx stack owner) := by
  rw [Context.ranking, ← map_filter_activeInjections, ← map_filter_activeInjections]
  simp only [orderedCandidates, ← Context.exitCandidate_append_append, List.append_assoc]
  exact (finds_injectedCandidates _).bind fun left ↦ finds_candidates owner .children fun rules ↦
    (finds_injectedCandidates _).bind fun others ↦ finds_pure _

end Tokenizing

/-- There is a ranking whenever the frame has a rule. -/
theorem Context.IsSound.exists_ranking {ctx : Context} (hctx : ctx.IsSound) (stack : Stack)
    {owner : RuleRef} (howner : ctx.registry.HasRule owner) :
    ∃ cs, ctx.ranking stack owner = .ok cs := by
  have hentries : ∀ refs : List RuleRef, (∀ ref ∈ refs, ctx.registry.HasRule ref) →
      Faultless (ctx.entries refs) fun _ ↦ True := by
    intro refs hrefs
    induction refs with
    | nil => exact faultless_pure True.intro
    | cons ref rest ih =>
      obtain ⟨href, hrest⟩ := List.forall_mem_cons.1 hrefs
      exact (hctx.registry.faultless_entryCandidates hctx.base_lt href).bind fun _ _ ↦
        (ih hrest).bind fun _ _ ↦ faultless_pure True.intro
  have hinjected : ∀ wanted, ∀ ref ∈ ctx.injectedAt stack.scopes wanted,
      ctx.registry.HasRule ref := by
    intro wanted ref hmem
    obtain ⟨i, hi, rfl⟩ := List.mem_map.1 hmem
    exact hctx.injections i (List.mem_filter.1 hi).1
  have hranking : Faultless (ctx.ranking stack owner) fun _ ↦ True :=
    (hentries _ (hinjected _)).bind fun _ _ ↦
      (hctx.registry.faultless_childCandidates hctx.base_lt howner).bind fun _ _ ↦
        (hentries _ (hinjected _)).bind fun _ _ ↦ faultless_pure True.intro
  obtain ⟨cs, hcs, -⟩ := hranking
  exact ⟨cs, hcs⟩

/-- **What is found is the least match by its start and its rank.** In a frame with a rule there is
a ranking of all that can match, whatever is remembered. If none of their searches fails, what is
found is the least of all matches, or nothing if there is none. Otherwise it is the first match that
starts at the position, among the candidates before the first search that fails, and if there is
none, the failure of that search. -/
theorem findBest_preferred {ctx : Context} {s : LineState} {memory : Memory} {owner : RuleRef}
    (line : LineText) (bound : Nat) (hE : ctx.engine.StaysInRange) (hmemory : memory.Agrees ctx)
    (howner : s.stack.owner? = some owner) :
    (ctx.IsSound → ctx.registry.HasRule owner → ∃ cs, ctx.ranking s.stack owner = .ok cs) ∧
    (∀ f, ctx.ranking s.stack owner = .error f →
      ∃ memory', findBest ctx line s bound memory = .error (.fault f) memory') ∧
    ∀ cs, ctx.ranking s.stack owner = .ok cs → ∃ memory' : Memory, memory'.Agrees ctx ∧
      ((∀ c ∈ cs, ∀ e, c.search ctx line s bound ≠ .error e) →
        ∃ least, IsLeastMatch (Candidate.search ctx line s bound) cs least ∧
          findBest ctx line s bound memory = .ok least memory') ∧
      ∀ before c after e, cs = before ++ c :: after →
        (∀ c' ∈ before, ∀ e', c'.search ctx line s bound ≠ .error e') →
        c.search ctx line s bound = .error e →
        findBest ctx line s bound memory =
          match firstAt? (Candidate.search ctx line s bound) s.position before with
          | some first => .ok (some first) memory'
          | none => .error e memory' := by
  have hfind : findBest ctx line s bound =
      orderedCandidates ctx s.stack owner >>= bestOf ctx line s bound none := by
    rw [findBest, howner]
  have hnone : ∀ b : Match × Candidate, none = some b → s.position < b.1.start :=
    fun b hb ↦ by cases hb
  obtain ⟨memory', hmemory', hordered⟩ := finds_orderedCandidates s.stack owner memory hmemory
  refine ⟨fun hctx hrule ↦ hctx.exists_ranking s.stack hrule, fun f hf ↦ ⟨memory', ?_⟩,
    fun cs hcs ↦ ⟨memory', hmemory', fun hsearches ↦ ?_,
      fun before c after e hsplit hbefore hc ↦ ?_⟩⟩
  · rw [hf] at hordered
    rw [hfind, bind_eq_of_eq_error hordered]
  · rw [hcs] at hordered
    obtain ⟨least, hleast, hbest⟩ :=
      exists_isLeastMatch_of_bestOf hE isLeastMatch_nil hnone hsearches
    exact ⟨least, hleast, by rw [hfind, bind_eq_of_eq_ok hordered, hbest]⟩
  · rw [hcs, hsplit] at hordered
    rw [hfind, bind_eq_of_eq_ok hordered, bestOf_of_error hE hnone hbefore hc]

/-! ### A rule like the end pattern -/

/-- A grammar of regions in parentheses that hold closing parentheses, whose end pattern comes
before or after them. -/
def GrammarDefinition.closing (endLast : Bool) : GrammarDefinition where
  scopeName := "text"
  patterns := [{ beginPattern := some "(", endPattern := some ")", endLast
                 patterns := [{ matchPattern := some ")" }] }]

/-- That grammar, compiled. -/
def Grammar.closing (endLast : Bool) : Grammar where
  name := ""
  scopeName := "text"
  scope := .ofString "text"
  rules :=
    #[⟨0, none, false, .group ⟨[1], []⟩⟩,
      ⟨1, some 0, false, .region
        { kind := .beginEnd, name := none, contentName := none, begin := 0, beginCaptures := {}
          exit := 1, exitHasReferences := false, exitCaptures := {}, endLast
          patterns := [2], repository := [] }⟩,
      ⟨2, some 1, false, .single ⟨none, 2, {}⟩⟩]
  regexes :=
    #[.ofPattern "(" "patterns[0].begin", .ofPattern ")" "patterns[0].end",
      .ofPattern ")" "patterns[0].patterns[0].match"]
  injections := []
  exported := none
  injectTo := []

theorem Grammar.compile_closing (matcher : List Char → Matcher) (endLast : Bool) :
    (compile (.closing endLast) (.ofMatcher matcher)).result = .ok (.closing endLast) :=
  rfl

/-- What it is tokenized with. -/
def Context.closing (endLast : Bool) : Context where
  registry :=
    { grammars := #[.closing endLast], byScopeName := Std.HashMap.insert {} "text" 0 }
  base := 0
  injections := []
  trace := false
  engine := .literal

/-- The start of a line in a region. -/
def LineState.closing (endLast : Bool) : LineState :=
  .start (Stack.push (.ofGrammar 0 (.ofString "text")) (.region
    { Session.parensRegion with exitLast := endLast, anchorBefore := none, enteredAt := none }))
    false (.ofLine ")")

/-- The end pattern comes before the rule, or after it if the region applies it last. -/
theorem Context.ranking_closing (endLast : Bool) :
    (closing endLast).ranking (LineState.closing endLast).stack ⟨0, 1⟩ =
      .ok (if endLast then [.rule ⟨0, 2⟩, .exit] else [.exit, .rule ⟨0, 2⟩]) := by
  have hrules : (closing endLast).registry.childCandidates 0 ⟨0, 1⟩ = .ok ([⟨0, 2⟩], #[]) :=
    Registry.candidatesFrom_of_matching (r := (closing endLast).registry)
      (by cases endLast <;> decide) rfl
  show ((closing endLast).registry.childCandidates 0 ⟨0, 1⟩).bind _ = _
  rw [hrules]
  cases endLast <;> rfl

/-- The candidate that is ranked first is preferred if all of them match at the same place. -/
theorem IsLeastMatch.eq_of_same {search : Candidate → Except Failure (Option Match)} {m : Match}
    {c : Candidate} {cs : List Candidate} {least : Option (Match × Candidate)}
    (h : IsLeastMatch search (c :: cs) least)
    (hsearch : ∀ c' ∈ c :: cs, search c' = .ok (some m)) : least = some (m, c) := by
  have hfirst := hsearch c List.mem_cons_self
  cases least with
  | none => exact (h c List.mem_cons_self _ hfirst).elim
  | some best =>
    obtain ⟨m', c'⟩ := best
    obtain ⟨rank, hrank, hc', hle⟩ := h
    obtain rfl : m' = m := by
      rw [hsearch c' (List.mem_of_getElem? hrank)] at hc'
      exact (Option.some.inj (Except.ok.inj hc')).symm
    obtain rfl : rank = 0 := by
      have hle := hle 0 c _ rfl hfirst
      rw [Prod.Lex.toLex_le_toLex] at hle
      omega
    obtain rfl := Option.some.inj hrank
    rfl

/-- The rule and the end pattern match at the same place. The end pattern is preferred, unless the
region applies it last. -/
theorem findBest_closing :
    (∃ memory', findBest (.closing false) (.ofLine ")") (.closing false) 2 {} =
      .ok (some (⟨⟨0, 1⟩, []⟩, .exit)) memory') ∧
    ∃ memory', findBest (.closing true) (.ofLine ")") (.closing true) 2 {} =
      .ok (some (⟨⟨0, 1⟩, []⟩, .rule ⟨0, 2⟩)) memory' := by
  have hfind : ∀ endLast c cs,
      (if endLast then [.rule ⟨0, 2⟩, .exit] else [.exit, .rule ⟨0, 2⟩]) = c :: cs →
      (∀ c' ∈ c :: cs, c'.search (.closing endLast) (.ofLine ")") (.closing endLast) 2 =
        .ok (some ⟨⟨0, 1⟩, []⟩)) →
      ∃ memory', findBest (.closing endLast) (.ofLine ")") (.closing endLast) 2 {} =
        .ok (some (⟨⟨0, 1⟩, []⟩, c)) memory' := by
    intro endLast c cs hcs hsearch
    have hagrees : Memory.Agrees (.closing endLast) {} := fun ref kind refs h ↦ by simp at h
    have howner : (LineState.closing endLast).stack.owner? = some ⟨0, 1⟩ := rfl
    have hranking := Context.ranking_closing endLast
    rw [hcs] at hranking
    have hpreferred := findBest_preferred (.ofLine ")") 2 Engine.literal_staysInRange hagrees howner
    obtain ⟨memory', -, hleast, -⟩ := hpreferred.2.2 _ hranking
    obtain ⟨least, hleast, hfind⟩ := hleast fun c' hmem e h ↦ by
      rw [hsearch c' hmem] at h
      cases h
    exact ⟨memory', hleast.eq_of_same hsearch ▸ hfind⟩
  exact ⟨hfind false .exit [.rule ⟨0, 2⟩] rfl (by decide +kernel),
    hfind true (.rule ⟨0, 2⟩) [.exit] rfl (by decide +kernel)⟩

end ScopeGrammar
