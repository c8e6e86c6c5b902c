import ScopeGrammar.Proofs.Engine
import ScopeGrammar.Tokenizer.Session

/-!
# What computations return

`Returns x a` says that the computation `x` returns `a` from some memory: what is remembered and
logged on the way is left out. (`ReturnsFrom` says which memories it may start from.) It is what
invariants of line states are proved from, since none of them depends on the memory. Each primitive
has a lemma that says what can be known of its result,
and `exists_of_bind` takes a computation apart.
-/

namespace ScopeGrammar

/-- A line ends after all of its bytes. -/
theorem LineText.stop_eq_byteLength (line : LineText) : line.stop = byteLength line.chars := by
  rw [line.stop_eq, line.contentStop_eq, line.chars_eq, byteLength_append]
  rfl

namespace Tokenizing

variable {α β : Type}

/-- The computation returns a value from some memory. -/
def Returns (x : Tokenizing α) (a : α) : Prop :=
  ∃ memory memory', x memory = .ok a memory'

/-- The computation returns a value from one of some memories. -/
def ReturnsFrom (I : Memory → Prop) (x : Tokenizing α) (a : α) : Prop :=
  ∃ memory memory', I memory ∧ x memory = .ok a memory'

/-- What a computation returns from some memory it returns. -/
theorem returns_of_eq {x : Tokenizing α} {a : α} {memory memory' : Memory}
    (h : x memory = .ok a memory') : Returns x a :=
  ⟨memory, memory', h⟩

/-- A sequence returns what its second part makes of something that its first part returns. -/
theorem exists_of_bind_eq {x : Tokenizing α} {f : α → Tokenizing β} {b : β}
    {memory memory' : Memory} (h : (x >>= f) memory = .ok b memory') :
    ∃ a between, x memory = .ok a between ∧ f a between = .ok b memory' := by
  rw [bind, Monad.toBind, EStateM.instMonad] at h
  dsimp only at h
  rw [EStateM.bind] at h
  split at h
  · rename_i a between heq
    exact ⟨a, between, heq, h⟩
  · contradiction

/-- A sequence goes on from the result of its first part. -/
theorem bind_eq_of_eq_ok {x : Tokenizing α} {f : α → Tokenizing β} {a : α}
    {memory memory' : Memory} (h : x memory = .ok a memory') : (x >>= f) memory = f a memory' := by
  show EStateM.bind x f memory = _
  rw [EStateM.bind, h]

/-- A sequence fails as its first part does. -/
theorem bind_eq_of_eq_error {x : Tokenizing α} {f : α → Tokenizing β} {e : Failure}
    {memory memory' : Memory} (h : x memory = .error e memory') :
    (x >>= f) memory = .error e memory' := by
  show EStateM.bind x f memory = _
  rw [EStateM.bind, h]

namespace Returns

/-- **A sequence returns what its second part makes of what the first one returns.** -/
theorem exists_of_bind {x : Tokenizing α} {f : α → Tokenizing β} {b : β}
    (h : Returns (x >>= f) b) : ∃ a, Returns x a ∧ Returns (f a) b := by
  obtain ⟨memory, memory', h⟩ := h
  obtain ⟨a, between, hx, hf⟩ := exists_of_bind_eq h
  exact ⟨a, returns_of_eq hx, returns_of_eq hf⟩

/-- A value returns nothing but itself. -/
theorem eq_of_pure {a b : α} (h : Returns (pure a) b) : b = a := by
  obtain ⟨memory, memory', h⟩ := h
  cases h
  rfl

/-- A result that is changed comes of one that was not. -/
theorem exists_of_map {f : α → β} {x : Tokenizing α} {b : β} (h : Returns (f <$> x) b) :
    ∃ a, Returns x a ∧ b = f a := by
  rw [map_eq_pure_bind] at h
  obtain ⟨a, hx, hb⟩ := h.exists_of_bind
  exact ⟨a, hx, hb.eq_of_pure⟩

/-- A failure returns nothing. -/
theorem not_throw {e : Failure} {a : α} : ¬ Returns (throw e) a := by
  rintro ⟨memory, memory', h⟩
  cases h

/-- A computation without memory returns its result. -/
theorem eq_ok_of_ofFault {x : Except Fault α} {a : α} (h : Returns (ofFault x) a) :
    x = .ok a := by
  cases x with
  | ok b => rw [h.eq_of_pure]
  | error f => exact (not_throw h).elim

end Returns

namespace ReturnsFrom

variable {I : Memory → Prop} {x : Tokenizing α} {a : α}

/-- What is returned from some of the memories is returned. -/
theorem returns (h : ReturnsFrom I x a) : Returns x a := by
  obtain ⟨memory, memory', -, h⟩ := h
  exact returns_of_eq h

/-- The first part of a sequence starts from the same memory. -/
theorem exists_first {f : α → Tokenizing β} {b : β} (h : ReturnsFrom I (x >>= f) b) :
    ∃ a, ReturnsFrom I x a ∧ Returns (f a) b := by
  obtain ⟨memory, memory', hmemory, h⟩ := h
  obtain ⟨a, between, hx, hf⟩ := exists_of_bind_eq h
  exact ⟨a, ⟨memory, between, hmemory, hx⟩, returns_of_eq hf⟩

end ReturnsFrom

theorem Returns.returnsFrom {x : Tokenizing α} {a : α} (h : Returns x a) :
    ReturnsFrom (fun _ ↦ True) x a := by
  obtain ⟨memory, memory', h⟩ := h
  exact ⟨memory, memory', True.intro, h⟩

/-- The names that a template gives in a line are those that it resolves to. -/
theorem Returns.eq_ok_of_resolve {line : LineText} {m : Match} {t : ScopeTemplate}
    {names : List ScopeName} (h : Returns (resolve line m (some t)) names) :
    t.resolve line.chars m = .ok names := by
  obtain ⟨_, -, h⟩ := h.exists_of_bind
  obtain ⟨resolved, hresolved, h⟩ := h.exists_of_bind
  obtain ⟨_, -, h⟩ := h.exists_of_bind
  rw [h.eq_of_pure]
  exact hresolved.eq_ok_of_ofFault

/-! ### Searches -/

/-- A search that the engine answers returns the answer and remembers nothing. -/
theorem search_of_ok {ctx : Context} {line : LineText} {r : Regex} {range : Span}
    {live : LiveAnchors} {found : Option Match}
    (h : r.search line.indexed range live ctx.engine = .ok found) :
    search ctx line r range live = pure found := by
  rw [search, h]

/-- A search with a pattern that the engine refuses fails with that error. -/
theorem search_of_refused {ctx : Context} {line : LineText} {r : Regex} {range : Span}
    {live : LiveAnchors} {e : RegexError}
    (h : r.search line.indexed range live ctx.engine = .error (.refused e)) :
    search ctx line r range live = throw (.error (.regex e)) := by
  rw [search, h]

/-- A search that the engine gives up is a fault. -/
theorem search_of_exhausted {ctx : Context} {line : LineText} {r : Regex} {range : Span}
    {live : LiveAnchors} (h : r.search line.indexed range live ctx.engine = .error .exhausted) :
    search ctx line r range live = throw (.fault .searchExhausted) := by
  rw [search, h]

/-- **A match that is found is one that the engine reports.** -/
theorem reportsIn_of_search {ctx : Context} {line : LineText} {r : Regex} {range : Span}
    {live : LiveAnchors} {m : Match} (h : Returns (search ctx line r range live) (some m)) :
    ctx.engine.ReportsIn line.chars range m := by
  rw [search] at h
  split at h
  · rename_i found heq
    obtain rfl := h.eq_of_pure
    rw [line.indexed_eq] at heq
    exact Regex.reportsIn_of_search heq
  · exact (Returns.not_throw h).elim
  · exact (Returns.not_throw h).elim
  · exact (Returns.not_throw h).elim

/-- Candidates that are not known yet are looked for. -/
theorem candidates_of_new {ctx : Context} {ref : RuleRef} {memory : Memory} {refs : List RuleRef}
    (hnew : memory.candidates[(ref, CandidateKind.children)]? = none)
    (h : ctx.registry.childCandidates ctx.base ref = .ok (refs, #[])) :
    candidates ctx ref .children memory =
      .ok refs { memory with candidates := memory.candidates.insert (ref, .children) refs } := by
  have hget : (get : Tokenizing Memory) memory = .ok memory memory := rfl
  rw [candidates, bind_eq_of_eq_ok hget, hnew]
  dsimp only
  rw [h]
  show EStateM.Result.ok refs
    { memory with
      log := memory.log ++ #[], candidates := memory.candidates.insert (ref, .children) refs } = _
  rw [Array.append_empty]

/-- **The match that is found next is the best one of the candidates**, if a match can be looked for
and no capture is ahead. -/
theorem nextMatch_eq_ok {ctx : Context} {line : LineText} {s : LineState} {bound : Nat}
    {owner : RuleRef} {cs : List Candidate} {found : Option (Match × Candidate)}
    {memory memory' : Memory} (howner : s.stack.owner? = some owner)
    (hbound : (s.stack.bound?.isSome && decide (bound ≤ s.position)) = false)
    (hcapture : s.nextCapture? = none)
    (hordered : orderedCandidates ctx s.stack owner memory = .ok cs memory')
    (hbest : bestOf ctx line s bound none cs = pure found) :
    nextMatch ctx line s bound memory = .ok found memory' := by
  have hfind : findBest ctx line s bound memory = .ok found memory' := by
    rw [findBest, howner]
    dsimp only
    rw [bind_eq_of_eq_ok hordered, hbest]
    rfl
  rw [nextMatch, hbound, if_neg Bool.false_ne_true, bind_eq_of_eq_ok hfind, hcapture]
  cases found <;> rfl

/-- The best match of a single candidate is the one that its pattern finds. -/
theorem bestOf_singleton {ctx : Context} {line : LineText} {s : LineState} {bound : Nat}
    {c : Candidate} {r : Regex} {found : Option Match}
    (hregex : candidateRegex ctx s.stack c = pure (some r))
    (hfound : r.search line.indexed ⟨s.position, bound⟩ s.liveAnchors ctx.engine = .ok found) :
    bestOf ctx line s bound none [c] = pure (found.map (·, c)) := by
  rw [bestOf, hregex, pure_bind]
  dsimp only
  rw [search_of_ok hfound, pure_bind]
  cases found with
  | none => rfl
  | some m =>
    show (if m.start = s.position then _ else _) = _
    split <;> rfl

/-- So it is what is found next if there is no other candidate. -/
theorem nextMatch_of_singleton {ctx : Context} {line : LineText} {s : LineState} {bound : Nat}
    {owner : RuleRef} {c : Candidate} {r : Regex} {m : Match} {memory memory' : Memory}
    (howner : s.stack.owner? = some owner)
    (hbound : (s.stack.bound?.isSome && decide (bound ≤ s.position)) = false)
    (hcapture : s.nextCapture? = none)
    (hordered : orderedCandidates ctx s.stack owner memory = .ok [c] memory')
    (hregex : candidateRegex ctx s.stack c = pure (some r))
    (hfound : r.search line.indexed ⟨s.position, bound⟩ s.liveAnchors ctx.engine = .ok (some m)) :
    nextMatch ctx line s bound memory = .ok (some (m, c)) memory' :=
  nextMatch_eq_ok howner hbound hcapture hordered (bestOf_singleton hregex hfound)

end Tokenizing

end ScopeGrammar
