import ScopeGrammar.Proofs.Grammar.Layout

/-!
# Identifiers of a compiled grammar

A rule refers to other rules and to patterns by identifiers. That they all name something in the
compiled grammar (`Grammar.compile_isClosed`) rests on two facts about the arena in which it is
collected: it only grows, so that an identifier once given out stays good, and a rule is defined
when all that it refers to has been added.

`Adds n k x Q` says so of a computation `x`: begun with at least `n` rules and `k` patterns, it
keeps the arena closed, and `Q` holds of its result and of the numbers of rules and patterns at its
end.
-/

namespace ScopeGrammar

/-! ### Closed rules -/

/-- The rules that captures refer to are among the first ones. -/
def Captures.IsClosed (n : Nat) (c : Captures) : Prop :=
  ∀ e ∈ c.entries, ∀ id, e.2.patterns = some id → id < n

/-- The rules and patterns that a rule refers to are among the first ones. -/
def RuleBody.IsClosed (n k : Nat) : RuleBody → Prop
  | .single r => r.regex < k ∧ r.captures.IsClosed n
  | .region r =>
    r.begin < k ∧ r.exit < k ∧ r.beginCaptures.IsClosed n ∧ r.exitCaptures.IsClosed n ∧
      (∀ id ∈ r.patterns, id < n) ∧ ∀ e ∈ r.repository, e.2 < n
  | .includes _ => True
  | .group r => (∀ id ∈ r.patterns, id < n) ∧ ∀ e ∈ r.repository, e.2 < n

/-- Captures stay closed when rules are added. -/
theorem Captures.IsClosed.mono {n n' : Nat} {c : Captures} (h : c.IsClosed n) (hn : n ≤ n') :
    c.IsClosed n' :=
  fun e he id hid ↦ Nat.lt_of_lt_of_le (h e he id hid) hn

/-- The body of a rule stays closed when rules and patterns are added. -/
theorem RuleBody.IsClosed.mono {n k n' k' : Nat} {b : RuleBody} (h : b.IsClosed n k)
    (hn : n ≤ n') (hk : k ≤ k') : b.IsClosed n' k' := by
  cases b with
  | single r => exact ⟨Nat.lt_of_lt_of_le h.1 hk, h.2.mono hn⟩
  | region r =>
    obtain ⟨hbegin, hexit, hbeginCaptures, hexitCaptures, hpatterns, hrepository⟩ := h
    exact ⟨Nat.lt_of_lt_of_le hbegin hk, Nat.lt_of_lt_of_le hexit hk, hbeginCaptures.mono hn,
      hexitCaptures.mono hn, fun id hid ↦ Nat.lt_of_lt_of_le (hpatterns id hid) hn,
      fun e he ↦ Nat.lt_of_lt_of_le (hrepository e he) hn⟩
  | includes target => exact True.intro
  | group r =>
    exact ⟨fun id hid ↦ Nat.lt_of_lt_of_le (h.1 id hid) hn,
      fun e he ↦ Nat.lt_of_lt_of_le (h.2 e he) hn⟩

theorem Captures.isClosed_empty (n : Nat) : Captures.IsClosed n {} := by
  intro e he
  cases he

/-- What is said of the groups once an entry is put in is that entry, or was said before. -/
theorem Captures.mem_insertEntry {index : Nat} {r : CaptureRule}
    {entries : List (Nat × CaptureRule)} {e : Nat × CaptureRule}
    (he : e ∈ insertEntry index r entries) : e = (index, r) ∨ e ∈ entries := by
  induction entries with
  | nil => exact .inl (List.mem_singleton.1 he)
  | cons known entries ih =>
    obtain ⟨i, s⟩ := known
    rw [insertEntry] at he
    split at he
    · exact List.mem_cons.1 he
    · split at he
      · exact (List.mem_cons.1 he).imp_right (List.mem_cons_of_mem _)
      · rcases List.mem_cons.1 he with rfl | he
        · exact .inr List.mem_cons_self
        · exact (ih he).imp_right (List.mem_cons_of_mem _)

/-- Captures stay closed if the rule that is put in names rules that there are. -/
theorem Captures.IsClosed.insert {n : Nat} {c : Captures} (h : c.IsClosed n) (index : Nat)
    {r : CaptureRule} (hr : ∀ id, r.patterns = some id → id < n) :
    (c.insert index r).IsClosed n := by
  intro e he
  rcases mem_insertEntry he with rfl | he
  · exact hr
  · exact h e he

/-- The rules of a grammar refer to rules and patterns that it has. -/
structure Grammar.IsClosed (g : Grammar) : Prop where
  rooted : 0 < g.rules.size
  bodies : ∀ (id : RuleId) (rule : Rule), g.rules[id]? = some rule →
    rule.body.IsClosed g.rules.size g.regexes.size
  injections : ∀ i ∈ g.injections, i.rule < g.rules.size
  exported : ∀ i, g.exported = some i → i.rule < g.rules.size

/-- The rules of an arena refer to rules and patterns that it has. -/
def Arena.IsClosed (a : Arena) : Prop :=
  ∀ (id : RuleId) (rule : Rule), a.rules[id]? = some rule →
    rule.body.IsClosed a.rules.size a.regexes.size

namespace Loading

/-! ### Growing arenas -/

variable {α β : Type} {n k : Nat} {Q : Nat → Nat → α → Prop} {R : Nat → Nat → β → Prop}

/-- The computation keeps the arena closed and takes nothing out of it. -/
def Adds (n k : Nat) (x : Loading α) (Q : Nat → Nat → α → Prop) : Prop :=
  ∀ a v a', a.IsClosed → n ≤ a.rules.size → k ≤ a.regexes.size → x a = .ok v a' →
    a'.IsClosed ∧ a.rules.size ≤ a'.rules.size ∧ a.regexes.size ≤ a'.regexes.size ∧
      Q a'.rules.size a'.regexes.size v

/-- A computation that adds nothing keeps the arena closed. -/
theorem adds_pure {v : α} (h : ∀ n' k', n ≤ n' → k ≤ k' → Q n' k' v) :
    Adds n k (pure v) Q := by
  rintro a v' a' ha hn hk ⟨⟩
  exact ⟨ha, Nat.le_refl _, Nat.le_refl _, h _ _ hn hk⟩

/-- A computation that fails promises nothing of its result. -/
theorem adds_throw {e : Failure} : Adds n k (throw e : Loading α) Q := by
  rintro a v a' - - - ⟨⟩

/-- **A sequence adds what its parts add.** The second part begins with all that the first one has
added. -/
theorem Adds.bind {x : Loading α} {f : α → Loading β} (hx : Adds n k x Q)
    (hf : ∀ n' k' v, n ≤ n' → k ≤ k' → Q n' k' v → Adds n' k' (f v) R) :
    Adds n k (x >>= f) R := by
  intro a b a'' ha hn hk h
  change EStateM.bind x f a = _ at h
  rw [EStateM.bind] at h
  split at h
  · rename_i v a' heq
    obtain ⟨ha', hrules, hregexes, hv⟩ := hx a v a' ha hn hk heq
    obtain ⟨ha'', hrules', hregexes', hb⟩ := hf _ _ v (Nat.le_trans hn hrules)
      (Nat.le_trans hk hregexes) hv a' b a'' ha' (Nat.le_refl _) (Nat.le_refl _) h
    exact ⟨ha'', Nat.le_trans hrules hrules', Nat.le_trans hregexes hregexes', hb⟩
  · contradiction

/-- A result that is changed has what it is changed to. -/
theorem Adds.map {f : α → β} {x : Loading α} (hx : Adds n k x Q)
    (hf : ∀ n' k' v, Q n' k' v → R n' k' (f v)) : Adds n k (f <$> x) R := by
  intro a b a' ha hn hk h
  change EStateM.map f x a = _ at h
  rw [EStateM.map] at h
  split at h
  · rename_i v a'' heq
    obtain ⟨ha', hrules, hregexes, hv⟩ := hx a v a'' ha hn hk heq
    cases h
    exact ⟨ha', hrules, hregexes, hf _ _ v hv⟩
  · contradiction

/-! ### Adding rules and patterns -/

theorem adds_log (e : Event) : Adds n k (log e) fun _ _ _ ↦ True := by
  rintro a v a' ha - - ⟨⟩
  exact ⟨ha, Nat.le_refl _, Nat.le_refl _, True.intro⟩

/-- A computation that looks at the arena knows how many rules and patterns there are. -/
theorem adds_get : Adds n k get fun n' k' a ↦ a.rules.size = n' ∧ a.regexes.size = k' := by
  rintro a v a' ha - - ⟨⟩
  exact ⟨ha, Nat.le_refl _, Nat.le_refl _, rfl, rfl⟩

/-- The next identifier is the number of those given so far. -/
theorem adds_nextIndex (size : Nat) (location kind : String) :
    Adds n k (nextIndex size location kind) fun _ _ id ↦ id = size := by
  rw [nextIndex]
  split
  · exact adds_pure fun _ _ _ _ ↦ rfl
  · exact adds_throw

/-- A place that is taken for a rule is among the places of the arena. -/
theorem adds_reserve (parent : Option RuleId) (disabled : Bool) (location : String) :
    Adds n k (reserve parent disabled location) fun n' _ id ↦ id < n' := by
  -- an empty group holds the place, and refers to nothing
  have hpush : ∀ {n k id}, Adds n k (modify fun a : Arena ↦
      { a with rules := a.rules.push ⟨id, parent, disabled, .group ⟨[], []⟩⟩ })
        fun n' _ _ ↦ n < n' := by
    intro n k id a v a' ha hn _ h
    cases h
    have hsize : ∀ rule, (a.rules.push rule).size = a.rules.size + 1 := fun _ ↦ Array.size_push _
    refine ⟨fun id' rule hrule ↦ ?_, ?_, Nat.le_refl _, ?_⟩
    · dsimp only at hrule ⊢
      rw [Array.getElem?_push] at hrule
      split at hrule
      · rw [← Option.some.inj hrule]
        exact ⟨by simp, by simp⟩
      · exact (ha id' rule hrule).mono (by rw [hsize]; exact Nat.le_succ _) (Nat.le_refl _)
    · dsimp only
      rw [hsize]
      exact Nat.le_succ _
    · dsimp only
      rw [hsize]
      exact Nat.lt_succ_of_le hn
  refine adds_get.bind fun n₁ k₁ a _ _ ha ↦ ?_
  refine (adds_nextIndex _ location "rules").bind fun n₂ k₂ id h₁₂ _ hid ↦ ?_
  refine hpush.bind fun n₃ k₃ _ _ _ hlt ↦ adds_pure fun m _ hm _ ↦ ?_
  rw [hid, ha.1]
  exact Nat.lt_of_le_of_lt h₁₂ (Nat.lt_of_lt_of_le hlt hm)

/-- A rule is put in its place when what it refers to is there. -/
theorem adds_define {id : RuleId} {parent : Option RuleId} {disabled : Bool} {body : RuleBody}
    (h : body.IsClosed n k) : Adds n k (define id parent disabled body) fun _ _ _ ↦ True := by
  refine adds_get.bind fun n₁ k₁ _ hn₁ hk₁ _ ↦ ?_
  split
  case isFalse => exact adds_throw
  intro a v a' ha hn hk heq
  have hsize : ∀ rule, (a.rules.setIfInBounds id rule).size = a.rules.size :=
    fun _ ↦ Array.size_setIfInBounds
  cases heq
  dsimp only
  rw [hsize]
  -- no size changes, so that the other rules are closed as before
  refine ⟨fun id' rule hrule ↦ ?_, Nat.le_refl _, Nat.le_refl _, True.intro⟩
  dsimp only at hrule ⊢
  rw [hsize]
  rw [Array.getElem?_setIfInBounds] at hrule
  split at hrule
  · split at hrule
    · rw [← Option.some.inj hrule]
      exact h.mono (Nat.le_trans hn₁ hn) (Nat.le_trans hk₁ hk)
    · contradiction
  · exact ha id' rule hrule

/-- A pattern that is added gets a place of its own. -/
theorem adds_pushRegex (r : Regex) :
    Adds n k (modify fun a : Arena ↦ { a with regexes := a.regexes.push r })
      fun _ k' _ ↦ k < k' := by
  intro a v a' ha _ hk h
  cases h
  have hsize : (a.regexes.push r).size = a.regexes.size + 1 := Array.size_push _
  refine ⟨fun id rule hrule ↦ ?_, Nat.le_refl _, ?_, ?_⟩
  · exact (ha id rule hrule).mono (Nat.le_refl _) (by rw [hsize]; exact Nat.le_succ _)
  · dsimp only
    rw [hsize]
    exact Nat.le_succ _
  · dsimp only
    rw [hsize]
    exact Nat.lt_succ_of_le hk

/-- A pattern that has been checked is found under the identifier that it gets. -/
theorem adds_addChecked (r : Regex) (checked : Except RegexError Unit) :
    Adds n k (addChecked r checked) fun _ k' id ↦ id < k' := by
  refine adds_get.bind fun n₁ k₁ a _ _ ha ↦ ?_
  refine (adds_nextIndex _ _ _).bind fun n₂ k₂ id _ h₁₂ hid ↦ ?_
  cases checked with
  | error e => exact adds_throw
  | ok _ =>
    refine (adds_pushRegex _).bind fun n₃ k₃ _ _ _ hlt ↦ adds_pure fun _ m _ hm ↦ ?_
    rw [hid, ha.2]
    exact Nat.lt_of_le_of_lt h₁₂ (Nat.lt_of_lt_of_le hlt hm)

/-- A pattern that is compiled is found under the identifier that it gets. -/
theorem adds_addRegex (E : Engine) (pattern location : String) :
    Adds n k (addRegex E pattern location) fun _ k' id ↦ id < k' := by
  rw [addRegex_eq]
  exact adds_addChecked _ _

/-- An end or while pattern is found under its identifier, whether it refers to captures or not. -/
theorem adds_addExitRegex (E : Engine) (pattern location : String) :
    Adds n k (addExitRegex E pattern location) fun _ k' exit ↦ exit.1 < k' := by
  rw [addExitRegex_eq]
  exact (adds_addChecked _ _).map fun _ _ _ hid ↦ hid

/-- A rule is closed when its body is. -/
theorem adds_addHolding {parent : Option RuleId} {disabled : Bool} {location : String}
    {body : RuleId → Loading RuleBody}
    (hbody : ∀ n k id, Adds n k (body id) fun n' k' b ↦ b.IsClosed n' k') :
    Adds n k (addHolding parent disabled location body) fun n' _ id ↦ id < n' := by
  refine (adds_reserve parent disabled location).bind fun n₁ k₁ id _ _ hid ↦ ?_
  refine (hbody n₁ k₁ id).bind fun n₂ k₂ body h₁₂ _ hbody ↦ ?_
  refine (adds_define hbody).bind fun n₃ k₃ _ h₂₃ _ _ ↦ ?_
  exact adds_pure fun n' _ hn _ ↦
    Nat.lt_of_lt_of_le hid (Nat.le_trans h₁₂ (Nat.le_trans h₂₃ hn))

/-- A group is closed if its repository and its patterns are, which are added after its place is
taken. -/
theorem adds_addGroup {parent : Option RuleId} {disabled : Bool} {location : String}
    {repository : RuleId → Loading Repository} {patterns : RuleId → Loading (List RuleId)}
    (hrepository : ∀ n k id, Adds n k (repository id) fun n' _ r ↦ ∀ e ∈ r, e.2 < n')
    (hpatterns : ∀ n k id, Adds n k (patterns id) fun n' _ ids ↦ ∀ id ∈ ids, id < n') :
    Adds n k (addGroup parent disabled location repository patterns) fun n' _ id ↦ id < n' := by
  rw [addGroup_eq]
  refine adds_addHolding fun n k id ↦ ?_
  refine (hrepository n k id).bind fun n₁ k₁ repository _ _ hrepository ↦ ?_
  refine (hpatterns n₁ k₁ id).bind fun n₂ k₂ patterns h₁₂ _ hpatterns ↦ ?_
  have hbody : (RuleBody.group ⟨patterns, repository⟩).IsClosed n₂ k₂ :=
    ⟨hpatterns, fun e he ↦ Nat.lt_of_lt_of_le (hrepository e he) h₁₂⟩
  exact adds_pure fun _ _ hn hk ↦ hbody.mono hn hk

/-- An include refers to no identifier, only to a name. -/
theorem adds_addInclude (parent : Option RuleId) (disabled : Bool) (location target : String) :
    Adds n k (addInclude parent disabled location target) fun n' _ id ↦ id < n' := by
  rw [addInclude_eq]
  exact adds_addHolding fun _ _ _ ↦ adds_pure fun _ _ _ _ ↦ True.intro

/-- A rule that matches at one stroke is closed if its captures are. -/
theorem adds_addSingle {E : Engine} {parent : Option RuleId} {disabled : Bool}
    {location : String} {name : Option String} {matchPattern : String}
    {captures : RuleId → Loading Captures}
    (hcaptures : ∀ n k id, Adds n k (captures id) fun n' _ c ↦ c.IsClosed n') :
    Adds n k (addSingle E parent disabled location name matchPattern captures)
      fun n' _ id ↦ id < n' := by
  rw [addSingle_eq]
  refine adds_addHolding fun n k id ↦ ?_
  refine (adds_addRegex E _ _).bind fun n₁ k₁ regex _ _ hregex ↦ ?_
  refine (hcaptures n₁ k₁ id).bind fun n₂ k₂ captures _ hk₁₂ hcaptures ↦ ?_
  have hbody : (RuleBody.single ⟨name.map .ofString, regex, captures⟩).IsClosed n₂ k₂ :=
    ⟨Nat.lt_of_lt_of_le hregex hk₁₂, hcaptures⟩
  exact adds_pure fun _ _ hn hk ↦ hbody.mono hn hk

theorem adds_regionExit (location : String) (endPattern whilePattern : Option String) :
    Adds n k (regionExit location endPattern whilePattern) fun _ _ _ ↦ True := by
  cases whilePattern with
  | some _ => exact adds_pure fun _ _ _ _ ↦ True.intro
  | none =>
    cases endPattern with
    | some _ => exact adds_pure fun _ _ _ _ ↦ True.intro
    | none => exact adds_throw

/-- A region is closed if all four of its parts are: the captures at its two ends, its repository
and its patterns. -/
theorem adds_addRegion {E : Engine} {parent : Option RuleId} {disabled : Bool}
    {location : String} {name contentName : Option String} {beginPattern : String}
    {endPattern whilePattern : Option String} {endLast : Bool}
    {beginCaptures : RuleId → Loading Captures}
    {exitCaptures : RegionKind → RuleId → Loading Captures}
    {repository : RuleId → Loading Repository} {patterns : RuleId → Loading (List RuleId)}
    (hbeginCaptures : ∀ n k id, Adds n k (beginCaptures id) fun n' _ c ↦ c.IsClosed n')
    (hexitCaptures : ∀ n k kind id, Adds n k (exitCaptures kind id) fun n' _ c ↦ c.IsClosed n')
    (hrepository : ∀ n k id, Adds n k (repository id) fun n' _ r ↦ ∀ e ∈ r, e.2 < n')
    (hpatterns : ∀ n k id, Adds n k (patterns id) fun n' _ ids ↦ ∀ id ∈ ids, id < n') :
    Adds n k (addRegion E parent disabled location name contentName beginPattern endPattern
      whilePattern endLast beginCaptures exitCaptures repository patterns)
        fun n' _ id ↦ id < n' := by
  rw [addRegion_eq]
  refine adds_addHolding fun n k id ↦ ?_
  refine (adds_addRegex E _ _).bind fun n₁ k₁ begin _ _ hbegin ↦ ?_
  refine (hbeginCaptures n₁ k₁ id).bind fun n₂ k₂ beginCaptures h₁₂ hk₁₂ hbeginCaptures ↦ ?_
  refine (adds_regionExit _ _ _).bind fun n₃ k₃ kind h₂₃ hk₂₃ _ ↦ ?_
  refine (adds_addExitRegex E _ _).bind fun n₄ k₄ exit h₃₄ hk₃₄ hexit ↦ ?_
  refine (hexitCaptures n₄ k₄ _ id).bind fun n₅ k₅ exitCaptures h₄₅ hk₄₅ hexitCaptures ↦ ?_
  refine (hrepository n₅ k₅ id).bind fun n₆ k₆ repository h₅₆ hk₅₆ hrepository ↦ ?_
  refine (hpatterns n₆ k₆ id).bind fun n₇ k₇ patterns h₆₇ hk₆₇ hpatterns ↦ ?_
  -- all identifiers were given out before, and the numbers only grow
  have hbody : ∀ r : RegionRule, r.begin = begin → r.exit = exit.1 →
      r.beginCaptures = beginCaptures → r.exitCaptures = exitCaptures → r.patterns = patterns →
      r.repository = repository → (RuleBody.region r).IsClosed n₇ k₇ := by
    rintro r rfl hr rfl rfl rfl rfl
    exact ⟨Nat.lt_of_lt_of_le hbegin (by omega), Nat.lt_of_lt_of_le (hr ▸ hexit) (by omega),
      hbeginCaptures.mono (by omega), hexitCaptures.mono (by omega), hpatterns,
      fun e he ↦ Nat.lt_of_lt_of_le (hrepository e he) h₆₇⟩
  exact adds_pure fun _ _ hn hk ↦ (hbody _ rfl rfl rfl rfl rfl rfl).mono hn hk

/-! ### Adding definitions -/

mutual

/-- **A rule is closed when it has been added**, by induction on its definition and together with
the lists that definitions are made of. -/
theorem adds_addRule (E : Engine) (parent : Option RuleId) (location : String)
    (d : RuleDefinition) (n k : Nat) :
    Adds n k (addRule E parent location d) fun n' _ id ↦ id < n' := by
  obtain ⟨target, name, contentName, matchPattern, beginPattern, endPattern, whilePattern, captures,
    beginCaptures, endCaptures, whileCaptures, endLast, patterns, repository, disabled⟩ := d
  have hcaptures := fun location n k id ↦ adds_addCaptures E id location captures n k
  have hbeginCaptures := fun location n k id ↦ adds_addCaptures E id location beginCaptures n k
  have hendCaptures := fun location n k id ↦ adds_addCaptures E id location endCaptures n k
  have hwhileCaptures := fun location n k id ↦ adds_addCaptures E id location whileCaptures n k
  have hrepository := fun n k id ↦ adds_addRepository E id location repository n k
  have hpatterns := fun n k id ↦ adds_addPatterns E id location 0 patterns n k
  cases target with
  | some target =>
    rw [addRule]
    exact adds_addInclude parent disabled location target
  | none =>
    cases matchPattern with
    | some matchPattern =>
      rw [addRule]
      exact adds_addSingle (hcaptures _)
    | none =>
      cases beginPattern with
      | some beginPattern =>
        rw [addRule]
        refine adds_addRegion (fun n k id ↦ ?_) (fun n k kind id ↦ ?_) hrepository hpatterns
        · dsimp only
          split
          · exact hbeginCaptures _ n k id
          · exact hcaptures _ n k id
        · dsimp only
          split
          · exact hendCaptures _ n k id
          · exact hwhileCaptures _ n k id
          · exact hcaptures _ n k id
      | none =>
        rw [addRule]
        exact adds_addGroup hrepository hpatterns

/-- All names of a repository stand for rules that there are. -/
theorem adds_addRepository (E : Engine) (owner : RuleId) (location : String)
    (repository : List (String × RuleDefinition)) (n k : Nat) :
    Adds n k (addRepository E owner location repository) fun n' _ r ↦ ∀ e ∈ r, e.2 < n' := by
  cases repository with
  | nil =>
    rw [addRepository]
    exact adds_pure fun _ _ _ _ ↦ by simp
  | cons entry rest =>
    obtain ⟨name, d⟩ := entry
    rw [addRepository]
    refine (adds_addRule E (some owner) _ d n k).bind fun n₁ k₁ id _ _ hid ↦ ?_
    refine (adds_addRepository E owner location rest n₁ k₁).bind fun n₂ k₂ r h₁₂ _ hr ↦ ?_
    refine adds_pure fun n' _ hn _ e he ↦ ?_
    rcases List.mem_cons.1 he with rfl | he
    · exact Nat.lt_of_lt_of_le hid (Nat.le_trans h₁₂ hn)
    · exact Nat.lt_of_lt_of_le (hr e he) hn

/-- All patterns of a rule are rules that there are. -/
theorem adds_addPatterns (E : Engine) (owner : RuleId) (location : String) (i : Nat)
    (patterns : List RuleDefinition) (n k : Nat) :
    Adds n k (addPatterns E owner location i patterns) fun n' _ ids ↦ ∀ id ∈ ids, id < n' := by
  cases patterns with
  | nil =>
    rw [addPatterns]
    exact adds_pure fun _ _ _ _ ↦ by simp
  | cons d rest =>
    rw [addPatterns]
    refine (adds_addRule E (some owner) _ d n k).bind fun n₁ k₁ id _ _ hid ↦ ?_
    refine (adds_addPatterns E owner location (i + 1) rest n₁ k₁).bind fun n₂ k₂ r h₁₂ _ hr ↦ ?_
    refine adds_pure fun n' _ hn _ e he ↦ ?_
    rcases List.mem_cons.1 he with rfl | he
    · exact Nat.lt_of_lt_of_le hid (Nat.le_trans h₁₂ hn)
    · exact Nat.lt_of_lt_of_le (hr e he) hn

theorem adds_addCaptures (E : Engine) (owner : RuleId) (location : String)
    (captures : Option (List (String × RuleDefinition))) (n k : Nat) :
    Adds n k (addCaptures E owner location captures) fun n' _ c ↦ c.IsClosed n' := by
  cases captures with
  | none =>
    rw [addCaptures]
    exact adds_pure fun n' _ _ _ ↦ Captures.isClosed_empty n'
  | some captures =>
    rw [addCaptures]
    exact adds_addCaptureEntries E owner location {} captures n k (Captures.isClosed_empty n)

/-- Captures stay closed when more of them are added, the last ones of an index replacing the
others. -/
theorem adds_addCaptureEntries (E : Engine) (owner : RuleId) (location : String) (known : Captures)
    (captures : List (String × RuleDefinition)) (n k : Nat) (hknown : known.IsClosed n) :
    Adds n k (addCaptureEntries E owner location known captures) fun n' _ c ↦ c.IsClosed n' := by
  cases captures with
  | nil =>
    rw [addCaptureEntries]
    exact adds_pure fun _ _ hn _ ↦ hknown.mono hn
  | cons entry rest =>
    obtain ⟨key, d⟩ := entry
    obtain ⟨target, name, contentName, matchPattern, beginPattern, endPattern, whilePattern, own,
      beginCaptures, endCaptures, whileCaptures, endLast, patterns, repository, disabled⟩ := d
    rw [addCaptureEntries]
    split
    · refine (adds_log _).bind fun n₁ k₁ _ hn _ _ ↦ ?_
      exact adds_addCaptureEntries E owner location known rest n₁ k₁ (hknown.mono hn)
    · rename_i index _
      -- with rules of its own or not, an entry is put in before the ones after it are read
      have hrest : ∀ n₁ k₁ group, n ≤ n₁ → (∀ id, group = some id → id < n₁) →
          Adds n₁ k₁ (if index + 1 < indexBound then
            addCaptureEntries E owner location
              (known.insert index ⟨name.map .ofString, group⟩) rest
            else throw (.fault .captureIndexTooLarge)) fun n' _ c ↦ c.IsClosed n' := by
        intro n₁ k₁ group hn hgroup
        split
        · exact adds_addCaptureEntries E owner location _ rest n₁ k₁
            ((hknown.mono hn).insert index hgroup)
        · exact adds_throw
      dsimp only
      split
      · exact hrest n k none (Nat.le_refl _) (by simp)
      · refine Adds.bind (Adds.map (adds_addGroup
          (fun n k id ↦ adds_addRepository E id _ repository n k)
          (fun n k id ↦ adds_addPatterns E id _ 0 patterns n k)) ?_)
          fun n₁ k₁ group hn _ hgroup ↦ hrest n₁ k₁ group hn hgroup
        rintro n' k' v hv id ⟨⟩
        exact hv

end

/-! ### Adding grammars -/

theorem adds_readSelector (source : String) : Adds n k (readSelector source) fun _ _ _ ↦ True := by
  rw [readSelector]
  split
  · exact adds_pure fun _ _ _ _ ↦ True.intro
  · exact adds_throw

/-- The rules of injections are rules that there are. -/
theorem adds_addInjections (E : Engine) (injections : List (String × RuleDefinition)) (n k : Nat) :
    Adds n k (addInjections E injections) fun n' _ is ↦ ∀ i ∈ is, i.rule < n' := by
  induction injections generalizing n k with
  | nil => exact adds_pure fun _ _ _ _ ↦ by simp
  | cons injection rest ih =>
    obtain ⟨source, d⟩ := injection
    refine (adds_readSelector source).bind fun n₁ k₁ selector _ _ _ ↦ ?_
    refine (adds_addRule E (some rootRule) _ d n₁ k₁).bind fun n₂ k₂ rule _ _ hrule ↦ ?_
    refine (ih n₂ k₂).bind fun n₃ k₃ is h₂₃ _ his ↦ adds_pure fun n' _ hn _ i hi ↦ ?_
    rcases List.mem_cons.1 hi with rfl | hi
    · exact Nat.lt_of_lt_of_le hrule (Nat.le_trans h₂₃ hn)
    · exact Nat.lt_of_lt_of_le (his i hi) hn

/-- An exported injection has the root of the grammar as its rule, which there is by then. -/
theorem adds_readExported (source : Option String) (hn : 0 < n) :
    Adds n k (readExported source) fun n' _ e ↦ ∀ i, e = some i → i.rule < n' := by
  cases source with
  | none => exact adds_pure fun _ _ _ _ ↦ by simp
  | some source =>
    refine (adds_readSelector source).bind fun n₁ k₁ selector h₁ _ _ ↦ ?_
    refine adds_pure fun n' _ hn' _ ↦ ?_
    rintro i ⟨⟩
    exact Nat.lt_of_lt_of_le hn (Nat.le_trans h₁ hn')

/-- When the root has been added, there is at least one rule. -/
theorem adds_addRoot (E : Engine) (d : GrammarDefinition) :
    Adds n k (addRoot E d) fun n' _ _ ↦ 0 < n' := by
  refine (adds_addGroup (fun n k id ↦ adds_addRepository E id "" d.repository n k)
    (fun n k id ↦ adds_addPatterns E id "" 0 d.patterns n k)).bind fun n₁ k₁ id _ _ hid ↦ ?_
  split
  · exact adds_pure fun _ _ hn _ ↦ Nat.lt_of_lt_of_le (Nat.zero_lt_of_lt hid) hn
  · exact adds_throw

/-- A grammar has a root, and the rules of its injections are rules that there are. -/
theorem adds_addGrammar (E : Engine) (d : GrammarDefinition) :
    Adds n k (addGrammar E d) fun n' _ result ↦ 0 < n' ∧ (∀ i ∈ result.1, i.rule < n') ∧
      ∀ i, result.2 = some i → i.rule < n' := by
  refine (adds_addRoot E d).bind fun n₁ k₁ _ _ _ hrooted ↦ ?_
  refine (adds_addInjections E d.injections n₁ k₁).bind fun n₂ k₂ injections h₁₂ _ his ↦ ?_
  have hpos : 0 < n₂ := Nat.lt_of_lt_of_le hrooted h₁₂
  refine (adds_readExported d.injectionSelector hpos).bind fun n₃ k₃ exported h₂₃ _ he ↦ ?_
  exact adds_pure fun n' _ hn _ ↦ ⟨Nat.lt_of_lt_of_le hpos (Nat.le_trans h₂₃ hn),
    fun i hi ↦ Nat.lt_of_lt_of_le (his i hi) (Nat.le_trans h₂₃ hn),
    fun i hi ↦ Nat.lt_of_lt_of_le (he i hi) hn⟩

end Loading

/-- **The rules of a compiled grammar refer to rules and patterns that it has.** -/
theorem Grammar.compile_isClosed {d : GrammarDefinition} {E : Engine} {g : Grammar}
    (h : (compile d E).result = .ok g) : g.IsClosed := by
  rw [compile] at h
  split at h
  · rename_i injections exported arena heq
    obtain rfl := Except.ok.inj h
    have hempty : Arena.IsClosed {} := by
      intro id rule hrule
      simp at hrule
    obtain ⟨hclosed, -, -, hrooted, hinjections, hexported⟩ :=
      Loading.adds_addGrammar E d {} _ arena hempty (Nat.zero_le _) (Nat.zero_le _) heq
    exact ⟨hrooted, hclosed, hinjections, hexported⟩
  · contradiction

end ScopeGrammar
