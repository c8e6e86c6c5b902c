import ScopeGrammar.Proofs.Grammar.Lexical

/-!
# What compiling a grammar comes to

Compiling ends with a grammar or with an error, and with a fault for one reason only: a table of
captures has room for all indices but the last one, which some definition has a key for
(`RuleDefinition.CountsTooFar`). No other condition is ever found broken: every rule is put in a
place that was taken for it, and the root of the grammar is its first rule
(`Grammar.compile_outcome`).

`TripsOver a far x` says so of a computation `x` begun with an arena `a`, where `far` says that
something in what is compiled counts too far: then `x` does not get to its end, and it ends in a
fault only then. The rules of the arena never get fewer meanwhile, so that the places taken stay
good.
-/

namespace ScopeGrammar

/-! ### Keys for the last index -/

namespace RuleDefinition

/-- The tables of captures that are read to compile a definition. That of the end of a region is
only come to if something ends the region. -/
def tablesRead (d : RuleDefinition) : List (List (String × RuleDefinition)) :=
  match d.target, d.matchPattern, d.beginPattern with
  | none, some _, _ => [d.captures.getD []]
  | none, none, some _ =>
    d.capturesAtBegin :: (d.exit?.map fun exit ↦ d.capturesAtExit exit.1).toList
  | _, _, _ => []

/-- **A definition has a key for the last index**, for which there is no room, in a table of
captures that is read to compile it or one that is written in it, at any depth. -/
inductive CountsTooFar : RuleDefinition → Prop
  | key {d c : RuleDefinition} {entries : List (String × RuleDefinition)} {key : String}
      (htable : entries ∈ d.tablesRead) (hentry : (key, c) ∈ entries)
      (hkey : signedIndex? key.toList = some (indexBound - 1)) : CountsTooFar d
  | capture {d c : RuleDefinition} {entries : List (String × RuleDefinition)} {key : String}
      {index : Nat} (htable : entries ∈ d.tablesRead) (hentry : (key, c) ∈ entries)
      (hkey : signedIndex? key.toList = some index) (hpatterns : c.patterns ≠ [])
      (hgroup : CountsTooFar c.capturedGroup) : CountsTooFar d
  | entry {d r : RuleDefinition} {name : String} (hkeeps : d.keepsRules = true)
      (hentry : (name, r) ∈ d.repository) (hrule : CountsTooFar r) : CountsTooFar d
  | pattern {d r : RuleDefinition} (hkeeps : d.keepsRules = true) (hpattern : r ∈ d.patterns)
      (hrule : CountsTooFar r) : CountsTooFar d

/-- The key of an entry for captures is for the last index, or its rules have such a key. -/
def CaptureCountsTooFar (key : String) (c : RuleDefinition) : Prop :=
  ∃ index, signedIndex? key.toList = some index ∧
    (c.patterns ≠ [] ∧ c.capturedGroup.CountsTooFar ∨ index = indexBound - 1)

/-- Some entry of a table of captures counts too far. -/
def TableCountsTooFar (entries : List (String × RuleDefinition)) : Prop :=
  ∃ e ∈ entries, CaptureCountsTooFar e.1 e.2

/-- Some entry of a repository counts too far. -/
def RepositoryCountsTooFar (repository : List (String × RuleDefinition)) : Prop :=
  ∃ e ∈ repository, e.2.CountsTooFar

/-- Some rule of a list counts too far. -/
def PatternsCountTooFar (patterns : List RuleDefinition) : Prop :=
  ∃ r ∈ patterns, r.CountsTooFar

/-- A definition counts too far in a table of its own or in one of a definition that it holds. -/
theorem countsTooFar_iff {d : RuleDefinition} :
    d.CountsTooFar ↔ (∃ entries ∈ d.tablesRead, TableCountsTooFar entries) ∨
      d.keepsRules = true ∧
        (RepositoryCountsTooFar d.repository ∨ PatternsCountTooFar d.patterns) := by
  constructor
  · rintro (⟨htable, hentry, hkey⟩ | ⟨htable, hentry, hkey, hpatterns, hgroup⟩ |
      ⟨hkeeps, hentry, hrule⟩ | ⟨hkeeps, hpattern, hrule⟩)
    · exact .inl ⟨_, htable, _, hentry, _, hkey, .inr rfl⟩
    · exact .inl ⟨_, htable, _, hentry, _, hkey, .inl ⟨hpatterns, hgroup⟩⟩
    · exact .inr ⟨hkeeps, .inl ⟨_, hentry, hrule⟩⟩
    · exact .inr ⟨hkeeps, .inr ⟨_, hpattern, hrule⟩⟩
  · rintro (⟨_, htable, _, hentry, _, hkey, ⟨hpatterns, hgroup⟩ | rfl⟩ |
      ⟨hkeeps, ⟨_, hentry, hrule⟩ | ⟨_, hpattern, hrule⟩⟩)
    · exact .capture htable hentry hkey hpatterns hgroup
    · exact .key htable hentry hkey
    · exact .entry hkeeps hentry hrule
    · exact .pattern hkeeps hpattern hrule

end RuleDefinition

open RuleDefinition

/-- Some rule of a grammar has a key for the last index. -/
def GrammarDefinition.CountsTooFar (d : GrammarDefinition) : Prop :=
  d.root.CountsTooFar ∨ RepositoryCountsTooFar d.injections

/-- A key that is read as an index is one that fits into a machine word. -/
theorem lt_of_signedIndex?_eq_some {cs : List Char} {index : Nat}
    (h : signedIndex? cs = some index) : index < indexBound := by
  have hindex : ∀ {cs}, index? cs = some index → index < indexBound := by
    intro cs h
    rw [index?] at h
    split at h
    · contradiction
    · dsimp only at h
      split at h
      · rename_i hlt
        exact Option.some.inj h ▸ hlt
      · contradiction
  rw [signedIndex?.eq_def] at h
  split at h <;> exact hindex h

/-! ### Ways to end -/

/-- Something fails in the way of a definition: there is an error, or the fault for a key for the
last index, which it has if `far`. -/
def Failure.IsDue (far : Prop) : Failure → Prop
  | .error _ => True
  | .fault f => f = .captureIndexTooLarge ∧ far
  | .unfinished => False

theorem Failure.IsDue.mono {far far' : Prop} (h : far → far') :
    ∀ {failure : Failure}, failure.IsDue far → failure.IsDue far'
  | .error _, _ => True.intro
  | .fault _, hdue => ⟨hdue.1, h hdue.2⟩

namespace Loading

variable {α β : Type} {far far' : Prop} {a : Arena} {E : Engine} {parent : Option RuleId}
  {disabled : Bool} {location : String}

/-- Begun with the arena, the computation gets to its end only if nothing counts too far, with no
fewer rules than before, and fails for no other reason than an error or such a key. -/
structure TripsOver (a : Arena) (far : Prop) (x : Loading α) : Prop where
  of_ok : ∀ {v a'}, x a = .ok v a' → ¬far ∧ a.rules.size ≤ a'.rules.size
  of_error : ∀ {failure a'}, x a = .error failure a' → failure.IsDue far

/-- A sequence of two computations fails in the first or in the second of them. -/
theorem bind_eq_error {x : Loading α} {f : α → Loading β} {a a'' : Arena} {failure : Failure}
    (h : (x >>= f) a = .error failure a'') :
    x a = .error failure a'' ∨ ∃ v a', x a = .ok v a' ∧ f v a' = .error failure a'' := by
  change EStateM.bind x f a = _ at h
  rw [EStateM.bind] at h
  split at h
  · rename_i v a' heq
    exact .inr ⟨v, a', heq, h⟩
  · rename_i heq
    cases h
    exact .inl heq

theorem bind_eq_of_eq_error {x : Loading α} {f : α → Loading β} {a a' : Arena}
    {failure : Failure} (h : x a = .error failure a') : (x >>= f) a = .error failure a' := by
  show EStateM.bind x f a = _
  rw [EStateM.bind, h]

/-- A computation that does nothing trips over nothing. -/
theorem tripsOver_pure {v : α} : TripsOver a False (pure v) where
  of_ok := by
    rintro _ _ ⟨⟩
    exact ⟨id, Nat.le_refl _⟩
  of_error := nofun

/-- An error is no fault, whatever is refused. -/
theorem tripsOver_refuse {e : GrammarError} : TripsOver a False (refuse e : Loading α) where
  of_ok := nofun
  of_error := by
    rintro _ _ ⟨⟩
    exact True.intro

/-- A change of the arena trips over nothing if no rule gets lost by it. -/
theorem tripsOver_modify {f : Arena → Arena} (h : a.rules.size ≤ (f a).rules.size) :
    TripsOver a False (modify f : Loading Unit) where
  of_ok := by
    rintro _ _ ⟨⟩
    exact ⟨id, h⟩
  of_error := nofun

theorem tripsOver_get : TripsOver a False (get : Loading Arena) where
  of_ok := by
    rintro _ _ ⟨⟩
    exact ⟨id, Nat.le_refl _⟩
  of_error := nofun

namespace TripsOver

/-- What a computation trips over can be said in other words. -/
theorem congr {x : Loading α} (h : TripsOver a far x) (hfar : far ↔ far') : TripsOver a far' x :=
  propext hfar ▸ h

/-- **A sequence trips over what its parts trip over.** -/
theorem bind {x : Loading α} {f : α → Loading β} (hx : TripsOver a far x)
    (hf : ∀ v a', x a = .ok v a' → TripsOver a' far' (f v)) :
    TripsOver a (far ∨ far') (x >>= f) where
  of_ok h := by
    obtain ⟨v, a', hv, h⟩ := bind_eq_ok h
    obtain ⟨hnot, hsize⟩ := hx.of_ok hv
    obtain ⟨hnot', hsize'⟩ := (hf v a' hv).of_ok h
    exact ⟨fun h ↦ h.elim hnot hnot', Nat.le_trans hsize hsize'⟩
  of_error h := by
    rcases bind_eq_error h with h | ⟨v, a', hv, h⟩
    · exact (hx.of_error h).mono .inl
    · exact ((hf v a' hv).of_error h).mono .inr

/-- A part that nothing is compiled in adds nothing. -/
theorem before {x : Loading α} {f : α → Loading β} (hx : TripsOver a False x)
    (hf : ∀ v a', x a = .ok v a' → TripsOver a' far (f v)) : TripsOver a far (x >>= f) :=
  (hx.bind hf).congr (by rw [false_or])

/-- A result that is changed trips over nothing more. -/
theorem map {f : α → β} {x : Loading α} (hx : TripsOver a far x) : TripsOver a far (f <$> x) := by
  rw [map_eq_pure_bind]
  exact (hx.bind fun _ _ _ ↦ tripsOver_pure).congr (by rw [or_false])

end TripsOver

/-! ### Places and patterns -/

/-- An identifier that does not fit is an error, no fault. -/
theorem tripsOver_nextIndex (size : Nat) (location kind : String) :
    TripsOver a False (nextIndex size location kind) := by
  rw [nextIndex]
  split
  · exact tripsOver_pure
  · exact tripsOver_refuse

/-- A place for a rule is taken, or there is an error since no identifier is left. -/
theorem tripsOver_reserve : TripsOver a False (reserve parent disabled location) := by
  refine tripsOver_get.before fun _ _ _ ↦ (tripsOver_nextIndex _ _ _).before fun _ a' _ ↦ ?_
  refine (tripsOver_modify ?_).before fun _ _ _ ↦ tripsOver_pure
  dsimp only
  rw [Array.size_push]
  exact Nat.le_succ _

/-- A rule can be put in every place that was taken. -/
theorem tripsOver_define {id : RuleId} {body : RuleBody} (h : id < a.rules.size) :
    TripsOver a False (define id parent disabled body) := by
  refine tripsOver_get.before ?_
  rintro _ _ ⟨⟩
  rw [if_pos h]
  exact tripsOver_modify (Nat.le_of_eq Array.size_setIfInBounds.symm)

/-- A pattern that is refused is an error, no fault. -/
theorem tripsOver_addChecked (r : Regex) (checked : Except RegexError Unit) :
    TripsOver a False (addChecked r checked) := by
  refine tripsOver_get.before fun _ _ _ ↦ (tripsOver_nextIndex _ _ _).before fun _ _ _ ↦ ?_
  cases checked with
  | error e => exact tripsOver_refuse
  | ok _ => exact (tripsOver_modify (Nat.le_refl _)).before fun _ _ _ ↦ tripsOver_pure

/-- A pattern is added, or it is refused with an error. -/
theorem tripsOver_addRegex (pattern : String) :
    TripsOver a False (addRegex E pattern location) := by
  rw [addRegex_eq]
  exact tripsOver_addChecked _ _

/-- An end pattern is added, or it is refused with an error. -/
theorem tripsOver_addExitRegex (pattern : String) :
    TripsOver a False (addExitRegex E pattern location) := by
  rw [addExitRegex_eq]
  exact (tripsOver_addChecked _ _).map

/-! ### The kinds of rules -/

/-- **A rule trips over its body only.** The place that was taken for it is still there when the
body has been added. -/
theorem tripsOver_addHolding {body : RuleId → Loading RuleBody}
    (hbody : ∀ id a, TripsOver a far (body id)) :
    TripsOver a far (addHolding parent disabled location body) := by
  refine tripsOver_reserve.before fun id a₁ hreserve ↦ ?_
  obtain ⟨rfl, rfl⟩ := reserve_eq_ok hreserve
  refine ((hbody _ _).bind fun b a₂ hb ↦ ?_).congr (by rw [or_false])
  have hplace : a.rules.size < a₂.rules.size := by
    have hsize := ((hbody _ _).of_ok hb).2
    rw [Array.size_push] at hsize
    exact hsize
  exact (tripsOver_define hplace).before fun _ _ _ ↦ tripsOver_pure

section

variable {d : RuleDefinition} {repository : RuleId → Loading Repository}
  {patterns : RuleId → Loading (List RuleId)}

/-- An include has no table of captures to trip over. -/
theorem tripsOver_addInclude {target : String} (htarget : d.target = some target) :
    TripsOver a d.CountsTooFar (addInclude parent disabled location target) := by
  rw [addInclude_eq]
  refine (tripsOver_addHolding fun _ _ ↦ tripsOver_pure).congr ?_
  simp [countsTooFar_iff, tablesRead, keepsRules, htarget]

/-- A group trips over what its repository or its patterns trip over. -/
theorem tripsOver_addGroup (htarget : d.target = none) (hmatch : d.matchPattern = none)
    (hbegin : d.beginPattern = none)
    (hrepository : ∀ id a, TripsOver a (RepositoryCountsTooFar d.repository) (repository id))
    (hpatterns : ∀ id a, TripsOver a (PatternsCountTooFar d.patterns) (patterns id)) :
    TripsOver a d.CountsTooFar (addGroup parent disabled location repository patterns) := by
  rw [addGroup_eq]
  refine (tripsOver_addHolding fun id a ↦ (hrepository id a).bind fun _ a' _ ↦
    (hpatterns id a').bind fun _ _ _ ↦ tripsOver_pure).congr ?_
  simp [countsTooFar_iff, tablesRead, keepsRules, htarget, hmatch, hbegin]

/-- A rule that matches at one stroke trips over its captures only. -/
theorem tripsOver_addSingle {name : Option String} {pattern : String}
    {captures : RuleId → Loading Captures} (htarget : d.target = none)
    (hpattern : d.matchPattern = some pattern)
    (hcaptures : ∀ id a, TripsOver a (TableCountsTooFar (d.captures.getD [])) (captures id)) :
    TripsOver a d.CountsTooFar (addSingle E parent disabled location name pattern captures) := by
  rw [addSingle_eq]
  refine (tripsOver_addHolding fun id a ↦ (tripsOver_addRegex pattern).before fun _ a' _ ↦
    (hcaptures id a').bind fun _ _ _ ↦ tripsOver_pure).congr ?_
  simp [countsTooFar_iff, tablesRead, keepsRules, htarget, hpattern]

/-- A region that nothing ends is an error, no fault. -/
theorem tripsOver_regionExit {endPattern whilePattern : Option String} :
    TripsOver a False (regionExit location endPattern whilePattern) := by
  rw [regionExit.eq_def]
  split
  · exact tripsOver_pure
  · exact tripsOver_pure
  · exact tripsOver_refuse

/-- A region trips over the captures at its two ends, its repository or its patterns, in that
order. -/
theorem tripsOver_addRegion {name contentName : Option String} {beginPattern : String}
    {endLast : Bool} {beginCaptures : RuleId → Loading Captures}
    {exitCaptures : RegionKind → RuleId → Loading Captures} (htarget : d.target = none)
    (hmatch : d.matchPattern = none) (hbegin : d.beginPattern = some beginPattern)
    (hbeginCaptures : ∀ id a,
      TripsOver a (TableCountsTooFar d.capturesAtBegin) (beginCaptures id))
    (hexitCaptures : ∀ kind id a,
      TripsOver a (TableCountsTooFar (d.capturesAtExit kind)) (exitCaptures kind id))
    (hrepository : ∀ id a, TripsOver a (RepositoryCountsTooFar d.repository) (repository id))
    (hpatterns : ∀ id a, TripsOver a (PatternsCountTooFar d.patterns) (patterns id)) :
    TripsOver a d.CountsTooFar (addRegion E parent disabled location name contentName beginPattern
      d.endPattern d.whilePattern endLast beginCaptures exitCaptures repository patterns) := by
  -- the table for the end counts once it is known how the region ends
  have hexit : ∀ {exit id a}, d.exit? = some exit → TripsOver a
      (∃ exit, d.exit? = some exit ∧ TableCountsTooFar (d.capturesAtExit exit.1))
      (exitCaptures exit.1 id) :=
    fun hexit ↦ (hexitCaptures _ _ _).congr (by simp [hexit])
  rw [addRegion_eq]
  refine (tripsOver_addHolding fun id a ↦ (tripsOver_addRegex beginPattern).before fun _ a₁ _ ↦
    (hbeginCaptures id a₁).bind fun _ a₂ _ ↦ tripsOver_regionExit.before fun exit a₃ hregion ↦
    (tripsOver_addExitRegex exit.2).before fun _ a₄ _ ↦
    (hexit (regionExit_eq_ok hregion).1).bind fun _ a₅ _ ↦ (hrepository id a₅).bind fun _ a₆ _ ↦
    (hpatterns id a₆).bind fun _ _ _ ↦ tripsOver_pure).congr ?_
  simp [countsTooFar_iff, tablesRead, keepsRules, htarget, hmatch, hbegin, or_assoc]

end

/-! ### Definitions -/

mutual

/-- **A definition trips over the keys for the last index in it.** -/
theorem tripsOver_addRule (E : Engine) (parent : Option RuleId) (location : String)
    (d : RuleDefinition) (a : Arena) :
    TripsOver a d.CountsTooFar (addRule E parent location d) := by
  obtain ⟨target, name, contentName, matchPattern, beginPattern, endPattern, whilePattern, captures,
    beginCaptures, endCaptures, whileCaptures, endLast, patterns, repository, disabled⟩ := d
  have hcaptures := fun location id a ↦ tripsOver_addCaptures E id location captures a
  have hbeginCaptures := fun location id a ↦ tripsOver_addCaptures E id location beginCaptures a
  have hendCaptures := fun location id a ↦ tripsOver_addCaptures E id location endCaptures a
  have hwhileCaptures := fun location id a ↦ tripsOver_addCaptures E id location whileCaptures a
  have hrepository := fun id a ↦ tripsOver_addRepository E id location repository a
  have hpatterns := fun id a ↦ tripsOver_addPatterns E id location 0 patterns a
  cases target with
  | some target =>
    rw [addRule]
    exact tripsOver_addInclude rfl
  | none =>
    cases matchPattern with
    | some matchPattern =>
      rw [addRule]
      exact tripsOver_addSingle rfl rfl (hcaptures _)
    | none =>
      cases beginPattern with
      | some beginPattern =>
        rw [addRule]
        refine tripsOver_addRegion (d := ⟨none, name, contentName, none, some beginPattern,
          endPattern, whilePattern, captures, beginCaptures, endCaptures, whileCaptures, endLast,
          patterns, repository, disabled⟩) rfl rfl rfl (fun id a ↦ ?_) (fun kind id a ↦ ?_)
          hrepository hpatterns
        · cases beginCaptures with
          | some _ => exact hbeginCaptures _ id a
          | none => exact hcaptures _ id a
        · cases kind with
          | beginEnd =>
            cases endCaptures with
            | some _ => exact hendCaptures _ id a
            | none => exact hcaptures _ id a
          | beginWhile =>
            cases whileCaptures with
            | some _ => exact hwhileCaptures _ id a
            | none => exact hcaptures _ id a
      | none =>
        rw [addRule]
        exact tripsOver_addGroup rfl rfl rfl hrepository hpatterns

/-- A repository trips over one of its rules. -/
theorem tripsOver_addRepository (E : Engine) (owner : RuleId) (location : String)
    (repository : List (String × RuleDefinition)) (a : Arena) :
    TripsOver a (RepositoryCountsTooFar repository)
      (addRepository E owner location repository) := by
  cases repository with
  | nil =>
    rw [addRepository]
    exact tripsOver_pure.congr (by simp [RepositoryCountsTooFar])
  | cons entry rest =>
    obtain ⟨name, d⟩ := entry
    rw [addRepository]
    refine ((tripsOver_addRule E (some owner) _ d a).bind fun _ a₁ _ ↦
      (tripsOver_addRepository E owner location rest a₁).bind fun _ _ _ ↦ tripsOver_pure).congr ?_
    simp [RepositoryCountsTooFar]

/-- Patterns trip over one of them. -/
theorem tripsOver_addPatterns (E : Engine) (owner : RuleId) (location : String) (i : Nat)
    (patterns : List RuleDefinition) (a : Arena) :
    TripsOver a (PatternsCountTooFar patterns) (addPatterns E owner location i patterns) := by
  cases patterns with
  | nil =>
    rw [addPatterns]
    exact tripsOver_pure.congr (by simp [PatternsCountTooFar])
  | cons d rest =>
    rw [addPatterns]
    refine ((tripsOver_addRule E (some owner) _ d a).bind fun _ a₁ _ ↦
      (tripsOver_addPatterns E owner location (i + 1) rest a₁).bind fun _ _ _ ↦
      tripsOver_pure).congr ?_
    simp [PatternsCountTooFar]

theorem tripsOver_addCaptures (E : Engine) (owner : RuleId) (location : String)
    (captures : Option (List (String × RuleDefinition))) (a : Arena) :
    TripsOver a (TableCountsTooFar (captures.getD [])) (addCaptures E owner location captures) := by
  cases captures with
  | none =>
    rw [addCaptures]
    exact tripsOver_pure.congr (by simp [TableCountsTooFar])
  | some captures =>
    rw [addCaptures]
    exact tripsOver_addCaptureEntries E owner location {} captures a

/-- **A table of captures trips over a key for the last index**, or over the group of one of its
captures. All other indices leave room for one more. -/
theorem tripsOver_addCaptureEntries (E : Engine) (owner : RuleId) (location : String)
    (known : Captures) (captures : List (String × RuleDefinition)) (a : Arena) :
    TripsOver a (TableCountsTooFar captures)
      (addCaptureEntries E owner location known captures) := by
  cases captures with
  | nil =>
    rw [addCaptureEntries]
    exact tripsOver_pure.congr (by simp [TableCountsTooFar])
  | cons entry rest =>
    obtain ⟨key, d⟩ := entry
    obtain ⟨target, name, contentName, matchPattern, beginPattern, endPattern, whilePattern, own,
      beginCaptures, endCaptures, whileCaptures, endLast, patterns, repository, disabled⟩ := d
    rw [addCaptureEntries]
    split
    · rename_i hkey
      refine ((tripsOver_modify (Nat.le_refl _)).before fun _ a₁ _ ↦
        tripsOver_addCaptureEntries E owner location known rest a₁).congr ?_
      simp [TableCountsTooFar, CaptureCountsTooFar, hkey]
    · rename_i index hkey
      have hlt := lt_of_signedIndex?_eq_some hkey
      -- once its group is added, an entry trips if there is no room for it, or a later one does
      have hrest : ∀ group a, TripsOver a (index = indexBound - 1 ∨ TableCountsTooFar rest)
          (if index + 1 < indexBound then
            addCaptureEntries E owner location (known.insert index ⟨name.map .ofString, group⟩) rest
          else throw (.fault .captureIndexTooLarge)) := by
        intro group a
        split
        · have hroom : ¬index = indexBound - 1 := by omega
          exact (tripsOver_addCaptureEntries E owner location _ rest a).congr (by simp [hroom])
        · refine ⟨nofun, ?_⟩
          rintro _ _ ⟨⟩
          exact ⟨rfl, .inl (by omega)⟩
      dsimp only
      split
      · rename_i hpatterns
        refine (tripsOver_pure.before fun _ a₁ _ ↦ hrest _ a₁).congr ?_
        simp [TableCountsTooFar, CaptureCountsTooFar, hkey, List.isEmpty_iff.1 hpatterns]
      · rename_i hpatterns
        refine ((tripsOver_addGroup (d := capturedGroup { patterns, repository }) rfl rfl rfl
          (fun id a ↦ tripsOver_addRepository E id _ repository a)
          (fun id a ↦ tripsOver_addPatterns E id _ 0 patterns a)).map.bind
          fun _ a₁ _ ↦ hrest _ a₁).congr ?_
        have hne : patterns ≠ [] := fun h ↦ hpatterns (List.isEmpty_iff.2 h)
        simp [TableCountsTooFar, CaptureCountsTooFar, hkey, hne, or_assoc, capturedGroup]

end

/-! ### Grammars -/

/-- A selector that cannot be read is an error, no fault. -/
theorem tripsOver_readSelector (source : String) : TripsOver a False (readSelector source) := by
  rw [readSelector]
  split
  · exact tripsOver_pure
  · exact tripsOver_refuse

/-- Injections trip over the rule of one of them. -/
theorem tripsOver_addInjections (E : Engine) (injections : List (String × RuleDefinition))
    (a : Arena) : TripsOver a (RepositoryCountsTooFar injections) (addInjections E injections) := by
  induction injections generalizing a with
  | nil => exact tripsOver_pure.congr (by simp [RepositoryCountsTooFar])
  | cons injection rest ih =>
    obtain ⟨source, d⟩ := injection
    refine ((tripsOver_readSelector source).before fun _ a₁ _ ↦
      (tripsOver_addRule E (some rootRule) _ d a₁).bind fun _ a₂ _ ↦
      (ih a₂).bind fun _ _ _ ↦ tripsOver_pure).congr ?_
    simp [RepositoryCountsTooFar]

/-- The selector of an exported injection trips over nothing. -/
theorem tripsOver_readExported (source : Option String) :
    TripsOver a False (readExported source) := by
  cases source with
  | none => exact tripsOver_pure
  | some source => exact (tripsOver_readSelector source).before fun _ _ _ ↦ tripsOver_pure

/-- The root of a grammar is where it has to be, since nothing is added before it. -/
theorem tripsOver_addRoot (E : Engine) (d : GrammarDefinition) :
    TripsOver {} d.root.CountsTooFar (addRoot E d) := by
  refine ((tripsOver_addGroup (d := d.root) rfl rfl rfl
    (fun id a ↦ tripsOver_addRepository E id "" d.repository a)
    (fun id a ↦ tripsOver_addPatterns E id "" 0 d.patterns a)).bind
    fun id a₁ hgroup ↦ ?_).congr (by rw [or_false])
  obtain ⟨-, rfl, -⟩ := lays_addGroup (d := d.root) rfl rfl rfl
    (fun owner ↦ lays_addRepository E owner "" d.repository)
    (fun owner ↦ lays_addPatterns E owner "" 0 d.patterns) _ id a₁ hgroup
  exact tripsOver_pure

/-- A grammar trips over its root or over one of its injections. -/
theorem tripsOver_addGrammar (E : Engine) (d : GrammarDefinition) :
    TripsOver {} d.CountsTooFar (addGrammar E d) := by
  refine ((tripsOver_addRoot E d).bind fun _ a₁ _ ↦
    (tripsOver_addInjections E d.injections a₁).bind fun _ _ _ ↦
    (tripsOver_readExported d.injectionSelector).before fun _ _ _ ↦ tripsOver_pure).congr ?_
  simp [GrammarDefinition.CountsTooFar]

end Loading

namespace Grammar

/-- **Compiling a grammar ends with the grammar or with an error, unless a table of captures has a
key for the last index.** A grammar with such a key is never compiled: either an error is found
before the key is read, or compiling ends in a fault. All of this takes for granted that a table of
captures can be made as long as its largest index asks for. -/
theorem compile_outcome (d : GrammarDefinition) (E : Engine) :
    (∃ g, (compile d E).result = .ok g ∧ ¬d.CountsTooFar) ∨
      (∃ e, (compile d E).result = .error (.error e)) ∨
      (compile d E).result = .error (.fault .captureIndexTooLarge) ∧ d.CountsTooFar := by
  have htrips := Loading.tripsOver_addGrammar E d
  rw [compile]
  split
  · rename_i heq
    exact .inl ⟨_, rfl, (htrips.of_ok heq).1⟩
  · rename_i failure _ heq
    have hdue := htrips.of_error heq
    cases failure with
    | error e => exact .inr (.inl ⟨e, rfl⟩)
    | fault f =>
      obtain ⟨rfl, hfar⟩ := hdue
      exact .inr (.inr ⟨rfl, hfar⟩)
    | unfinished => exact hdue.elim

end Grammar

/-! ### A key for the last index -/

/-- A grammar whose only rule has a key for the last index. -/
def GrammarDefinition.lastCapture : GrammarDefinition where
  scopeName := "text"
  patterns :=
    [{ matchPattern := some "a"
       captures := some [("18446744073709551615", { name := some "x" })] }]

/-- No grammar comes of it and no error, though its pattern compiles. -/
theorem Grammar.compile_lastCapture :
    (compile .lastCapture).result = .error (.fault .captureIndexTooLarge) := by
  have hregex : ∀ rules, Loading.addRegex .machine "a" (joinLocation "patterns[0]" "match")
      ⟨rules, #[], #[]⟩ = .ok 0 ⟨rules, #[.ofPattern "a" "patterns[0].match"], #[]⟩ := by
    intro rules
    have hvalid : (Regex.ofPattern "a" (joinLocation "patterns[0]" "match")).validate .machine =
        .ok () := by
      decide +kernel
    rw [Loading.addRegex]
    simp only [hvalid]
    rfl
  have hrule : ∃ a, Loading.addRule .machine (some 0) "patterns[0]"
      { matchPattern := some "a"
        captures := some [("18446744073709551615", { name := some "x" })] }
      ⟨#[⟨0, none, false, .group ⟨[], []⟩⟩], #[], #[]⟩ =
        .error (.fault .captureIndexTooLarge) a := by
    rw [Loading.addRule]
    exact ⟨_, (Loading.bind_eq_of_eq_ok rfl).trans
      ((Loading.bind_eq_of_eq_ok (hregex _)).trans (Loading.bind_eq_of_eq_error rfl))⟩
  obtain ⟨a, hrule⟩ := hrule
  have hgrammar : (Loading.addGrammar .machine .lastCapture).run {} =
      .error (.fault .captureIndexTooLarge) a := by
    -- the root is reserved and has no repository; its only rule is what fails
    refine Loading.bind_eq_of_eq_error (Loading.bind_eq_of_eq_error ?_)
    exact (Loading.bind_eq_of_eq_ok rfl).trans ((Loading.bind_eq_of_eq_ok rfl).trans
      (Loading.bind_eq_of_eq_error (Loading.bind_eq_of_eq_error hrule)))
  rw [compile, hgrammar]

end ScopeGrammar
