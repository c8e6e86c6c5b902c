import ScopeGrammar.Grammar.Compile

/-!
# The layout of a compiled grammar

A rule takes its identifier before the rules that it holds, and these are added one after the other.
So the rules that come of a definition lie side by side in the arena, its own rule first, and what
each part of the definition is compiled to lies in a range of its own.

`CompiledRule` says this of a range of rules, by the shape of the definition: which rule stands at
its start, and how the ranges of its parts follow each other. It speaks of nothing outside the range
(`CompiledRule.of_agreeOn`), so that it stays true while more is added. That adding a definition
lays out such a range (`Loading.lays_addRule`) follows the definition once more.
-/

namespace ScopeGrammar

/-! ### What a definition is compiled from -/

namespace RuleDefinition

/-- What is done with the captures of the begin pattern. -/
def capturesAtBegin (d : RuleDefinition) : List (String × RuleDefinition) :=
  (d.beginCaptures.or d.captures).getD []

/-- How a region ends, and its end or while pattern. -/
def exit? (d : RuleDefinition) : Option (RegionKind × String) :=
  match d.whilePattern, d.endPattern with
  | some whilePattern, _ => some (.beginWhile, whilePattern)
  | none, some endPattern => some (.beginEnd, endPattern)
  | none, none => none

/-- What is done with the captures of the end or while pattern. -/
def capturesAtExit (d : RuleDefinition) : RegionKind → List (String × RuleDefinition)
  | .beginEnd => (d.endCaptures.or d.captures).getD []
  | .beginWhile => (d.whileCaptures.or d.captures).getD []

/-- The group that the text of a capture is tokenized by. -/
def capturedGroup (d : RuleDefinition) : RuleDefinition :=
  { patterns := d.patterns, repository := d.repository }

end RuleDefinition

/-- The group at the root of a grammar. -/
def GrammarDefinition.root (d : GrammarDefinition) : RuleDefinition :=
  { patterns := d.patterns, repository := d.repository }

/-! ### Ranges of compiled rules -/

section

variable (E : Engine) (rules : Array Rule) (regexes : Array Regex)

mutual

/-- **The rules from `lo` up to `hi` are what a definition is compiled to.** Its own rule stands at
`lo`, and those that it holds follow. -/
inductive CompiledRule : Option RuleId → String → RuleDefinition → RuleId → RuleId → Prop
  | mk {parent : Option RuleId} {location : String} {d : RuleDefinition} {lo hi : RuleId}
      {body : RuleBody} (hrule : rules[lo]? = some ⟨lo, parent, d.disabled, body⟩)
      (hbody : CompiledBody lo location d (lo + 1) hi body) :
      CompiledRule parent location d lo hi

/-- The body of the rule of a definition, and the range of the rules that it holds. -/
inductive CompiledBody : RuleId → String → RuleDefinition → RuleId → RuleId → RuleBody → Prop
  | includes {owner : RuleId} {location : String} {d : RuleDefinition} {lo : RuleId}
      {target : String} (htarget : d.target = some target) :
      CompiledBody owner location d lo lo (.includes (.ofString target))
  | single {owner : RuleId} {location : String} {d : RuleDefinition} {lo hi : RuleId}
      {pattern : String} {regex : RegexId} {captures : Captures} (htarget : d.target = none)
      (hpattern : d.matchPattern = some pattern)
      (hregex : regexes[regex]? = some (.ofPattern pattern (joinLocation location "match")))
      (hvalid : (Regex.ofPattern pattern (joinLocation location "match")).validate E = .ok ())
      (hcaptures : CompiledCaptures owner (joinLocation location "captures") {}
        (d.captures.getD []) lo hi captures) :
      CompiledBody owner location d lo hi (.single ⟨d.name.map .ofString, regex, captures⟩)
  | region {owner : RuleId} {location : String} {d : RuleDefinition}
      {lo lo₁ lo₂ lo₃ hi : RuleId} {beginPattern exitPattern : String} {kind : RegionKind}
      {begin exit : RegexId} {beginCaptures exitCaptures : Captures} {repository : Repository}
      {patterns : List RuleId} {exitRegex : Regex} (htarget : d.target = none)
      (hmatch : d.matchPattern = none)
      (hbeginPattern : d.beginPattern = some beginPattern)
      (hexitPattern : d.exit? = some (kind, exitPattern))
      (hbegin : regexes[begin]? = some (.ofPattern beginPattern (joinLocation location "begin")))
      (hvalid : (Regex.ofPattern beginPattern (joinLocation location "begin")).validate E = .ok ())
      (hexitRegex : exitRegex = .ofPattern exitPattern (joinLocation location kind.exitKey))
      (hexit : regexes[exit]? = some exitRegex)
      (hexitValid : (if exitRegex.hasReferences then exitRegex.validateTemplate E
        else exitRegex.validate E) = .ok ())
      (hbeginCaptures : CompiledCaptures owner (joinLocation location "beginCaptures") {}
        d.capturesAtBegin lo lo₁ beginCaptures)
      (hexitCaptures : CompiledCaptures owner (joinLocation location (kind.exitKey ++ "Captures"))
        {} (d.capturesAtExit kind) lo₁ lo₂ exitCaptures)
      (hrepository : CompiledRepository owner location d.repository lo₂ lo₃ repository)
      (hpatterns : CompiledPatterns owner location 0 d.patterns lo₃ hi patterns) :
      CompiledBody owner location d lo hi (.region
        { kind, name := d.name.map .ofString, contentName := d.contentName.map .ofString
          begin, beginCaptures, exit, exitHasReferences := exitRegex.hasReferences, exitCaptures
          endLast := kind == .beginEnd && d.endLast
          patterns, repository })
  | group {owner : RuleId} {location : String} {d : RuleDefinition} {lo mid hi : RuleId}
      {repository : Repository} {patterns : List RuleId} (htarget : d.target = none)
      (hmatch : d.matchPattern = none) (hbegin : d.beginPattern = none)
      (hrepository : CompiledRepository owner location d.repository lo mid repository)
      (hpatterns : CompiledPatterns owner location 0 d.patterns mid hi patterns) :
      CompiledBody owner location d lo hi (.group ⟨patterns, repository⟩)

/-- The rules that the entries of a repository are compiled to, in their order. -/
inductive CompiledRepository : RuleId → String → List (String × RuleDefinition) → RuleId → RuleId →
    Repository → Prop
  | nil {owner : RuleId} {location : String} {lo : RuleId} :
      CompiledRepository owner location [] lo lo []
  | cons {owner : RuleId} {location name : String} {d : RuleDefinition}
      {rest : List (String × RuleDefinition)} {lo mid hi : RuleId} {ids : Repository}
      (hrule : CompiledRule (some owner) (joinLocation location ("repository." ++ name)) d lo mid)
      (hrest : CompiledRepository owner location rest mid hi ids) :
      CompiledRepository owner location ((name, d) :: rest) lo hi ((name, lo) :: ids)

/-- The rules that a list of definitions is compiled to, of which the first has the index `i` among
those of its owner. -/
inductive CompiledPatterns : RuleId → String → Nat → List RuleDefinition → RuleId → RuleId →
    List RuleId → Prop
  | nil {owner : RuleId} {location : String} {i : Nat} {lo : RuleId} :
      CompiledPatterns owner location i [] lo lo []
  | cons {owner : RuleId} {location : String} {i : Nat} {d : RuleDefinition}
      {rest : List RuleDefinition} {lo mid hi : RuleId} {ids : List RuleId}
      (hrule : CompiledRule (some owner)
        (joinLocation location ("patterns[" ++ toString i ++ "]")) d lo mid)
      (hrest : CompiledPatterns owner location (i + 1) rest mid hi ids) :
      CompiledPatterns owner location i (d :: rest) lo hi (lo :: ids)

/-- What the entries for captures come to when others are known before them. A group whose entry is
replaced by a later one keeps its place among the rules. -/
inductive CompiledCaptures : RuleId → String → Captures → List (String × RuleDefinition) → RuleId →
    RuleId → Captures → Prop
  | nil {owner : RuleId} {location : String} {known : Captures} {lo : RuleId} :
      CompiledCaptures owner location known [] lo lo known
  | stray {owner : RuleId} {location key : String} {known captures : Captures} {d : RuleDefinition}
      {rest : List (String × RuleDefinition)} {lo hi : RuleId}
      (hkey : signedIndex? key.toList = none)
      (hrest : CompiledCaptures owner location known rest lo hi captures) :
      CompiledCaptures owner location known ((key, d) :: rest) lo hi captures
  | named {owner : RuleId} {location key : String} {known captures : Captures}
      {d : RuleDefinition} {rest : List (String × RuleDefinition)} {lo hi : RuleId} {index : Nat}
      (hkey : signedIndex? key.toList = some index) (hpatterns : d.patterns = [])
      (hrest : CompiledCaptures owner location
        (known.insert index ⟨d.name.map .ofString, none⟩) rest lo hi captures) :
      CompiledCaptures owner location known ((key, d) :: rest) lo hi captures
  | group {owner : RuleId} {location key : String} {known captures : Captures}
      {d : RuleDefinition} {rest : List (String × RuleDefinition)} {lo mid hi : RuleId}
      {index : Nat} (hkey : signedIndex? key.toList = some index) (hpatterns : d.patterns ≠ [])
      (hgroup : CompiledRule (some owner) (joinLocation location key) d.capturedGroup lo mid)
      (hrest : CompiledCaptures owner location
        (known.insert index ⟨d.name.map .ofString, some lo⟩) rest mid hi captures) :
      CompiledCaptures owner location known ((key, d) :: rest) lo hi captures

end

/-- The rules that injections are compiled to, in their order. The root of the grammar holds
them. -/
inductive CompiledInjections : List (String × RuleDefinition) → RuleId → RuleId → List Injection →
    Prop
  | nil {lo : RuleId} : CompiledInjections [] lo lo []
  | cons {source : String} {selector : ScopeSelector} {d : RuleDefinition}
      {rest : List (String × RuleDefinition)} {lo mid hi : RuleId} {injections : List Injection}
      (hselector : ScopeSelector.parse source = .ok selector)
      (hrule : CompiledRule E rules regexes (some rootRule) ("injections." ++ source) d lo mid)
      (hrest : CompiledInjections rest mid hi injections) :
      CompiledInjections ((source, d) :: rest) lo hi (⟨selector, lo⟩ :: injections)

end

/-! ### Ranges are in order -/

section

variable {E : Engine} {rules rules' : Array Rule} {regexes regexes' : Array Regex}

mutual

/-- A definition takes at least one place, that of its own rule. -/
theorem CompiledRule.lt {parent : Option RuleId} {location : String} {d : RuleDefinition}
    {lo hi : RuleId} : CompiledRule E rules regexes parent location d lo hi → lo < hi
  | .mk _ hbody => hbody.le

/-- What a rule holds takes the places up to some later one. -/
theorem CompiledBody.le {owner : RuleId} {location : String} {d : RuleDefinition}
    {lo hi : RuleId} {body : RuleBody} :
    CompiledBody E rules regexes owner location d lo hi body → lo ≤ hi
  | .includes _ => Nat.le_refl _
  | .single _ _ _ _ hcaptures => hcaptures.le
  | .region _ _ _ _ _ _ _ _ _ hbeginCaptures hexitCaptures hrepository hpatterns =>
    Nat.le_trans (Nat.le_trans hbeginCaptures.le hexitCaptures.le)
      (Nat.le_trans hrepository.le hpatterns.le)
  | .group _ _ _ hrepository hpatterns => Nat.le_trans hrepository.le hpatterns.le

/-- A repository takes the places up to some later one. -/
theorem CompiledRepository.le {owner : RuleId} {location : String}
    {ds : List (String × RuleDefinition)} {lo hi : RuleId} {ids : Repository} :
    CompiledRepository E rules regexes owner location ds lo hi ids → lo ≤ hi
  | .nil => Nat.le_refl _
  | .cons hrule hrest => Nat.le_trans (Nat.le_of_lt hrule.lt) hrest.le

/-- Patterns take the places up to some later one. -/
theorem CompiledPatterns.le {owner : RuleId} {location : String} {i : Nat}
    {ds : List RuleDefinition} {lo hi : RuleId} {ids : List RuleId} :
    CompiledPatterns E rules regexes owner location i ds lo hi ids → lo ≤ hi
  | .nil => Nat.le_refl _
  | .cons hrule hrest => Nat.le_trans (Nat.le_of_lt hrule.lt) hrest.le

/-- Captures take the places up to some later one. -/
theorem CompiledCaptures.le {owner : RuleId} {location : String} {known captures : Captures}
    {ds : List (String × RuleDefinition)} {lo hi : RuleId} :
    CompiledCaptures E rules regexes owner location known ds lo hi captures → lo ≤ hi
  | .nil => Nat.le_refl _
  | .stray _ hrest => hrest.le
  | .named _ _ hrest => hrest.le
  | .group _ _ hgroup hrest => Nat.le_trans (Nat.le_of_lt hgroup.lt) hrest.le

end

/-! ### Only the range counts -/

/-- Two arenas have the same rules in a range, and the second has all patterns of the first. -/
structure AgreeOn (rules rules' : Array Rule) (regexes regexes' : Array Regex) (lo hi : RuleId) :
    Prop where
  rule_eq : ∀ id, lo ≤ id → id < hi → rules'[id]? = rules[id]?
  regex_kept : ∀ (id : RegexId) (r : Regex), regexes[id]? = some r → regexes'[id]? = some r

/-- Rules that agree in a range agree in every part of it. -/
theorem AgreeOn.mono {lo hi lo' hi' : RuleId} (h : AgreeOn rules rules' regexes regexes' lo hi)
    (hlo : lo ≤ lo') (hhi : hi' ≤ hi) : AgreeOn rules rules' regexes regexes' lo' hi' :=
  ⟨fun id hid hid' ↦ h.rule_eq id (Nat.le_trans hlo hid) (Nat.lt_of_lt_of_le hid' hhi),
    h.regex_kept⟩

mutual

/-- What a definition is compiled to is read off the rules of its range alone. -/
theorem CompiledRule.of_agreeOn {parent : Option RuleId} {location : String} {d : RuleDefinition}
    {lo hi : RuleId} : CompiledRule E rules regexes parent location d lo hi →
    AgreeOn rules rules' regexes regexes' lo hi →
    CompiledRule E rules' regexes' parent location d lo hi
  | .mk hrule hbody, hagree => by
    have hlt : lo < hi := hbody.le
    refine .mk ?_ (hbody.of_agreeOn (hagree.mono (Nat.le_succ _) (Nat.le_refl _)))
    rw [hagree.rule_eq lo (Nat.le_refl _) hlt, hrule]

/-- What the body of a rule is compiled to is read off the range of its parts alone. -/
theorem CompiledBody.of_agreeOn {owner : RuleId} {location : String} {d : RuleDefinition}
    {lo hi : RuleId} {body : RuleBody} :
    CompiledBody E rules regexes owner location d lo hi body →
    AgreeOn rules rules' regexes regexes' lo hi →
    CompiledBody E rules' regexes' owner location d lo hi body
  | .includes htarget, _ => .includes htarget
  | .single htarget hpattern hregex hvalid hcaptures, hagree =>
    .single htarget hpattern (hagree.regex_kept _ _ hregex) hvalid (hcaptures.of_agreeOn hagree)
  | .region htarget hmatch hbeginPattern hexitPattern hbegin hvalid hexitRegex hexit hexitValid
      hbeginCaptures hexitCaptures hrepository hpatterns, hagree => by
    have h₁₂ := Nat.le_trans hbeginCaptures.le hexitCaptures.le
    have h₃₄ := Nat.le_trans hrepository.le hpatterns.le
    exact .region htarget hmatch hbeginPattern hexitPattern (hagree.regex_kept _ _ hbegin) hvalid
      hexitRegex (hagree.regex_kept _ _ hexit) hexitValid
      (hbeginCaptures.of_agreeOn
        (hagree.mono (Nat.le_refl _) (Nat.le_trans hexitCaptures.le h₃₄)))
      (hexitCaptures.of_agreeOn (hagree.mono hbeginCaptures.le h₃₄))
      (hrepository.of_agreeOn (hagree.mono h₁₂ hpatterns.le))
      (hpatterns.of_agreeOn (hagree.mono (Nat.le_trans h₁₂ hrepository.le) (Nat.le_refl _)))
  | .group htarget hmatch hbegin hrepository hpatterns, hagree =>
    .group htarget hmatch hbegin
      (hrepository.of_agreeOn (hagree.mono (Nat.le_refl _) hpatterns.le))
      (hpatterns.of_agreeOn (hagree.mono hrepository.le (Nat.le_refl _)))

/-- What a repository is compiled to is read off its range alone. -/
theorem CompiledRepository.of_agreeOn {owner : RuleId} {location : String}
    {ds : List (String × RuleDefinition)} {lo hi : RuleId} {ids : Repository} :
    CompiledRepository E rules regexes owner location ds lo hi ids →
    AgreeOn rules rules' regexes regexes' lo hi →
    CompiledRepository E rules' regexes' owner location ds lo hi ids
  | .nil, _ => .nil
  | .cons hrule hrest, hagree =>
    .cons (hrule.of_agreeOn (hagree.mono (Nat.le_refl _) hrest.le))
      (hrest.of_agreeOn (hagree.mono (Nat.le_of_lt hrule.lt) (Nat.le_refl _)))

/-- What patterns are compiled to is read off their range alone. -/
theorem CompiledPatterns.of_agreeOn {owner : RuleId} {location : String} {i : Nat}
    {ds : List RuleDefinition} {lo hi : RuleId} {ids : List RuleId} :
    CompiledPatterns E rules regexes owner location i ds lo hi ids →
    AgreeOn rules rules' regexes regexes' lo hi →
    CompiledPatterns E rules' regexes' owner location i ds lo hi ids
  | .nil, _ => .nil
  | .cons hrule hrest, hagree =>
    .cons (hrule.of_agreeOn (hagree.mono (Nat.le_refl _) hrest.le))
      (hrest.of_agreeOn (hagree.mono (Nat.le_of_lt hrule.lt) (Nat.le_refl _)))

/-- What captures are compiled to is read off their range alone. -/
theorem CompiledCaptures.of_agreeOn {owner : RuleId} {location : String}
    {known captures : Captures} {ds : List (String × RuleDefinition)} {lo hi : RuleId} :
    CompiledCaptures E rules regexes owner location known ds lo hi captures →
    AgreeOn rules rules' regexes regexes' lo hi →
    CompiledCaptures E rules' regexes' owner location known ds lo hi captures
  | .nil, _ => .nil
  | .stray hkey hrest, hagree => .stray hkey (hrest.of_agreeOn hagree)
  | .named hkey hpatterns hrest, hagree => .named hkey hpatterns (hrest.of_agreeOn hagree)
  | .group hkey hpatterns hgroup hrest, hagree =>
    .group hkey hpatterns (hgroup.of_agreeOn (hagree.mono (Nat.le_refl _) hrest.le))
      (hrest.of_agreeOn (hagree.mono (Nat.le_of_lt hgroup.lt) (Nat.le_refl _)))

end

end

/-! ### Growing arenas -/

/-- The second arena came of the first one by adding to it. -/
structure Arena.Grows (a a' : Arena) : Prop where
  size_le : a.rules.size ≤ a'.rules.size
  agreeOn : AgreeOn a.rules a'.rules a.regexes a'.regexes 0 a.rules.size

namespace Arena.Grows

variable {a a' a'' : Arena}

/-- An arena grows by nothing. -/
theorem refl (a : Arena) : a.Grows a :=
  ⟨Nat.le_refl _, fun _ _ _ ↦ rfl, fun _ _ h ↦ h⟩

/-- What is added in two steps is added. -/
theorem trans (h : a.Grows a') (h' : a'.Grows a'') : a.Grows a'' where
  size_le := Nat.le_trans h.size_le h'.size_le
  agreeOn.rule_eq id hlo hid := by
    rw [h'.agreeOn.rule_eq id hlo (Nat.lt_of_lt_of_le hid h.size_le), h.agreeOn.rule_eq id hlo hid]
  agreeOn.regex_kept id r hr := h'.agreeOn.regex_kept id r (h.agreeOn.regex_kept id r hr)

/-- What was laid out before is not touched. -/
theorem agreeOn_of_le (h : a.Grows a') {lo hi : RuleId} (hhi : hi ≤ a.rules.size) :
    AgreeOn a.rules a'.rules a.regexes a'.regexes lo hi :=
  h.agreeOn.mono (Nat.zero_le _) hhi

end Arena.Grows

namespace Loading

variable {α β : Type} {E : Engine} {parent : Option RuleId} {disabled : Bool} {location : String}

/-- A sequence of two computations gets to its end if both of them do. -/
theorem bind_eq_ok {x : Loading α} {f : α → Loading β} {a a'' : Arena} {b : β}
    (h : (x >>= f) a = .ok b a'') : ∃ v a', x a = .ok v a' ∧ f v a' = .ok b a'' := by
  change EStateM.bind x f a = _ at h
  rw [EStateM.bind] at h
  split at h
  · rename_i v a' heq
    exact ⟨v, a', heq, h⟩
  · contradiction

/-- A sequence goes on from the result of its first part. -/
theorem bind_eq_of_eq_ok {x : Loading α} {f : α → Loading β} {v : α} {a a' : Arena}
    (h : x a = .ok v a') : (x >>= f) a = f v a' := by
  show EStateM.bind x f a = _
  rw [EStateM.bind, h]

/-- The computation only adds to the arena, and what it adds is laid out as `P` says. -/
def Lays (x : Loading α) (P : Array Rule → Array Regex → RuleId → RuleId → α → Prop) : Prop :=
  ∀ a v a', x a = .ok v a' → a.Grows a' ∧ P a'.rules a'.regexes a.rules.size a'.rules.size v

/-- What adds nothing lays out an empty range. -/
theorem lays_pure {P : Array Rule → Array Regex → RuleId → RuleId → α → Prop} {v : α}
    (h : ∀ rules regexes lo, P rules regexes lo lo v) : Lays (pure v) P := by
  rintro a v' a' ⟨⟩
  exact ⟨.refl a, h _ _ _⟩

/-! ### Patterns -/

/-- The next identifier is the number of those before it. -/
theorem nextIndex_eq_ok {size id : Nat} {kind : String} {a a' : Arena}
    (h : nextIndex size location kind a = .ok id a') : id = size ∧ a' = a := by
  rw [nextIndex] at h
  split at h
  · obtain ⟨⟩ := h
    exact ⟨rfl, rfl⟩
  · contradiction

/-- Adding a pattern changes no rule and no pattern that is there. -/
theorem grows_push_regex (a : Arena) (r : Regex) :
    a.Grows { a with regexes := a.regexes.push r } := by
  refine ⟨Nat.le_refl _, fun _ _ _ ↦ rfl, fun id r' hr' ↦ ?_⟩
  have hid : id < a.regexes.size := (Array.getElem?_eq_some_iff.1 hr').1
  rw [Array.getElem?_push, if_neg (Nat.ne_of_lt hid), hr']

/-- Adds a pattern that was checked. -/
def addChecked (r : Regex) (checked : Except RegexError Unit) : Loading RegexId := do
  let id ← nextIndex (← get).regexes.size r.location "patterns"
  match checked with
  | .error e => refuse (.regex e)
  | .ok () =>
    modify fun a ↦ { a with regexes := a.regexes.push r }
    pure id

/-- A pattern is checked as it stands. -/
theorem addRegex_eq (pattern : String) :
    addRegex E pattern location = addChecked (.ofPattern pattern location)
      ((Regex.ofPattern pattern location).validate E) :=
  rfl

/-- An end or while pattern is checked as it stands, or with other text for its references. -/
theorem addExitRegex_eq (pattern : String) :
    addExitRegex E pattern location =
      (·, (Regex.ofPattern pattern location).hasReferences) <$>
        addChecked (.ofPattern pattern location)
          (if (Regex.ofPattern pattern location).hasReferences then
            (Regex.ofPattern pattern location).validateTemplate E
            else (Regex.ofPattern pattern location).validate E) := by
  rw [addExitRegex, addChecked, map_bind]
  refine bind_congr fun a ↦ ?_
  rw [map_bind]
  refine bind_congr fun id ↦ ?_
  dsimp only
  generalize Regex.ofPattern pattern location = r
  generalize (if r.hasReferences then r.validateTemplate E else r.validate E) = checked
  cases checked <;> rfl

/-- A pattern that passes its check is added, and nothing else is. -/
theorem addChecked_eq_ok {r : Regex} {checked : Except RegexError Unit} {a a' : Arena}
    {id : RegexId} (h : addChecked r checked a = .ok id a') :
    a.Grows a' ∧ a'.rules = a.rules ∧ a'.regexes[id]? = some r ∧ checked = .ok () := by
  obtain ⟨_, _, ⟨⟩, h⟩ := bind_eq_ok h
  obtain ⟨_, _, hid, h⟩ := bind_eq_ok h
  obtain ⟨rfl, rfl⟩ := nextIndex_eq_ok hid
  cases checked with
  | error e => contradiction
  | ok _ =>
    obtain ⟨_, _, ⟨⟩, ⟨⟩⟩ := bind_eq_ok h
    exact ⟨grows_push_regex _ _, rfl, Array.getElem?_push_size, rfl⟩

/-- A pattern that is added has compiled. -/
theorem addRegex_eq_ok {pattern : String} {a a' : Arena} {id : RegexId}
    (h : addRegex E pattern location a = .ok id a') :
    a.Grows a' ∧ a'.rules = a.rules ∧ a'.regexes[id]? = some (.ofPattern pattern location) ∧
      (Regex.ofPattern pattern location).validate E = .ok () := by
  rw [addRegex_eq] at h
  exact addChecked_eq_ok h

/-- So has an end or while pattern, unless other text is to be filled in. -/
theorem addExitRegex_eq_ok {pattern : String} {a a' : Arena} {exit : RegexId × Bool}
    (h : addExitRegex E pattern location a = .ok exit a') :
    a.Grows a' ∧ a'.rules = a.rules ∧ a'.regexes[exit.1]? = some (.ofPattern pattern location) ∧
      exit.2 = (Regex.ofPattern pattern location).hasReferences ∧
      (if (Regex.ofPattern pattern location).hasReferences then
        (Regex.ofPattern pattern location).validateTemplate E
        else (Regex.ofPattern pattern location).validate E) = .ok () := by
  rw [addExitRegex_eq, map_eq_pure_bind] at h
  obtain ⟨id, _, hid, ⟨⟩⟩ := bind_eq_ok h
  obtain ⟨hgrows, hrules, hregex, hchecked⟩ := addChecked_eq_ok hid
  exact ⟨hgrows, hrules, hregex, rfl, hchecked⟩

/-! ### Rules -/

/-- The place of a rule is taken at the end. -/
theorem reserve_eq_ok {a a' : Arena} {id : RuleId}
    (h : reserve parent disabled location a = .ok id a') :
    id = a.rules.size ∧ a' =
      { a with rules := a.rules.push ⟨a.rules.size, parent, disabled, .group ⟨[], []⟩⟩ } := by
  obtain ⟨_, _, ⟨⟩, h⟩ := bind_eq_ok h
  obtain ⟨_, _, hid, h⟩ := bind_eq_ok h
  obtain ⟨rfl, rfl⟩ := nextIndex_eq_ok hid
  obtain ⟨_, _, ⟨⟩, ⟨⟩⟩ := bind_eq_ok h
  exact ⟨rfl, rfl⟩

/-- A rule is only put in a place that is there. -/
theorem define_eq_ok {a a' : Arena} {id : RuleId} {body : RuleBody} {u : Unit}
    (h : define id parent disabled body a = .ok u a') :
    a' = { a with rules := a.rules.setIfInBounds id ⟨id, parent, disabled, body⟩ } := by
  obtain ⟨_, _, ⟨⟩, h⟩ := bind_eq_ok h
  split at h
  · obtain ⟨⟩ := h
    rfl
  · contradiction

/-- Adds a rule whose body is made of the rules that it holds. -/
def addHolding (parent : Option RuleId) (disabled : Bool) (location : String)
    (body : RuleId → Loading RuleBody) : Loading RuleId := do
  let id ← reserve parent disabled location
  let body ← body id
  define id parent disabled body
  pure id

/-- **A rule stands before the rules that it holds.** Its place is taken first, and putting it there
in the end touches none of the others. -/
theorem lays_addHolding {d : RuleDefinition} {body : RuleId → Loading RuleBody}
    (hbody : ∀ owner, Lays (body owner) (CompiledBody E · · owner location d)) :
    Lays (addHolding parent d.disabled location body) fun rules regexes lo hi id ↦
      id = lo ∧ CompiledRule E rules regexes parent location d lo hi := by
  intro a id a' h
  obtain ⟨id, a₁, hreserve, h⟩ := bind_eq_ok h
  obtain ⟨b, a₂, hb, h⟩ := bind_eq_ok h
  obtain ⟨_, a₃, hdefine, ⟨⟩⟩ := bind_eq_ok h
  obtain ⟨rfl, rfl⟩ := reserve_eq_ok hreserve
  obtain ⟨hgrows, hcompiled⟩ := hbody a.rules.size _ b a₂ hb
  obtain rfl := define_eq_ok hdefine
  have hsize := hgrows.size_le
  rw [Array.size_push] at hsize hcompiled
  have hset : ∀ id' rule, id' ≠ a.rules.size →
      (a₂.rules.setIfInBounds a.rules.size rule)[id']? = a₂.rules[id']? :=
    fun id' rule hne ↦ Array.getElem?_setIfInBounds_ne (Ne.symm hne)
  have hat : ∀ rule, (a₂.rules.setIfInBounds a.rules.size rule)[a.rules.size]? = some rule := by
    intro rule
    rw [Array.getElem?_setIfInBounds_self_of_lt hsize]
  dsimp only
  rw [Array.size_setIfInBounds]
  refine ⟨⟨?_, fun id' hid _ ↦ ?_, hgrows.agreeOn.regex_kept⟩, rfl, .mk (hat _) ?_⟩
  · rw [Array.size_setIfInBounds]
    exact Nat.le_of_succ_le hsize
  · rename_i hlt
    rw [hset id' _ (Nat.ne_of_lt hlt), hgrows.agreeOn.rule_eq id' hid (by
      rw [Array.size_push]; exact Nat.lt_succ_of_lt hlt)]
    rw [Array.getElem?_push, if_neg (Nat.ne_of_lt hlt)]
  · exact hcompiled.of_agreeOn ⟨fun id' hid _ ↦ hset id' _ (Nat.ne_of_gt hid), fun _ _ h ↦ h⟩

/-! ### The kinds of rules -/

section

variable {d : RuleDefinition} {repository : RuleId → Loading Repository}
  {patterns : RuleId → Loading (List RuleId)}

/-- An include is a rule that holds nothing but a name. -/
theorem addInclude_eq (target : String) :
    addInclude parent disabled location target =
      addHolding parent disabled location fun _ ↦ pure (.includes (.ofString target)) := by
  simp only [addInclude, addHolding, pure_bind]

/-- A group takes its own place first, then those of its repository and of its patterns. -/
theorem addGroup_eq :
    addGroup parent disabled location repository patterns =
      addHolding parent disabled location (fun id ↦ do
        let repository ← repository id
        let patterns ← patterns id
        pure (.group ⟨patterns, repository⟩)) := by
  simp only [addGroup, addHolding, bind_assoc, pure_bind]

/-- A group is laid out in the order in which its parts are added. -/
theorem lays_addGroup (htarget : d.target = none) (hmatch : d.matchPattern = none)
    (hbegin : d.beginPattern = none)
    (hrepository : ∀ owner,
      Lays (repository owner) (CompiledRepository E · · owner location d.repository))
    (hpatterns : ∀ owner,
      Lays (patterns owner) (CompiledPatterns E · · owner location 0 d.patterns)) :
    Lays (addGroup parent d.disabled location repository patterns) fun rules regexes lo hi id ↦
      id = lo ∧ CompiledRule E rules regexes parent location d lo hi := by
  rw [addGroup_eq]
  refine lays_addHolding fun owner a b a' h ↦ ?_
  obtain ⟨r, a₁, hr, h⟩ := bind_eq_ok h
  obtain ⟨ps, a₂, hps, ⟨⟩⟩ := bind_eq_ok h
  obtain ⟨hgrows₁, hr⟩ := hrepository owner a r a₁ hr
  obtain ⟨hgrows₂, hps⟩ := hpatterns owner a₁ ps a' hps
  exact ⟨hgrows₁.trans hgrows₂, .group htarget hmatch hbegin
    (hr.of_agreeOn (hgrows₂.agreeOn_of_le (Nat.le_refl _))) hps⟩

/-- A rule of a single pattern takes its own place first, then those of its captures. -/
theorem addSingle_eq {name : Option String} {matchPattern : String}
    {captures : RuleId → Loading Captures} :
    addSingle E parent disabled location name matchPattern captures =
      addHolding parent disabled location (fun id ↦ do
        let regex ← addRegex E matchPattern (joinLocation location "match")
        let captures ← captures id
        pure (.single ⟨name.map .ofString, regex, captures⟩)) := by
  simp only [addSingle, addHolding, bind_assoc, pure_bind]

/-- A rule of a single pattern is laid out in the order in which its parts are added. -/
theorem lays_addSingle {pattern : String} {captures : RuleId → Loading Captures}
    (htarget : d.target = none) (hpattern : d.matchPattern = some pattern)
    (hcaptures : ∀ owner, Lays (captures owner)
      (CompiledCaptures E · · owner (joinLocation location "captures") {} (d.captures.getD []))) :
    Lays (addSingle E parent d.disabled location d.name pattern captures)
      fun rules regexes lo hi id ↦
        id = lo ∧ CompiledRule E rules regexes parent location d lo hi := by
  rw [addSingle_eq]
  refine lays_addHolding fun owner a b a' h ↦ ?_
  obtain ⟨regex, a₁, hregex, h⟩ := bind_eq_ok h
  obtain ⟨cs, a₂, hcs, ⟨⟩⟩ := bind_eq_ok h
  obtain ⟨hgrows₁, hrules, hregex, hvalid⟩ := addRegex_eq_ok hregex
  obtain ⟨hgrows₂, hcs⟩ := hcaptures owner a₁ cs a' hcs
  rw [hrules] at hcs
  exact ⟨hgrows₁.trans hgrows₂, .single htarget hpattern
    (hgrows₂.agreeOn.regex_kept _ _ hregex) hvalid hcs⟩

/-- Only a region that something ends is added. -/
theorem regionExit_eq_ok {a a' : Arena} {exit : RegionKind × String}
    (h : regionExit location d.endPattern d.whilePattern a = .ok exit a') :
    d.exit? = some exit ∧ a' = a := by
  rw [RuleDefinition.exit?]
  cases hwhile : d.whilePattern with
  | some whilePattern =>
    rw [hwhile] at h
    obtain ⟨⟩ := h
    exact ⟨rfl, rfl⟩
  | none =>
    cases hend : d.endPattern with
    | some endPattern =>
      rw [hwhile, hend] at h
      obtain ⟨⟩ := h
      exact ⟨rfl, rfl⟩
    | none =>
      rw [hwhile, hend] at h
      contradiction

/-- A region takes its own place first, then those of the captures of its begin pattern, those of
its end or while pattern, its repository and its patterns. -/
theorem addRegion_eq {name contentName : Option String} {beginPattern : String}
    {endPattern whilePattern : Option String} {endLast : Bool}
    {beginCaptures : RuleId → Loading Captures}
    {exitCaptures : RegionKind → RuleId → Loading Captures} :
    addRegion E parent disabled location name contentName beginPattern endPattern whilePattern
        endLast beginCaptures exitCaptures repository patterns =
      addHolding parent disabled location (fun id ↦ do
        let begin ← addRegex E beginPattern (joinLocation location "begin")
        let beginCaptures ← beginCaptures id
        let (kind, exitPattern) ← regionExit location endPattern whilePattern
        let (exit, exitHasReferences) ←
          addExitRegex E exitPattern (joinLocation location kind.exitKey)
        let exitCaptures ← exitCaptures kind id
        let repository ← repository id
        let patterns ← patterns id
        pure (.region
          { kind, name := name.map .ofString, contentName := contentName.map .ofString
            begin, beginCaptures, exit, exitHasReferences, exitCaptures
            endLast := kind == .beginEnd && endLast
            patterns, repository })) := by
  simp only [addRegion, addHolding, bind_assoc, pure_bind]

/-- A region is laid out in the order in which its parts are added. -/
theorem lays_addRegion {beginPattern : String} {beginCaptures : RuleId → Loading Captures}
    {exitCaptures : RegionKind → RuleId → Loading Captures} (htarget : d.target = none)
    (hmatch : d.matchPattern = none) (hbeginPattern : d.beginPattern = some beginPattern)
    (hbeginCaptures : ∀ owner, Lays (beginCaptures owner)
      (CompiledCaptures E · · owner (joinLocation location "beginCaptures") {} d.capturesAtBegin))
    (hexitCaptures : ∀ kind owner, Lays (exitCaptures kind owner)
      (CompiledCaptures E · · owner (joinLocation location (kind.exitKey ++ "Captures")) {}
        (d.capturesAtExit kind)))
    (hrepository : ∀ owner,
      Lays (repository owner) (CompiledRepository E · · owner location d.repository))
    (hpatterns : ∀ owner,
      Lays (patterns owner) (CompiledPatterns E · · owner location 0 d.patterns)) :
    Lays (addRegion E parent d.disabled location d.name d.contentName beginPattern d.endPattern
      d.whilePattern d.endLast beginCaptures exitCaptures repository patterns)
        fun rules regexes lo hi id ↦
          id = lo ∧ CompiledRule E rules regexes parent location d lo hi := by
  rw [addRegion_eq]
  refine lays_addHolding fun owner a b a' h ↦ ?_
  obtain ⟨begin, a₁, hbegin, h⟩ := bind_eq_ok h
  obtain ⟨bcs, a₂, hbcs, h⟩ := bind_eq_ok h
  obtain ⟨⟨kind, exitPattern⟩, a₃, hregion, h⟩ := bind_eq_ok h
  obtain ⟨⟨exit, hasReferences⟩, a₄, hexit, h⟩ := bind_eq_ok h
  obtain ⟨ecs, a₅, hecs, h⟩ := bind_eq_ok h
  obtain ⟨r, a₆, hr, h⟩ := bind_eq_ok h
  obtain ⟨ps, a₇, hps, ⟨⟩⟩ := bind_eq_ok h
  obtain ⟨hgrows₁, hrules₁, hbegin, hvalid⟩ := addRegex_eq_ok hbegin
  obtain ⟨hgrows₂, hbcs⟩ := hbeginCaptures owner a₁ bcs a₂ hbcs
  obtain ⟨hkind, rfl⟩ := regionExit_eq_ok hregion
  obtain ⟨hgrows₄, hrules₄, hexit, rfl, hexitValid⟩ := addExitRegex_eq_ok hexit
  obtain ⟨hgrows₅, hecs⟩ := hexitCaptures kind owner a₄ ecs a₅ hecs
  obtain ⟨hgrows₆, hr⟩ := hrepository owner a₅ r a₆ hr
  obtain ⟨hgrows₇, hps⟩ := hpatterns owner a₆ ps a' hps
  -- what is added after a part leaves the range of that part alone
  have hgrows₅₇ := hgrows₆.trans hgrows₇
  have hgrows₄₇ := hgrows₅.trans hgrows₅₇
  have hgrows₂₇ := hgrows₄.trans hgrows₄₇
  have hgrows₁₇ := hgrows₂.trans hgrows₂₇
  rw [hrules₁] at hbcs
  rw [hrules₄] at hecs
  exact ⟨hgrows₁.trans hgrows₁₇, .region htarget hmatch hbeginPattern hkind
    (hgrows₁₇.agreeOn.regex_kept _ _ hbegin) hvalid rfl
    (hgrows₄₇.agreeOn.regex_kept _ _ hexit) hexitValid
    (hbcs.of_agreeOn (hgrows₂₇.agreeOn_of_le (Nat.le_refl _)))
    (hecs.of_agreeOn (hgrows₅₇.agreeOn_of_le (Nat.le_refl _)))
    (hr.of_agreeOn (hgrows₇.agreeOn_of_le (Nat.le_refl _))) hps⟩

end

/-! ### Definitions -/

mutual

/-- **A definition lays out the range of its rules**, and its own rule is the first one. -/
theorem lays_addRule (E : Engine) (parent : Option RuleId) (location : String)
    (d : RuleDefinition) :
    Lays (addRule E parent location d) fun rules regexes lo hi id ↦
      id = lo ∧ CompiledRule E rules regexes parent location d lo hi := by
  obtain ⟨target, name, contentName, matchPattern, beginPattern, endPattern, whilePattern, captures,
    beginCaptures, endCaptures, whileCaptures, endLast, patterns, repository, disabled⟩ := d
  have hcaptures := fun location owner ↦ lays_addCaptures E owner location captures
  have hbeginCaptures := fun location owner ↦ lays_addCaptures E owner location beginCaptures
  have hendCaptures := fun location owner ↦ lays_addCaptures E owner location endCaptures
  have hwhileCaptures := fun location owner ↦ lays_addCaptures E owner location whileCaptures
  have hrepository := fun owner ↦ lays_addRepository E owner location repository
  have hpatterns := fun owner ↦ lays_addPatterns E owner location 0 patterns
  cases target with
  | some target =>
    rw [addRule, addInclude_eq]
    exact lays_addHolding (d := ⟨some target, _, _, _, _, _, _, _, _, _, _, _, _, _, disabled⟩)
      fun owner ↦ lays_pure fun _ _ _ ↦ .includes rfl
  | none =>
    cases matchPattern with
    | some matchPattern =>
      rw [addRule]
      exact lays_addSingle (d := ⟨none, name, _, some matchPattern, _, _, _, captures, _, _, _, _,
        _, _, disabled⟩) rfl rfl (hcaptures _)
    | none =>
      cases beginPattern with
      | some beginPattern =>
        rw [addRule]
        refine lays_addRegion (d := ⟨none, name, contentName, none, some beginPattern, endPattern,
          whilePattern, captures, beginCaptures, endCaptures, whileCaptures, endLast, patterns,
          repository, disabled⟩) rfl rfl rfl (fun owner ↦ ?_) (fun kind owner ↦ ?_) hrepository
          hpatterns
        · cases beginCaptures with
          | some _ => exact hbeginCaptures _ owner
          | none => exact hcaptures _ owner
        · cases kind with
          | beginEnd =>
            cases endCaptures with
            | some _ => exact hendCaptures _ owner
            | none => exact hcaptures _ owner
          | beginWhile =>
            cases whileCaptures with
            | some _ => exact hwhileCaptures _ owner
            | none => exact hcaptures _ owner
      | none =>
        rw [addRule]
        exact lays_addGroup (d := ⟨none, name, _, none, none, _, _, _, _, _, _, _, patterns,
          repository, disabled⟩) rfl rfl rfl hrepository hpatterns

/-- The rules of a repository are laid out one after the other, by their names. -/
theorem lays_addRepository (E : Engine) (owner : RuleId) (location : String)
    (ds : List (String × RuleDefinition)) :
    Lays (addRepository E owner location ds)
      (CompiledRepository E · · owner location ds) := by
  cases ds with
  | nil =>
    rw [addRepository]
    exact lays_pure fun _ _ _ ↦ .nil
  | cons entry rest =>
    obtain ⟨name, d⟩ := entry
    rw [addRepository]
    intro a ids a' h
    obtain ⟨id, a₁, hid, h⟩ := bind_eq_ok h
    obtain ⟨ids, a₂, hids, ⟨⟩⟩ := bind_eq_ok h
    obtain ⟨hgrows₁, rfl, hd⟩ := lays_addRule E (some owner) _ d a id a₁ hid
    obtain ⟨hgrows₂, hids⟩ := lays_addRepository E owner location rest a₁ ids a' hids
    exact ⟨hgrows₁.trans hgrows₂,
      .cons (hd.of_agreeOn (hgrows₂.agreeOn_of_le (Nat.le_refl _))) hids⟩

/-- Patterns are laid out one after the other. -/
theorem lays_addPatterns (E : Engine) (owner : RuleId) (location : String) (i : Nat)
    (ds : List RuleDefinition) :
    Lays (addPatterns E owner location i ds)
      (CompiledPatterns E · · owner location i ds) := by
  cases ds with
  | nil =>
    rw [addPatterns]
    exact lays_pure fun _ _ _ ↦ .nil
  | cons d rest =>
    rw [addPatterns]
    intro a ids a' h
    obtain ⟨id, a₁, hid, h⟩ := bind_eq_ok h
    obtain ⟨ids, a₂, hids, ⟨⟩⟩ := bind_eq_ok h
    obtain ⟨hgrows₁, rfl, hd⟩ := lays_addRule E (some owner) _ d a id a₁ hid
    obtain ⟨hgrows₂, hids⟩ := lays_addPatterns E owner location (i + 1) rest a₁ ids a' hids
    exact ⟨hgrows₁.trans hgrows₂,
      .cons (hd.of_agreeOn (hgrows₂.agreeOn_of_le (Nat.le_refl _))) hids⟩

/-- Captures that are not given are as good as none. -/
theorem lays_addCaptures (E : Engine) (owner : RuleId) (location : String)
    (captures : Option (List (String × RuleDefinition))) :
    Lays (addCaptures E owner location captures)
      (CompiledCaptures E · · owner location {} (captures.getD [])) := by
  cases captures with
  | none =>
    rw [addCaptures]
    exact lays_pure fun _ _ _ ↦ .nil
  | some captures =>
    rw [addCaptures]
    exact lays_addCaptureEntries E owner location {} captures

/-- Captures are laid out one after the other. A key that is no index takes no place. -/
theorem lays_addCaptureEntries (E : Engine) (owner : RuleId) (location : String)
    (known : Captures) (ds : List (String × RuleDefinition)) :
    Lays (addCaptureEntries E owner location known ds)
      (CompiledCaptures E · · owner location known ds) := by
  cases ds with
  | nil =>
    rw [addCaptureEntries]
    exact lays_pure fun _ _ _ ↦ .nil
  | cons entry rest =>
    obtain ⟨key, d⟩ := entry
    obtain ⟨target, name, contentName, matchPattern, beginPattern, endPattern, whilePattern, own,
      beginCaptures, endCaptures, whileCaptures, endLast, patterns, repository, disabled⟩ := d
    rw [addCaptureEntries]
    split
    · rename_i hkey
      intro a captures a' h
      obtain ⟨_, _, ⟨⟩, h⟩ := bind_eq_ok h
      obtain ⟨hgrows, hrest⟩ :=
        lays_addCaptureEntries E owner location known rest _ captures a' h
      exact ⟨⟨hgrows.size_le, hgrows.agreeOn⟩, .stray hkey hrest⟩
    · rename_i index hkey
      intro a captures a' h
      -- with rules of its own or not, an entry is put in before the ones after it are read
      have hrest : ∀ a₁ group, (if index + 1 < indexBound then
          addCaptureEntries E owner location
            (known.insert index ⟨name.map .ofString, group⟩) rest
          else throw (.fault .captureIndexTooLarge)) a₁ = .ok captures a' →
          a₁.Grows a' ∧ CompiledCaptures E a'.rules a'.regexes owner location
            (known.insert index ⟨name.map .ofString, group⟩) rest a₁.rules.size a'.rules.size
            captures := by
        intro a₁ group h
        split at h
        · exact lays_addCaptureEntries E owner location _ rest a₁ captures a' h
        · contradiction
      dsimp only at h
      split at h
      · rename_i hpatterns
        obtain ⟨group, a₁, ⟨⟩, h⟩ := bind_eq_ok h
        obtain ⟨hgrows, hrest⟩ := hrest a none h
        exact ⟨hgrows, .named hkey (List.isEmpty_iff.1 hpatterns) hrest⟩
      · rename_i hpatterns
        obtain ⟨group, a₁, hgroup, h⟩ := bind_eq_ok h
        rw [map_eq_pure_bind] at hgroup
        obtain ⟨id, _, hid, ⟨⟩⟩ := bind_eq_ok hgroup
        obtain ⟨hgrows₁, rfl, hd⟩ := lays_addGroup
          (d := { patterns := patterns, repository := repository }) rfl rfl rfl
          (fun owner ↦ lays_addRepository E owner (joinLocation location key) repository)
          (fun owner ↦ lays_addPatterns E owner (joinLocation location key) 0 patterns)
          a id a₁ hid
        obtain ⟨hgrows₂, hrest⟩ := hrest a₁ _ h
        exact ⟨hgrows₁.trans hgrows₂, .group hkey (fun h ↦ hpatterns (List.isEmpty_iff.2 h))
          (hd.of_agreeOn (hgrows₂.agreeOn_of_le (Nat.le_refl _))) hrest⟩

end

/-! ### Grammars -/

/-- Reading a selector adds nothing. -/
theorem readSelector_eq_ok {source : String} {selector : ScopeSelector} {a a' : Arena}
    (h : readSelector source a = .ok selector a') :
    ScopeSelector.parse source = .ok selector ∧ a' = a := by
  rw [readSelector] at h
  cases hparse : ScopeSelector.parse source with
  | error e =>
    rw [hparse] at h
    contradiction
  | ok selector =>
    rw [hparse] at h
    obtain ⟨⟩ := h
    exact ⟨rfl, rfl⟩

/-- Reading the selector of an exported injection adds nothing. -/
theorem readExported_eq_ok {source : Option String} {exported : Option Injection} {a a' : Arena}
    (h : readExported source a = .ok exported a') : a' = a := by
  cases source with
  | none =>
    obtain ⟨⟩ := h
    rfl
  | some source =>
    obtain ⟨selector, a₁, hselector, ⟨⟩⟩ := bind_eq_ok h
    exact (readSelector_eq_ok hselector).2

/-- The root of a grammar comes first. -/
theorem addRoot_eq_ok {d : GrammarDefinition} {a a' : Arena} {u : Unit}
    (h : addRoot E d a = .ok u a') :
    a.Grows a' ∧ CompiledRule E a'.rules a'.regexes none "" d.root rootRule a'.rules.size := by
  obtain ⟨id, a₁, hgroup, h⟩ := bind_eq_ok h
  obtain ⟨hgrows, hid, hroot⟩ := lays_addGroup (d := d.root) rfl rfl rfl
    (fun owner ↦ lays_addRepository E owner "" d.repository)
    (fun owner ↦ lays_addPatterns E owner "" 0 d.patterns) _ id a₁ hgroup
  split at h
  · rename_i hrooted
    obtain ⟨⟩ := h
    rw [← hid, hrooted] at hroot
    exact ⟨hgrows, hroot⟩
  · contradiction

/-- The rules of injections are laid out one after the other. -/
theorem lays_addInjections (E : Engine) (ds : List (String × RuleDefinition)) :
    Lays (addInjections E ds) (CompiledInjections E · · ds) := by
  induction ds with
  | nil => exact lays_pure fun _ _ _ ↦ .nil
  | cons injection rest ih =>
    obtain ⟨source, d⟩ := injection
    intro a injections a' h
    obtain ⟨selector, a₁, hread, h⟩ := bind_eq_ok h
    obtain ⟨id, a₂, hid, h⟩ := bind_eq_ok h
    obtain ⟨injections, a₃, hinjections, ⟨⟩⟩ := bind_eq_ok h
    obtain ⟨hselector, rfl⟩ := readSelector_eq_ok hread
    obtain ⟨hgrows₁, rfl, hd⟩ := lays_addRule E _ _ d _ id a₂ hid
    obtain ⟨hgrows₂, hinjections⟩ := ih a₂ injections a' hinjections
    exact ⟨hgrows₁.trans hgrows₂,
      .cons hselector (hd.of_agreeOn (hgrows₂.agreeOn_of_le (Nat.le_refl _))) hinjections⟩

end Loading

/-- **A compiled grammar is laid out as it is written**: the rules of its root come first, and those
of its injections follow. -/
theorem Grammar.compile_laid {d : GrammarDefinition} {E : Engine} {g : Grammar}
    (h : (compile d E).result = .ok g) :
    ∃ mid, CompiledRule E g.rules g.regexes none "" d.root rootRule mid ∧
      CompiledInjections E g.rules g.regexes d.injections mid g.rules.size g.injections := by
  rw [compile] at h
  split at h
  · rename_i injections exported arena heq
    obtain rfl := Except.ok.inj h
    obtain ⟨_, a₁, hroot, heq⟩ := Loading.bind_eq_ok heq
    obtain ⟨injections, a₂, hinjections, heq⟩ := Loading.bind_eq_ok heq
    obtain ⟨exported, a₃, hexported, ⟨⟩⟩ := Loading.bind_eq_ok heq
    obtain rfl := Loading.readExported_eq_ok hexported
    obtain ⟨-, hroot⟩ := Loading.addRoot_eq_ok hroot
    obtain ⟨hgrows, hinjections⟩ := Loading.lays_addInjections E d.injections a₁ injections _
      hinjections
    exact ⟨_, hroot.of_agreeOn (hgrows.agreeOn_of_le (Nat.le_refl _)), hinjections⟩
  · contradiction

end ScopeGrammar
