import ScopeGrammar.Proofs.Tokenizer.Agreement

/-!
# The scopes of capture groups

What the captures of a match come to, if they have nothing but scopes, can be said without trees and
sweeps: every byte of the match gets the scopes of the groups around it (`Match.scopedGroups`), the
groups in the order of their starts, longer ones first, then by index (`scopesAt_enterCaptures`).
Groups count as far as they lie in the match, and they may overlap in any way.

The captures are placed in this order, a walk through the forest meets them in this order, and the
sweep opens ranges by start and length and otherwise as it is given them: so one order comes out in
the end.
-/

namespace ScopeGrammar

open Tokenizing ScopedRange

variable {line : LineText} {m : Match} {p : Nat}

/-! ### Groups with scopes -/

/-- A span as far as it lies in a match. -/
def Match.cut (m : Match) (s : Span) : Span :=
  ⟨max m.start s.start, min m.stop s.stop⟩

/-- The scopes that a template gives for a match in a line; none without a template, or if the text
of the match cannot be cut out. -/
def scopesFor (line : LineText) (m : Match) : Option ScopeTemplate → List ScopeName
  | none => []
  | some t =>
    match t.resolve line.chars m with
    | .ok scopes => scopes
    | .error _ => []

/-- The groups that take part in a match and that something is done with: index, span as far as it
lies in the match, and scopes. -/
def Match.scopedGroups (line : LineText) (m : Match) (captures : Captures) :
    List (Nat × Span × List ScopeName) :=
  captures.entries.filterMap fun (index, r) ↦
    (m.group? index).map fun s ↦ (index, m.cut s, scopesFor line m r.name)

/-- The order in which groups give their scopes: by start, longer ones first, then by index. -/
def groupLE (a b : Nat × Span × List ScopeName) : Prop :=
  a.2.1.start < b.2.1.start ∨
    a.2.1.start = b.2.1.start ∧ (b.2.1.stop < a.2.1.stop ∨ a.2.1.stop = b.2.1.stop ∧ a.1 ≤ b.1)

/-! ### Clipping -/

namespace Match

theorem group?_clipped (m : Match) (i : Nat) :
    m.clipped.group? (i + 1) = (m.group? (i + 1)).bind (clipSpan m.whole) := by
  rw [group?, group?, clipped, List.getElem?_map]
  rcases m.groups[i]? with - | - | g <;> rfl

/-- A clipped group holds the bytes of the group that lie in the match. -/
theorem filter_clipSpan (hm : m.start ≤ m.stop) (s : Span) (p : Nat) :
    (clipSpan m.whole s).filter (·.holds p) = (some (m.cut s)).filter (·.holds p) := by
  have hle : m.whole.start ≤ m.whole.stop := hm
  have hcut : m.cut s = ⟨max m.whole.start s.start, min m.whole.stop s.stop⟩ := rfl
  by_cases hholds : (m.cut s).holds p = true
  · -- then the group starts before the match stops, and stops after it starts
    obtain ⟨hstart, hstop⟩ := Span.holds_eq_true.1 hholds
    have hends : clampInto m.whole s.start = max m.whole.start s.start ∧
        clampInto m.whole s.stop = min m.whole.stop s.stop := by
      rw [hcut] at hstart hstop
      dsimp only [clampInto] at hstart hstop ⊢
      omega
    have hlt : max m.whole.start s.start < min m.whole.stop s.stop :=
      Nat.lt_of_le_of_lt hstart hstop
    rw [clipSpan, hends.1, hends.2, if_pos (.inl hlt), ← hcut]
  · have hout : ∀ c, clipSpan m.whole s = some c → c.holds p = false := by
      intro c hc
      rw [clipSpan] at hc
      split at hc
      · obtain rfl := Option.some.inj hc
        rw [hcut] at hholds
        rw [Bool.eq_false_iff, ne_eq, Span.holds_eq_true] at *
        dsimp only [clampInto] at hholds ⊢
        omega
      · contradiction
    rw [Option.filter_some, if_neg hholds]
    cases hclip : clipSpan m.whole s with
    | none => rfl
    | some c => rw [Option.filter_some, hout c hclip, if_neg (by simp)]

theorem filter_group?_clipped (hm : m.start ≤ m.stop) (i p : Nat) :
    (m.clipped.group? i).filter (·.holds p) = ((m.group? i).map m.cut).filter (·.holds p) := by
  cases i with
  | zero =>
    have hwhole : m.cut m.whole = m.whole := by
      show (⟨max m.whole.start m.whole.start, min m.whole.stop m.whole.stop⟩ : Span) = m.whole
      rw [Nat.max_self, Nat.min_self]
    rw [group?_zero, group?_zero, Option.map_some, hwhole]
    rfl
  | succ i =>
    rw [group?_clipped]
    cases m.group? (i + 1) with
    | none => rfl
    | some s => exact filter_clipSpan hm s p

end Match

/-! ### Labels -/

/-- The label of a group: its scopes and rules, if it takes part in the match and holds text. -/
def labelFor (line : LineText) (m : Match) (grammar : GrammarId) (entry : Nat × CaptureRule) :
    Option (Nat × CapturedScopes) :=
  match m.clipped.group? entry.1 with
  | none => none
  | some span =>
    if span.isEmpty then none
    else some (entry.1, ⟨scopesFor line m entry.2.name, entry.2.patterns.map (⟨grammar, ·⟩)⟩)

/-- The scopes of a template are told. -/
theorem exists_resolve_eq (hm : m.Sliceable line.chars) (t : Option ScopeTemplate)
    (memory : Memory) :
    ∃ memory', resolve line m t memory = .ok (scopesFor line m t) memory' := by
  have hconfined : Confined (fun _ ↦ False) (fun _ ↦ True) (resolve line m t) :=
    confined_resolve (fun _ _ h ↦ h) hm t
  have hresult := hconfined memory trivial
  cases hresolve : resolve line m t memory with
  | error failure memory' =>
    rw [hresolve] at hresult
    exact hresult.1.elim
  | ok scopes memory' =>
    have hreturns := returns_of_eq hresolve
    cases t with
    | none => exact ⟨memory', by rw [hreturns.eq_of_pure, scopesFor]⟩
    | some t => exact ⟨memory', by rw [scopesFor, hreturns.eq_ok_of_resolve]⟩

/-- **Every group that takes part and holds text gets its label.** -/
theorem exists_capturedScopes_eq (hm : m.Sliceable line.chars) (grammar : GrammarId)
    (entries : List (Nat × CaptureRule)) (memory : Memory) :
    ∃ memory', capturedScopes line m grammar entries memory =
      .ok (entries.filterMap (labelFor line m grammar)) memory' := by
  induction entries generalizing memory with
  | nil => exact ⟨memory, rfl⟩
  | cons entry entries ih =>
    obtain ⟨index, r⟩ := entry
    rw [capturedScopes, List.filterMap_cons]
    cases hgroup : m.clipped.group? index with
    | none =>
      have hlabel : labelFor line m grammar (index, r) = none := by simp only [labelFor, hgroup]
      rw [hlabel]
      exact ih memory
    | some span =>
      by_cases hempty : span.isEmpty = true
      · have hlabel : labelFor line m grammar (index, r) = none := by
          simp only [labelFor, hgroup, if_pos hempty]
        rw [hlabel]
        dsimp only
        rw [if_pos hempty]
        exact ih memory
      · have hlabel : labelFor line m grammar (index, r) =
            some (index, ⟨scopesFor line m r.name, r.patterns.map (⟨grammar, ·⟩)⟩) := by
          simp only [labelFor, hgroup, if_neg hempty]
        obtain ⟨between, hresolve⟩ := exists_resolve_eq hm r.name memory
        obtain ⟨memory', hrest⟩ := ih between
        rw [hlabel]
        dsimp only
        rw [if_neg hempty]
        exact ⟨memory', (bind_eq_of_eq_ok hresolve).trans ((bind_eq_of_eq_ok hrest).trans rfl)⟩

/-- The captures that are placed and hold a byte are the groups around it. -/
theorem map_filter_items (hm : m.start ≤ m.stop) (grammar : GrammarId) (captures : Captures)
    (p : Nat) :
    ((CaptureTree.items m.clipped (captures.entries.filterMap (labelFor line m grammar))).filter
        (·.2.1.holds p)).map (fun item ↦ (item.1, item.2.1, item.2.2.scopes)) =
      (m.scopedGroups line captures).filter (·.2.1.holds p) := by
  rw [CaptureTree.items, List.filterMap_filterMap, List.filter_filterMap, List.map_filterMap,
    Match.scopedGroups, List.filter_filterMap]
  refine List.filterMap_congr fun entry _ ↦ ?_
  obtain ⟨index, r⟩ := entry
  have hgroups := Match.filter_group?_clipped hm index p
  have hsplit : ((m.group? index).map fun s ↦ (index, m.cut s, scopesFor line m r.name)).filter
      (·.2.1.holds p) = (((m.group? index).map m.cut).filter (·.holds p)).map
        fun s ↦ (index, s, scopesFor line m r.name) := by
    cases m.group? index with
    | none => rfl
    | some s =>
      rw [Option.map_some, Option.map_some, Option.filter_some, Option.filter_some]
      cases (m.cut s).holds p <;> rfl
  dsimp only
  rw [hsplit, ← hgroups, labelFor]
  cases hgroup : m.clipped.group? index with
  | none => rfl
  | some span =>
    by_cases hempty : span.isEmpty = true
    · have hout : ¬ span.holds p = true := by
        rw [Span.isEmpty_eq_true] at hempty
        rw [Span.holds_eq_true]
        omega
      dsimp only
      rw [if_pos hempty, Option.filter_some, if_neg hout]
      rfl
    · dsimp only
      rw [if_neg hempty, Option.bind_some, hgroup]
      dsimp only
      rw [if_neg hempty, Option.filter_some, Option.filter_some]
      cases span.holds p <;> rfl

/-! ### The order of scopes -/

/-- The ranges of captures around a byte start in order, longer ones first. -/
theorem pairwise_scopedRangesOfAll_forest (m : Match) (labels : List (Nat × CapturedScopes)) :
    (scopedRangesOfAll (CaptureTree.forest m labels)).Pairwise OpensBefore := by
  rw [scopedRangesOfAll_forest]
  refine List.pairwise_flatMap.2 ⟨fun item _ ↦ ?_, (CaptureTree.pairwise_itemLE _).imp ?_⟩
  · exact List.pairwise_map.2 (List.pairwise_of_forall fun _ _ ↦ .inr ⟨rfl, Nat.le_refl _⟩)
  · intro a b hle r hr r' hr'
    obtain ⟨scope, -, rfl⟩ := List.mem_map.1 hr
    obtain ⟨scope', -, rfl⟩ := List.mem_map.1 hr'
    rw [CaptureTree.itemLE_iff] at hle
    show a.2.1.start < b.2.1.start ∨ a.2.1.start = b.2.1.start ∧ b.2.1.stop ≤ a.2.1.stop
    omega

/-- The scopes of the captures around a byte, capture by capture. -/
theorem scopesOf_flatMap_rangesOfItem (placed : List (Nat × Span × CapturedScopes)) (p : Nat) :
    scopesOf (placed.flatMap rangesOfItem) p =
      (placed.filter (·.2.1.holds p)).flatMap fun item ↦ item.2.2.scopes := by
  induction placed with
  | nil => rfl
  | cons item placed ih =>
    rw [List.flatMap_cons, scopesOf_append, ih, rangesOfItem, List.filter_cons]
    cases hholds : item.2.1.holds p with
    | true => rw [scopesOf_map_of_holds hholds, if_pos rfl, List.flatMap_cons]
    | false =>
      have hnone : scopesOf (item.2.2.scopes.map (⟨item.2.1, ·⟩)) p = [] := by
        refine scopesOf_eq_nil fun r hr ↦ ?_
        obtain ⟨scope, -, rfl⟩ := List.mem_map.1 hr
        rw [Bool.eq_false_iff, ne_eq, Span.holds_eq_true] at hholds
        dsimp only
        omega
      rw [hnone, if_neg (by simp)]
      rfl

/-- **The sweep gives to a byte the scopes of the captures around it**, in the order in which they
were placed, however they overlap. -/
theorem spanScopes_forest {labels : List (Nat × CapturedScopes)}
    {spans : List (Span × List ScopeName)}
    (h : flatten (scopedRangesOfAll (CaptureTree.forest m labels)) = .ok spans) (p : Nat) :
    spanScopes spans p =
      (((CaptureTree.items m labels).mergeSort CaptureTree.itemLE).filter (·.2.1.holds p)).flatMap
        fun item ↦ item.2.2.scopes := by
  have hordered : (scopedRangesOfAll (CaptureTree.forest m labels)).Pairwise fun a b ↦
      a.span.holds p = true → b.span.holds p = true → a.OpensBefore b :=
    (pairwise_scopedRangesOfAll_forest m labels).imp fun hbefore _ _ ↦ hbefore
  rw [← scopesOf_flatMap_rangesOfItem, spanScopes_of_pairwise h hordered, scopedRangesOfAll_forest]
  rfl

/-- **Captures without rules give to each byte the scopes of the groups around it.** No frame is
opened, and nothing but the row of tokens changes. If the row goes up to the match at most, every
byte of the match before the end of the line gets the scopes of `path` and then those of the groups
that hold it, as far as they lie in the match: by start, longer ones first, then by index. -/
theorem scopesAt_enterCaptures (hm : m.Sliceable line.chars) (hpos : m.start < m.stop)
    {captures : Captures} (hp : captures.hasPatterns = false) {s : LineState}
    (hreached : s.row.reached ≤ m.start) (path : ScopePath) (grammar : GrammarId)
    (memory : Memory) :
    ∃ s' memory', enterCaptures line s m path grammar captures memory = .ok (s', false) memory' ∧
      s' = { s with row := s'.row } ∧
      ∀ p, m.start ≤ p → p < m.stop → p < s.row.stop →
        ∃ groups : List (Nat × Span × List ScopeName),
          groups.Perm ((m.scopedGroups line captures).filter (·.2.1.holds p)) ∧
          groups.Pairwise groupLE ∧
          s'.row.scopesAt p = some (path.append (groups.flatMap (·.2.2))) := by
  obtain ⟨between, hlabels⟩ := exists_capturedScopes_eq hm grammar captures.entries memory
  obtain ⟨row, spans, memory', hentered, hspans, hrow⟩ :=
    exists_enterCaptures_flattened s path hpos hp hlabels
  refine ⟨_, memory', hentered, rfl, fun p hstart hstop hline ↦ ?_⟩
  -- the groups around the byte, in the order in which their captures are placed
  set items := CaptureTree.items m.clipped (captures.entries.filterMap (labelFor line m grammar))
  refine ⟨((items.mergeSort CaptureTree.itemLE).filter (·.2.1.holds p)).map
    fun item ↦ (item.1, item.2.1, item.2.2.scopes), ?_, ?_, ?_⟩
  · rw [← map_filter_items (Nat.le_of_lt hpos) grammar captures p]
    exact ((List.mergeSort_perm items CaptureTree.itemLE).filter _).map _
  · refine List.pairwise_map.2 (((CaptureTree.pairwise_itemLE items).filter _).imp fun hle ↦ ?_)
    exact CaptureTree.itemLE_iff.1 hle
  · have hnew : s.row.reached ≤ p ∧ p < min m.stop s.row.stop :=
      ⟨Nat.le_trans hreached hstart, Nat.lt_min.2 ⟨hstop, hline⟩⟩
    rw [hrow.scopesAt_eq, if_pos hnew, spanScopes_forest hspans, List.flatMap_map]

/-- Two groups with a scope each and no rules. -/
def letterCaptures : Captures :=
  ⟨[(1, ⟨some (.ofString "a"), none⟩), (2, ⟨some (.ofString "b"), none⟩)]⟩

/-- A template without placeholders gives the names that it is made of. -/
theorem scopesFor_of_literal (hm : m.Sliceable line.chars) {t : ScopeTemplate} {cs : List Char}
    (h : t.parts = [.literal cs]) : scopesFor line m (some t) = ScopeName.listOfChars cs := by
  obtain ⟨memory, hresolve⟩ := exists_resolve_eq hm (some t) {}
  rw [resolve_of_literal h] at hresolve
  exact (EStateM.Result.ok.inj hresolve).1.symm

theorem scopedGroups_letters (hm : (groupMatch ⟨0, 3⟩ ⟨2, 5⟩).Sliceable line.chars) :
    (groupMatch ⟨0, 3⟩ ⟨2, 5⟩).scopedGroups line letterCaptures =
      [(1, ⟨0, 3⟩, [.ofString "a"]), (2, ⟨2, 5⟩, [.ofString "b"])] := by
  have ha : scopesFor line (groupMatch ⟨0, 3⟩ ⟨2, 5⟩) (some (.ofString "a")) = [.ofString "a"] :=
    scopesFor_of_literal hm parts_ofString_letters.1
  have hb : scopesFor line (groupMatch ⟨0, 3⟩ ⟨2, 5⟩) (some (.ofString "b")) = [.ofString "b"] :=
    scopesFor_of_literal hm parts_ofString_letters.2
  have hgroups : (groupMatch ⟨0, 3⟩ ⟨2, 5⟩).scopedGroups line letterCaptures =
      [(1, ⟨0, 3⟩, scopesFor line (groupMatch ⟨0, 3⟩ ⟨2, 5⟩) (some (.ofString "a"))),
        (2, ⟨2, 5⟩, scopesFor line (groupMatch ⟨0, 3⟩ ⟨2, 5⟩) (some (.ofString "b")))] := rfl
  rw [hgroups, ha, hb]

/-- Where two groups overlap, the one that starts first is the outer one, though it also ends first.
-/
theorem scopesAt_enterCaptures_overlapping :
    (groupMatch ⟨0, 3⟩ ⟨2, 5⟩).Sliceable (LineText.ofLine "abcde").chars ∧
      (groupMatch ⟨0, 3⟩ ⟨2, 5⟩).start < (groupMatch ⟨0, 3⟩ ⟨2, 5⟩).stop ∧
      letterCaptures.hasPatterns = false ∧
      groupState.row.reached ≤ (groupMatch ⟨0, 3⟩ ⟨2, 5⟩).start ∧
      ∃ s' memory',
        enterCaptures (.ofLine "abcde") groupState (groupMatch ⟨0, 3⟩ ⟨2, 5⟩) groupPath 0
          letterCaptures {} = .ok (s', false) memory' ∧
        s'.row.scopesAt 2 = some (groupPath.append [.ofString "a", .ofString "b"]) := by
  have hm : (groupMatch ⟨0, 3⟩ ⟨2, 5⟩).Sliceable (LineText.ofLine "abcde").chars :=
    sliceable_groupMatch (by decide) (by decide)
  have hp : letterCaptures.hasPatterns = false := rfl
  have hreached : groupState.row.reached ≤ (groupMatch ⟨0, 3⟩ ⟨2, 5⟩).start := by decide
  obtain ⟨s', memory', hentered, -, hscopes⟩ :=
    scopesAt_enterCaptures hm (by decide) hp hreached groupPath 0 {}
  obtain ⟨groups, hperm, hsorted, hat⟩ := hscopes 2 (by decide) (by decide) (by decide)
  rw [scopedGroups_letters hm] at hperm
  have hgroups : groups = [(1, ⟨0, 3⟩, [.ofString "a"]), (2, ⟨2, 5⟩, [.ofString "b"])] := by
    refine hperm.eq_of_pairwise (fun a b ha hb hab hba ↦ ?_) hsorted (by simp [groupLE])
    -- the two groups have different starts
    obtain rfl | rfl : a = (1, ⟨0, 3⟩, [.ofString "a"]) ∨ a = (2, ⟨2, 5⟩, [.ofString "b"]) := by
      simpa using List.mem_of_mem_filter (hperm.mem_iff.1 ha)
    all_goals
      obtain rfl | rfl := List.mem_pair.1 hb
      all_goals simp_all [groupLE]
  refine ⟨hm, by decide, hp, hreached, s', memory', hentered, ?_⟩
  rw [hat, hgroups]
  rfl

end ScopeGrammar
