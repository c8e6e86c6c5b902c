import ScopeGrammar.Proofs.Capture.Forest
import ScopeGrammar.Proofs.Tokenizer.Remembered
import ScopeGrammar.Proofs.Tokenizer.Termination

/-!
# Rules in their own captures

Captures are tokenized by rules again, so that a rule that is tried in a capture of its own can
match the same text for ever. Which rules are tried there is a matter of places: the rules of the
capture lead to others, regions and captures that are opened with them lead to further places, and
at each of them the injections are tried whose selectors hold of its scopes (`Place.Leads`).

If no rule is ever offered in its own captures (`Context.NeverRecaptures`), then the rules whose
captures lie around each other are all different, and the number of open captures is limited by the
number of rules. So every line comes to its end (`tokenizeLine_terminates`). It does not suffice
that no rule is among the rules that its captures hold. Two rules may hold each other in their
captures, so that the captures of the rules on the way have to be followed too (`Registry.IsUnder`),
and an injection whose selector holds everywhere is tried in its own captures though nothing there
leads to it (`recapture_never_ends`).
-/

namespace ScopeGrammar

open Tokenizing

/-! ### Captures of a match -/

namespace CaptureTree

variable {α : Type}

theorem nodeCountOfAll_append (ts us : List (CaptureTree α)) :
    nodeCountOfAll (ts ++ us) = nodeCountOfAll ts + nodeCountOfAll us := by
  induction ts with
  | nil => simp [nodeCountOfAll]
  | cons t ts ih =>
    rw [List.cons_append, nodeCountOfAll, nodeCountOfAll, ih]
    omega

theorem nodeCount_addChild (parent child : CaptureTree α) :
    (parent.addChild child).nodeCount = parent.nodeCount + child.nodeCount := by
  rw [nodeCount_eq, nodeCount_eq, addChild, nodeCountOfAll_append]
  simp only [nodeCountOfAll]
  omega

/-- Settling captures loses none. -/
theorem nodeCountOfAll_settle (keep : CaptureTree α → Bool) (opened roots : List (CaptureTree α)) :
    nodeCountOfAll (settle keep opened roots).1 + nodeCountOfAll (settle keep opened roots).2 =
      nodeCountOfAll opened + nodeCountOfAll roots := by
  fun_induction settle keep opened roots with
  | case1 => rfl
  | case2 => rfl
  | case3 t hkeep =>
    rw [nodeCountOfAll_append]
    simp only [nodeCountOfAll]
    omega
  | case4 => rfl
  | case5 t parent rest hkeep ih =>
    rw [ih]
    simp only [nodeCountOfAll, nodeCount_addChild]
    omega

/-- A forest has no more captures than there are labels. -/
theorem nodeCountOfAll_forest_le (m : Match) (labels : List (Nat × α)) :
    nodeCountOfAll (forest m labels) ≤ labels.length := by
  have hfold : ∀ (placed : List (Nat × Span × α))
      (state : List (CaptureTree α) × List (CaptureTree α)),
      nodeCountOfAll (placed.foldl insert state).1 + nodeCountOfAll (placed.foldl insert state).2 =
        placed.length + (nodeCountOfAll state.1 + nodeCountOfAll state.2) := by
    intro placed
    induction placed with
    | nil => simp
    | cons item placed ih =>
      intro state
      have hsettle := nodeCountOfAll_settle (fun t ↦ t.span.encloses item.2.1) state.1 state.2
      rw [List.foldl_cons, ih, List.length_cons, insert]
      simp only [nodeCountOfAll, nodeCount]
      omega
  have hplaced := hfold ((items m labels).mergeSort itemLE) ([], [])
  have hsettle := nodeCountOfAll_settle (fun _ ↦ false)
    (((items m labels).mergeSort itemLE).foldl insert ([], [])).1
    (((items m labels).mergeSort itemLE).foldl insert ([], [])).2
  have hitems : (items m labels).length ≤ labels.length := List.length_filterMap_le _ _
  rw [List.length_mergeSort] at hplaced
  simp only [nodeCountOfAll] at hplaced
  rw [forest]
  dsimp only
  omega

end CaptureTree

/-! ### Places that lead to others -/

/-- The templates of a rule: those of its names and those of its captures. -/
def Rule.templates (rule : Rule) : List (Option ScopeTemplate) :=
  match rule.body with
  | .single r => r.name :: r.captures.entries.map (·.2.name)
  | .region r =>
    r.name :: r.contentName ::
      (r.beginCaptures.entries ++ r.exitCaptures.entries).map (·.2.name)
  | .includes _ | .group _ => []

/-- Templates of a rule can give some names, one after the other. -/
inductive Rule.Gives (rule : Rule) : List ScopeName → Prop
  | nil : rule.Gives []
  | append {names more : List ScopeName} {t : Option ScopeTemplate} (h : rule.Gives names)
      (ht : t ∈ rule.templates) (hmore : NamesOf t more) : rule.Gives (names ++ more)

namespace Place

/-- The place is a capture of a rule, in text of some scopes. -/
def IsCaptureOf (ctx : Context) (q : Place) (ref : RuleRef) (path : ScopePath) : Prop :=
  ∃ rule captures entry group names, ctx.registry.rule ref = .ok rule ∧ captures ∈ rule.captures ∧
    entry ∈ captures.entries ∧ entry.2.patterns = some group ∧ NamesOf entry.2.name names ∧
    q = ⟨⟨ref.grammar, group⟩, path.append names⟩

/-- A rule that a place offers opens another place: a region, or a capture. -/
inductive Leads (ctx : Context) (p : Place) : Place → Prop
  | region (ref : RuleRef) (rule : Rule) (r : RegionRule) (names contents : List ScopeName)
      (hoffers : p.Offers ctx ref) (hrule : ctx.registry.rule ref = .ok rule)
      (hbody : rule.body = .region r) (hnames : NamesOf r.name names)
      (hcontents : NamesOf r.contentName contents) :
      Leads ctx p ⟨ref, (p.scopes.append names).append contents⟩
  | capture (ref : RuleRef) (rule : Rule) (names : List ScopeName) (q : Place)
      (hoffers : p.Offers ctx ref) (hrule : ctx.registry.rule ref = .ok rule)
      (hnames : rule.Gives names) (hq : q.IsCaptureOf ctx ref (p.scopes.append names)) :
      Leads ctx p q

/-- A capture of a rule leads to the place, whatever scopes lie around it. -/
def IsInCapturesOf (ctx : Context) (p : Place) (ref : RuleRef) : Prop :=
  ∃ path q, IsCaptureOf ctx q ref path ∧ Relation.ReflTransGen (Leads ctx) q p

end Place

/-- No rule is offered in captures of its own. -/
def Context.NeverRecaptures (ctx : Context) : Prop :=
  ∀ ref p, Place.IsInCapturesOf ctx p ref → ¬ p.Offers ctx ref

/-! ### Frames in captures of rules -/

variable {ctx : Context} {line : LineText} {width : Nat} {rs : List RuleRef}

/-- The text of some scopes is one of a match of a rule, which was offered in the captures of
others. -/
def IsTextOf (ctx : Context) (rs : List RuleRef) (ref : RuleRef) (path : ScopePath) : Prop :=
  ∀ x ∈ rs, ∃ p rule names, Place.IsInCapturesOf ctx p x ∧ p.Offers ctx ref ∧
    ctx.registry.rule ref = .ok rule ∧ rule.Gives names ∧ path = p.scopes.append names

/-- The innermost frame is in captures of some rules, each of which has only so many frames. -/
structure Stack.IsWithin (ctx : Context) (width : Nat) (s : Stack) (rs : List RuleRef) : Prop where
  nodup : rs.Nodup
  known : rs ⊆ ctx.registry.refs
  count : s.capturedCount ≤ width * rs.length
  place : ∀ p, s.place? = some p → ∀ x ∈ rs, p.IsInCapturesOf ctx x

/-- The label is one of an entry for a capture of a rule. -/
def CapturedScopes.IsOf (grammar : GrammarId) (captures : Captures) (l : CapturedScopes) : Prop :=
  ∃ entry ∈ captures.entries, NamesOf entry.2.name l.scopes ∧
    l.patterns = entry.2.patterns.map (⟨grammar, ·⟩)

/-- The frame is one for the captures of a rule, in captures of others. -/
structure CapturedText.IsWithin (ctx : Context) (width : Nat) (s : Stack) (c : CapturedText)
    (rs : List RuleRef) (ref : RuleRef) (rule : Rule) (captures : Captures) : Prop where
  nodup : (ref :: rs).Nodup
  known : ref :: rs ⊆ ctx.registry.refs
  rule_eq : ctx.registry.rule ref = .ok rule
  mem_captures : captures ∈ rule.captures
  /-- There is room for the frame and for those of the captures to come. -/
  count : s.capturedCount + 1 + CaptureTree.nodeCountOfAll c.pending ≤ width * (ref :: rs).length
  labels : ∀ t ∈ c.pending, t.All fun _ l ↦ l.IsOf ref.grammar captures
  place : ∀ owner, c.patterns = some owner → ∀ x ∈ ref :: rs,
    Place.IsInCapturesOf ctx ⟨owner, c.scopes⟩ x
  text : IsTextOf ctx rs ref c.scopes

/-- What is known of a frame and the rules in whose captures it is. -/
def Frame.IsWithin (ctx : Context) (width : Nat) (s : Stack) : Frame → Prop
  | .region r => ∃ rs, s.IsWithin ctx width rs ∧ (s.push (.region r)).IsWithin ctx width rs ∧
      IsTextOf ctx rs r.rule r.nameScopes ∧ IsTextOf ctx rs r.rule r.contentScopes
  | .captured c => ∃ rs ref rule captures, c.IsWithin ctx width s rs ref rule captures

theorem Rule.Gives.single {rule : Rule} {t : Option ScopeTemplate} {names : List ScopeName}
    (ht : t ∈ rule.templates) (h : NamesOf t names) : rule.Gives names :=
  .append .nil ht h

theorem IsTextOf.append {ref : RuleRef} {rule : Rule} {path : ScopePath} {names : List ScopeName}
    {t : Option ScopeTemplate} (h : IsTextOf ctx rs ref path)
    (hrule : ctx.registry.rule ref = .ok rule) (ht : t ∈ rule.templates)
    (hnames : NamesOf t names) :
    IsTextOf ctx rs ref (path.append names) := by
  intro x hx
  obtain ⟨p, rule', names', hp, hoffers, hrule', hgives, rfl⟩ := h x hx
  obtain rfl := Except.ok.inj (hrule.symm.trans hrule')
  exact ⟨p, rule, names' ++ names, hp, hoffers, hrule, hgives.append ht hnames,
    ScopePath.append_append _ _ _⟩

/-- A rule whose text is in captures of others is none of these. -/
theorem IsTextOf.not_mem (h : ctx.NeverRecaptures) {ref : RuleRef} {path : ScopePath}
    (htext : IsTextOf ctx rs ref path) : ref ∉ rs := by
  intro hmem
  obtain ⟨p, rule, names, hp, hoffers, -⟩ := htext ref hmem
  exact h ref p hp hoffers

namespace Stack

variable {s : Stack}

/-- The rules in whose captures the innermost frame is. -/
theorem Layered.exists_isWithin (hs : s.Layered (Frame.IsWithin ctx width)) :
    ∃ rs, s.IsWithin ctx width rs := by
  obtain ⟨grammar, scope, frames⟩ := s
  cases frames with
  | nil => exact ⟨[], List.nodup_nil, List.nil_subset _, Nat.zero_le _, by simp⟩
  | cons f below =>
    have hf := hs f below List.suffix_rfl
    cases f with
    | region r =>
      obtain ⟨rs, -, hwithin, -⟩ := hf
      exact ⟨rs, hwithin⟩
    | captured c =>
      obtain ⟨rs, ref, rule, captures, hc⟩ := hf
      refine ⟨ref :: rs, hc.nodup, hc.known, ?_, ?_⟩
      · show ((Stack.mk grammar scope below).push (.captured c)).capturedCount ≤ _
        rw [capturedCount_push_captured]
        exact Nat.le_trans (Nat.le_add_right _ _) hc.count
      · intro p hp
        obtain ⟨owner, howner, rfl⟩ := Option.map_eq_some_iff.1 hp
        exact hc.place owner howner

theorem IsWithin.text_of_offers {ref : RuleRef} {rule : Rule} {names : List ScopeName}
    (hs : s.IsWithin ctx width rs) (hoffers : s.Offers ctx ref)
    (hrule : ctx.registry.rule ref = .ok rule) (hnames : rule.Gives names) :
    IsTextOf ctx rs ref (s.scopes.append names) := by
  obtain ⟨p, hp, hoffers⟩ := hoffers
  intro x hx
  obtain ⟨owner, howner, rfl⟩ := Option.map_eq_some_iff.1 hp
  exact ⟨_, rule, names, hs.place _ hp x hx, hoffers, hrule, hnames, rfl⟩

end Stack

/-! ### What is opened -/

theorem Rule.mem_captures_of_exit {rule : Rule}
    (h : (rule.exitCaptures?.getD {}).hasPatterns = true) :
    ∃ r, rule.body = .region r ∧ rule.exitCaptures?.getD {} = r.exitCaptures := by
  rw [exitCaptures?] at h ⊢
  split at h
  · rename_i r hbody
    rw [hbody]
    exact ⟨r, rfl, rfl⟩
  all_goals simp [Captures.hasPatterns] at h

/-- Captures with rules of their own are entered as those of a rule, in captures of others. -/
structure EntersFor (ctx : Context) (width : Nat) (s : Stack) (path : ScopePath)
    (grammar : GrammarId) (captures : Captures) (rs : List RuleRef) (ref : RuleRef) (rule : Rule) :
    Prop where
  nodup : rs.Nodup
  known : rs ⊆ ctx.registry.refs
  count : s.capturedCount ≤ width * rs.length
  text : IsTextOf ctx rs ref path
  rule_eq : ctx.registry.rule ref = .ok rule
  mem_captures : captures ∈ rule.captures
  grammar_eq : grammar = ref.grammar

/-- **Whenever captures are entered, it is as those of a rule in captures of others.** -/
theorem CaptureSite.exists_entersFor {s : Stack} {path : ScopePath} {grammar : GrammarId}
    {captures : Captures} (hs : s.Layered (Frame.IsWithin ctx width))
    (hsite : CaptureSite ctx (fun s ref ↦ s.Offers ctx ref) (Frame.IsWithin ctx width) s path
      grammar captures) (hp : captures.hasPatterns = true) :
    ∃ rs ref rule, EntersFor ctx width s path grammar captures rs ref rule := by
  cases hsite with
  | ended _ r rule hr hrule =>
    obtain ⟨rs, hwithin, -, htext, -⟩ := hr
    obtain ⟨body, hbody, hcaptures⟩ := Rule.mem_captures_of_exit hp
    refine ⟨rs, r.rule, rule, hwithin.nodup, hwithin.known, hwithin.count, htext, hrule, ?_, rfl⟩
    rw [hcaptures, Rule.captures, hbody]
    simp
  | matched _ ref rule r names htried hrule hbody hnames =>
    obtain ⟨rs, hwithin⟩ := hs.exists_isWithin
    have hgives : rule.Gives names := .single (by rw [Rule.templates, hbody]; simp) hnames
    refine ⟨rs, ref, rule, hwithin.nodup, hwithin.known, hwithin.count,
      hwithin.text_of_offers htried hrule hgives, hrule, ?_, rfl⟩
    rw [Rule.captures, hbody]
    simp
  | began s region rule r hr hrule hbody =>
    obtain ⟨rs, -, hwithin, htext, -⟩ := hr
    refine ⟨rs, region.rule, rule, hwithin.nodup, hwithin.known, hwithin.count, htext, hrule,
      ?_, rfl⟩
    rw [Rule.captures, hbody]
    simp
  | continued s r rule hr hrule =>
    obtain ⟨rs, -, hwithin, -, htext⟩ := hr
    obtain ⟨body, hbody, hcaptures⟩ := Rule.mem_captures_of_exit hp
    refine ⟨rs, r.rule, rule, hwithin.nodup, hwithin.known, hwithin.count, htext, hrule, ?_, rfl⟩
    rw [hcaptures, Rule.captures, hbody]
    simp

/-- Captures of a rule are never more than a number. -/
def Registry.HasWidth (r : Registry) (width : Nat) : Prop :=
  ∀ ref rule, r.rule ref = .ok rule → ∀ c ∈ rule.captures, c.entries.length + 1 ≤ width

theorem Registry.exists_hasWidth (r : Registry) : ∃ width, r.HasWidth width := by
  have hbound : ∀ all : List Captures, ∃ width, ∀ c ∈ all, c.entries.length + 1 ≤ width := by
    intro all
    induction all with
    | nil => exact ⟨0, by simp⟩
    | cons c all ih =>
      obtain ⟨width, hwidth⟩ := ih
      refine ⟨max (c.entries.length + 1) width, fun c' hc' ↦ ?_⟩
      rcases List.mem_cons.1 hc' with rfl | hc'
      · exact Nat.le_max_left _ _
      · exact Nat.le_trans (hwidth c' hc') (Nat.le_max_right _ _)
  obtain ⟨width, hwidth⟩ := hbound (r.refs.flatMap fun ref ↦
    (r.rule ref).toOption.elim [] Rule.captures)
  refine ⟨width, fun ref rule hrule c hc ↦ hwidth c (List.mem_flatMap.2 ⟨ref, ?_, ?_⟩)⟩
  · exact mem_refs_iff.2 ⟨rule, hrule⟩
  · rw [hrule]
    exact hc

theorem Rule.name_mem_templates {rule : Rule} {captures : Captures} {entry : Nat × CaptureRule}
    (hc : captures ∈ rule.captures) (hentry : entry ∈ captures.entries) :
    entry.2.name ∈ rule.templates := by
  rw [Rule.captures] at hc
  rw [templates]
  cases hbody : rule.body with
  | single r =>
    rw [hbody] at hc
    rw [List.mem_singleton.1 hc] at hentry
    exact List.mem_cons_of_mem _ (List.mem_map_of_mem hentry)
  | region r =>
    rw [hbody] at hc
    refine List.mem_cons_of_mem _ (List.mem_cons_of_mem _ (List.mem_map_of_mem ?_))
    rcases List.mem_cons.1 hc with rfl | hc
    · exact List.mem_append_left _ hentry
    · rw [List.mem_singleton.1 hc] at hentry
      exact List.mem_append_right _ hentry
  | includes target => simp [hbody] at hc
  | group r => simp [hbody] at hc

/-- A capture of a rule is in its captures, and in those that the rule is offered in. -/
theorem IsTextOf.place {ref : RuleRef} {path : ScopePath} {q : Place}
    (htext : IsTextOf ctx rs ref path) (hq : q.IsCaptureOf ctx ref path) :
    ∀ x ∈ ref :: rs, q.IsInCapturesOf ctx x := by
  intro x hx
  rcases List.mem_cons.1 hx with rfl | hx
  · exact ⟨path, q, hq, .refl⟩
  · obtain ⟨p, rule, names, ⟨path', q', hq', hleads⟩, hoffers, hrule, hgives, rfl⟩ := htext x hx
    exact ⟨path', q', hq', hleads.tail (.capture ref rule names q hoffers hrule hgives hq)⟩

/-- A capture that is opened is one of the same rule, and takes the room that was kept for it. -/
theorem CapturedText.IsWithin.child {s : Stack} {c : CapturedText} {t : CaptureTree CapturedScopes}
    {ref : RuleRef} {rule : Rule} {captures : Captures}
    (hc : c.IsWithin ctx width s rs ref rule captures) (ht : c.pending.head? = some t) :
    (c.child t).IsWithin ctx width (s.push (.captured { c with pending := c.pending.tail })) rs ref
      rule captures := by
  obtain ⟨rest, hpending⟩ := List.head?_eq_some_iff.1 ht
  have hlabels := hc.labels t (by rw [hpending]; exact List.mem_cons_self)
  obtain ⟨entry, hentry, hnames, hpatterns⟩ := hlabels.own
  refine ⟨hc.nodup, hc.known, hc.rule_eq, hc.mem_captures, ?_, hlabels.children, ?_, ?_⟩
  · -- the frame and the captures in it take the room of one capture to come
    have hcount := hc.count
    rw [hpending, CaptureTree.nodeCountOfAll, CaptureTree.nodeCount_eq] at hcount
    rw [Stack.capturedCount_push_captured]
    show s.capturedCount + 1 + 1 + CaptureTree.nodeCountOfAll t.children ≤ _
    omega
  · intro owner howner
    obtain ⟨group, hgroup, rfl⟩ := Option.map_eq_some_iff.1 (hpatterns.symm.trans howner)
    exact hc.text.place ⟨rule, captures, entry, group, t.label.scopes, hc.rule_eq,
      hc.mem_captures, hentry, hgroup, hnames, rfl⟩
  · exact hc.text.append hc.rule_eq (Rule.name_mem_templates hc.mem_captures hentry) hnames

/-- A region that begins is in the same captures, and its text is that of its rule. -/
theorem Stack.IsWithin.began {s : LineState} {m : Match} {ref : RuleRef} {rule : Rule}
    {r : RegionRule} {region : Region} (hs : s.stack.IsWithin ctx width rs)
    (hoffers : s.stack.Offers ctx ref) (hrule : ctx.registry.rule ref = .ok rule)
    (hbody : rule.body = .region r) (hregion : RegionOpened ctx line s ref r m region) :
    (s.stack.push (.region region)).IsWithin ctx width rs ∧
      IsTextOf ctx rs region.rule region.nameScopes ∧
      IsTextOf ctx rs region.rule region.contentScopes := by
  obtain ⟨names, hnames, hname⟩ := hregion.name_scopes
  obtain ⟨contents, hcontents, hcontent⟩ := hregion.content_scopes
  have htemplates : r.name ∈ rule.templates ∧ r.contentName ∈ rule.templates := by
    rw [Rule.templates, hbody]
    simp
  have htext : IsTextOf ctx rs region.rule region.nameScopes := by
    rw [hname, hregion.rule_eq]
    exact hs.text_of_offers hoffers hrule (.single htemplates.1 hnames)
  have hrule' : ctx.registry.rule region.rule = .ok rule := by rw [hregion.rule_eq, hrule]
  refine ⟨⟨hs.nodup, hs.known, ?_, ?_⟩, htext, ?_⟩
  · rw [Stack.capturedCount_push_region]
    exact hs.count
  · -- what leads to the place where the region began leads to the region
    intro p hp x hx
    obtain rfl : ⟨region.rule, region.contentScopes⟩ = p := Option.some.inj hp
    obtain ⟨p, hp, hoffers⟩ := hoffers
    obtain ⟨path, q, hq, hleads⟩ := hs.place p hp x hx
    obtain ⟨owner, -, rfl⟩ := Option.map_eq_some_iff.1 hp
    refine ⟨path, q, hq, hleads.tail ?_⟩
    rw [hcontent, hname, hregion.rule_eq]
    exact .region ref rule r names contents hoffers hrule hbody hnames hcontents
  · rw [hcontent]
    exact htext.append hrule' htemplates.2 hcontents

/-- The frame for the captures of a rule is in these captures too, which it was not in before. -/
theorem EntersFor.isWithin {s : Stack} {m : Match} {path : ScopePath} {grammar : GrammarId}
    {captures : Captures} {labels : List (Nat × CapturedScopes)} {ref : RuleRef} {rule : Rule}
    (h : ctx.NeverRecaptures) (hwidth : ctx.registry.HasWidth width)
    (he : EntersFor ctx width s path grammar captures rs ref rule)
    (hl : Returns (capturedScopes line m grammar captures.entries) labels) :
    (m.frame path labels).IsWithin ctx width s rs ref rule captures := by
  obtain ⟨taken, hsublist, htaken⟩ := exists_sublist_of_capturedScopes hl
  have hnot : ref ∉ rs := he.text.not_mem h
  have hknown : ref ∈ ctx.registry.refs := Registry.mem_refs_iff.2 ⟨rule, he.rule_eq⟩
  refine ⟨List.nodup_cons.2 ⟨hnot, he.nodup⟩, List.cons_subset.2 ⟨hknown, he.known⟩, he.rule_eq,
    he.mem_captures, ?_, ?_, ?_, he.text⟩
  · have hforest := CaptureTree.nodeCountOfAll_forest_le m.clipped labels
    have hlabels : labels.length ≤ captures.entries.length :=
      htaken.length_eq ▸ hsublist.length_le
    have hroom := hwidth ref rule he.rule_eq captures he.mem_captures
    have hcount := he.count
    rw [List.length_cons, Nat.mul_succ]
    show s.capturedCount + 1 + CaptureTree.nodeCountOfAll (CaptureTree.forest m.clipped labels) ≤ _
    omega
  · refine CaptureTree.all_of_mem_forest fun item hitem ↦ ?_
    have hmem := (CaptureTree.of_mem_items hitem).2.2
    obtain ⟨entry, hentry, hfor⟩ := exists_isFor_of_capturedScopes hl _ hmem
    exact ⟨entry, hentry, hfor.names, he.grammar_eq ▸ hfor.patterns_eq⟩
  · rintro owner ⟨⟩

/-- **Frames are in captures of different rules** all through a line, if no rule is offered in its
own. -/
theorem frameInvariant_isWithin (h : ctx.NeverRecaptures) (hwidth : ctx.registry.HasWidth width) :
    FrameInvariant ctx line (fun s ref ↦ s.Offers ctx ref) (Frame.IsWithin ctx width) where
  pending := by
    rintro s c pending ⟨rs, ref, rule, captures, hc⟩ hsuffix
    have hcount := CaptureTree.nodeCountOfAll_le_of_suffix hsuffix
    exact ⟨rs, ref, rule, captures, hc.nodup, hc.known, hc.rule_eq, hc.mem_captures,
      Nat.le_trans (Nat.add_le_add_left hcount _) hc.count,
      fun t ht ↦ hc.labels t (hsuffix.mem ht), hc.place, hc.text⟩
  child := by
    rintro s c t ⟨rs, ref, rule, captures, hc⟩ ht
    exact ⟨rs, ref, rule, captures, hc.child ht⟩
  began := by
    intro s range m ref rule r region hs hoffers _ hrule hbody hregion
    obtain ⟨rs, hwithin⟩ := hs.exists_isWithin
    exact ⟨rs, hwithin, hwithin.began hoffers hrule hbody hregion⟩
  entered := by
    intro s range m path grammar captures labels hs hsite _ _ hp hl
    obtain ⟨rs, ref, rule, he⟩ := hsite.exists_entersFor hs hp
    exact ⟨rs, ref, rule, captures, he.isWithin h hwidth hl⟩

/-- The number of open captures is limited by the number of rules. -/
theorem Stack.Layered.capturedCount_le {s : Stack} (hs : s.Layered (Frame.IsWithin ctx width)) :
    s.capturedCount ≤ width * ctx.registry.refs.length := by
  obtain ⟨rs, hwithin⟩ := hs.exists_isWithin
  have hlength : rs.length ≤ ctx.registry.refs.length :=
    (List.subperm_of_subset hwithin.nodup hwithin.known).length_le
  exact Nat.le_trans hwithin.count (Nat.mul_le_mul_left _ hlength)

/-! ### What the rules of captures lead to -/

/-- A rule can be reached from those that another one holds: it is one of them, or one of those that
such a rule holds, or of those that the captures of such a rule have.

The last of these cannot be left out. Of two rules that hold each other in their captures neither is
among the rules that its own captures hold, and yet each is tried again in the text of the other. -/
inductive Registry.IsUnder (r : Registry) (base : GrammarId) (owner : RuleRef) : RuleRef → Prop
  | held {ref : RuleRef} (h : r.Holds base owner ref) : IsUnder r base owner ref
  | child {ref ref' : RuleRef} (h : IsUnder r base owner ref) (hheld : r.Holds base ref ref') :
      IsUnder r base owner ref'
  | capture {ref ref' : RuleRef} {rule : Rule} {captures : Captures} {entry : Nat × CaptureRule}
      {group : RuleId} (h : IsUnder r base owner ref) (hrule : r.rule ref = .ok rule)
      (hc : captures ∈ rule.captures) (hentry : entry ∈ captures.entries)
      (hgroup : entry.2.patterns = some group) (hheld : r.Holds base ⟨ref.grammar, group⟩ ref') :
      IsUnder r base owner ref'

/-- No rule can be reached from the rules of one of its own captures. -/
def Registry.HoldsNoneInItself (r : Registry) (base : GrammarId) : Prop :=
  ∀ ref rule captures entry group, r.rule ref = .ok rule → captures ∈ rule.captures →
    entry ∈ captures.entries → entry.2.patterns = some group →
    ¬ r.IsUnder base ⟨ref.grammar, group⟩ ref

/-- **Without injections the rules of the captures decide**: a rule that cannot be reached from
those of its captures is not offered there. -/
theorem Registry.HoldsNoneInItself.neverRecaptures (hinjections : ctx.injections = [])
    (h : ctx.registry.HoldsNoneInItself ctx.base) : ctx.NeverRecaptures := by
  have hheld : ∀ {p : Place} {ref}, p.Offers ctx ref → ctx.registry.Holds ctx.base p.owner ref := by
    rintro p ref (hheld | ⟨i, hi, -⟩)
    · exact hheld
    · rw [activeInjections, hinjections] at hi
      cases hi
  rintro ref p ⟨path, q, ⟨rule, captures, entry, group, names, hrule, hc, hentry, hgroup, -, rfl⟩,
    hleads⟩ hoffers
  refine h ref rule captures entry group hrule hc hentry hgroup ?_
  -- all that is held at places that the capture leads to can be reached from its rules
  have hunder : ∀ x, ctx.registry.Holds ctx.base p.owner x →
      ctx.registry.IsUnder ctx.base ⟨ref.grammar, group⟩ x := by
    clear hoffers
    induction hleads with
    | refl => exact fun x hx ↦ .held hx
    | tail _ hleads ih =>
      cases hleads with
      | region ref' _ _ _ _ hoffers => exact fun x hx ↦ .child (ih ref' (hheld hoffers)) hx
      | capture ref' _ _ _ hoffers _ _ hq =>
        obtain ⟨rule', captures', entry', group', _, hrule', hc', hentry', hgroup', -, rfl⟩ := hq
        exact fun x hx ↦ .capture (ih ref' (hheld hoffers)) hrule' hc' hentry' hgroup' hx
  exact hunder ref (hheld hoffers)

/-- A rule that leads to nothing reaches itself only. -/
theorem Registry.eq_of_reaches {r : Registry} {base : GrammarId} {ref ref' : RuleRef}
    (h : ∀ x, ¬ r.LeadsTo base ref x) (hreaches : r.Reaches base ref ref') : ref' = ref := by
  induction hreaches using Relation.ReflTransGen.head_induction_on with
  | refl => rfl
  | head hleads => exact (h _ hleads).elim

/-- A rule whose capture has a rule that leads to nothing cannot be reached from there. -/
theorem Registry.holdsNoneInItself_of_leaf {r : Registry} {base : GrammarId} {g : Grammar}
    {root : RuleBody} {leaf : Rule} (hgrammars : r.grammars = #[g])
    (hrules : g.rules =
      #[⟨0, none, false, root⟩, ⟨1, some 0, false, .single ⟨none, 0, ⟨[(0, ⟨none, some 2⟩)]⟩⟩⟩,
        ⟨2, some 1, false, .group ⟨[3], []⟩⟩, leaf])
    (hroot : (⟨0, none, false, root⟩ : Rule).captures = []) (hpatterns : leaf.patterns = [])
    (hcaptures : ∀ c ∈ leaf.captures, c.entries = [])
    (hleads : ∀ x, ¬ r.LeadsTo base ⟨0, 3⟩ x) : r.HoldsNoneInItself base := by
  have hrule : ∀ {ref rule}, r.rule ref = .ok rule →
      ref.grammar = 0 ∧ g.rules[ref.rule]? = some rule := by
    intro ref rule h
    obtain ⟨g', hg', hrule⟩ := rule_eq_ok_iff.1 h
    rw [hgrammars] at hg'
    obtain ⟨hlt, rfl⟩ := Array.getElem?_eq_some_iff.1 hg'
    have hzero : ref.grammar = 0 := Nat.lt_one_iff.1 hlt
    simp only [hzero] at hrule
    exact ⟨hzero, hrule⟩
  -- there is one rule with captures, and what can be reached from its capture is another one
  have howner : ∀ {ref rule captures entry}, r.rule ref = .ok rule →
      captures ∈ rule.captures → entry ∈ captures.entries →
        ref = ⟨0, 1⟩ ∧ entry = (0, (⟨none, some 2⟩ : CaptureRule)) := by
    rintro ⟨grammar, index⟩ rule captures entry h hc hentry
    obtain ⟨rfl, hindex⟩ := hrule h
    rw [hrules] at hindex
    rcases index with - | - | - | - | n
    · obtain rfl := Option.some.inj hindex
      have hnone : captures ∈ (⟨0, none, false, root⟩ : Rule).captures := hc
      rw [hroot] at hnone
      cases hnone
    · obtain rfl := Option.some.inj hindex
      obtain rfl := List.mem_singleton.1 hc
      exact ⟨rfl, List.mem_singleton.1 hentry⟩
    · obtain rfl := Option.some.inj hindex
      cases hc
    · obtain rfl := Option.some.inj hindex
      rw [hcaptures captures hc] at hentry
      cases hentry
    · cases hindex
  have hheld : ∀ {ref}, r.Holds base ⟨0, 2⟩ ref → ref = ⟨0, 3⟩ := by
    rintro ref ⟨rule, h, id, hid, hreaches⟩
    have hindex := (hrule h).2
    rw [hrules] at hindex
    obtain rfl := Option.some.inj hindex
    obtain rfl := List.mem_singleton.1 hid
    exact eq_of_reaches hleads hreaches
  have hunder : ∀ {ref}, r.IsUnder base ⟨0, 2⟩ ref → ref = ⟨0, 3⟩ := by
    intro ref h
    induction h with
    | held h => exact hheld h
    | child _ h ih =>
      obtain ⟨rule, h, id, hid, -⟩ := h
      have hindex := (hrule h).2
      rw [ih, hrules] at hindex
      obtain rfl := Option.some.inj hindex
      have hnone : id ∈ leaf.patterns := hid
      rw [hpatterns] at hnone
      cases hnone
    | capture _ h hc hentry _ _ ih =>
      rw [ih] at h
      cases (howner h hc hentry).1
  intro ref rule captures entry group h hc hentry hgroup hself
  obtain ⟨rfl, rfl⟩ := howner h hc hentry
  obtain rfl := Option.some.inj hgroup
  cases hunder hself

/-! ### Lines of a document -/

/-- **What every frame keeps, a line keeps**, if it is kept with the rules that are tried. -/
theorem FrameInvariant.scanInvariant {I : Memory → Prop} {T : Stack → RuleRef → Prop}
    {G : Stack → Frame → Prop} (hG : FrameInvariant ctx line T G) (hI : MemoryInvariant ctx I)
    (hT : Tries ctx I T) : ScanInvariant ctx line I fun s ↦ s.stack.Layered G where
  memory := hI
  step hs h := hG.transition (hG.dropPassed hs) (transitionOf_of_step hT h)
  withFrames hs h := hs.withFrames h
  entered hs hgoes hrule he := hG.entered_of_goesOn hs hgoes hrule he
  continued hs _ _ := hs

/-- The regions that a line hands over are in no captures. -/
theorem Stack.IsCarried.layered_isWithin {r : Registry} {base : GrammarId} {s : Stack}
    (h : s.IsCarried r base) : s.Layered (Frame.IsWithin ctx width) := by
  intro f below hsuffix
  have hcount : ∀ frames, frames <:+ s.frames → (s.withFrames frames).capturedCount = 0 :=
    fun frames hframes ↦ capturedCount_eq_zero (h.layered_region.withFrames hframes)
  have hwithin : ∀ frames, frames <:+ s.frames → (s.withFrames frames).IsWithin ctx width [] :=
    fun frames hframes ↦
      ⟨List.nodup_nil, List.nil_subset _, Nat.le_of_eq (hcount frames hframes), by simp⟩
  have htext : ∀ ref path, IsTextOf ctx [] ref path := fun ref path x hx ↦ by cases hx
  have hf := h.frames f below hsuffix
  cases f with
  | region region =>
    exact ⟨[], hwithin below ((List.suffix_cons _ _).trans hsuffix), hwithin _ hsuffix, htext _ _,
      htext _ _⟩
  | captured c => exact hf.elim

namespace Session

variable {E : Engine} {r : Registry} {base : GrammarId} {s : Session}

/-- **Every line comes to its end if no rule is offered in its own captures**: neither by the rules
of the capture, nor by rules, regions and captures that these lead to, nor by injections whose
selectors hold there.

Captures that are led to count because rules may hold each other in their captures, and injections
because they are tried in every place whose scopes fit, whatever holds them. -/
theorem tokenizeLine_terminates (hE : E.StaysInRange) (hs : Reachable E r base s)
    (patterns : PatternCache) (line : String)
    (h : (s.context (r.withPatterns patterns)).NeverRecaptures) :
    ∃ n, ∀ fuel, n ≤ fuel →
      (s.tokenizeLine (r.withPatterns patterns) line fuel).result ≠ .error .unfinished := by
  have hE' : (s.context (r.withPatterns patterns)).engine.StaysInRange :=
    (hs.engine_context _).symm ▸ hE
  obtain ⟨width, hwidth⟩ := (s.context (r.withPatterns patterns)).registry.exists_hasWidth
  have hstart : (LineState.start s.stack s.firstLine (.ofLine line)).stack.Layered
      (Frame.IsWithin (s.context (r.withPatterns patterns)) width) := hs.isCarried.layered_isWithin
  have hagrees : r.Agrees s.base s.candidates := hs.agrees
  obtain ⟨n, hn⟩ := ((frameInvariant_isWithin h hwidth).scanInvariant (agrees_invariant _)
    (tries_of_agrees _)).exists_fuel_of_scanLine hE' (fun _ hs ↦ hs.capturedCount_le) hstart
      (memory_agrees hagrees patterns)
  refine ⟨n, fun fuel hfuel heq ↦ hn fuel hfuel ?_⟩
  exact (tokenizeLine_eq_error_iff hs.lost_eq).1 heq

end Session

/-! ### Captures that are tokenized by other rules -/

/-- A grammar of a rule whose captured text is tokenized by another one. -/
def GrammarDefinition.captured : GrammarDefinition where
  scopeName := "text"
  patterns :=
    [{ matchPattern := some "ab"
       captures := some [("0", { patterns := [{ matchPattern := some "b" }] })] }]

/-- That grammar, compiled. -/
def Grammar.captured : Grammar where
  name := ""
  scopeName := "text"
  scope := .ofString "text"
  rules :=
    #[⟨0, none, false, .group ⟨[1], []⟩⟩,
      ⟨1, some 0, false, .single ⟨none, 0, ⟨[(0, ⟨none, some 2⟩)]⟩⟩⟩,
      ⟨2, some 1, false, .group ⟨[3], []⟩⟩,
      ⟨3, some 2, false, .single ⟨none, 1, ⟨[]⟩⟩⟩]
  regexes :=
    #[.ofPattern "ab" "patterns[0].match",
      .ofPattern "b" "patterns[0].captures.0.patterns[0].match"]
  injections := []
  exported := none
  injectTo := []

theorem Grammar.compile_captured (matcher : List Char → Matcher) :
    (compile .captured (.ofMatcher matcher)).result = .ok .captured :=
  rfl

/-- The registry of that grammar. -/
def Registry.captured : Registry where
  grammars := #[.captured]
  byScopeName := Std.HashMap.insert {} "text" 0

theorem Registry.add_captured : add {} .captured = .ok (0, captured) :=
  rfl

namespace Session

/-- The session at the start of a document. -/
def captured : Session where
  base := 0
  injections := []
  stack := .ofGrammar 0 (.ofString "text")
  lines := #[]
  engine := .literal

theorem captured_reachable : Reachable .literal .captured 0 captured :=
  .start [] rfl

/-- What it is tokenized with. -/
def capturedContext : Context :=
  captured.context (Registry.captured.withPatterns {})

/-- No rule is offered in its own captures. -/
theorem neverRecaptures_captured : capturedContext.NeverRecaptures := by
  refine Registry.HoldsNoneInItself.neverRecaptures rfl
    (Registry.holdsNoneInItself_of_leaf rfl rfl rfl rfl (by decide) ?_)
  rintro x ⟨places, event, hvisit, -⟩
  cases Except.ok.inj hvisit

/-- With that grammar every line comes to its end. -/
theorem tokenizeLine_terminates_captured :
    ∃ n, ∀ fuel, n ≤ fuel →
      (captured.tokenizeLine (Registry.captured.withPatterns {}) "ab" fuel).result ≠
        .error .unfinished :=
  tokenizeLine_terminates Engine.literal_staysInRange captured_reachable {} "ab"
    neverRecaptures_captured

end Session

/-! ### An injection into its own capture -/

/-- A scan whose steps always go on runs out of any fuel. -/
theorem runScan_unfinished {stopDepth : Option Nat} {P : LineState → Prop} {I : Memory → Prop}
    (hstep : ∀ s memory, P s → I memory → ∃ s' memory',
      step ctx line stopDepth s memory = .ok (.goOn s') memory' ∧ P s' ∧ I memory')
    (fuel : Nat) {s : LineState} {memory : Memory} (hs : P s) (hmemory : I memory) :
    (runScan ctx line stopDepth fuel s memory).failure = some .unfinished := by
  induction fuel generalizing s memory with
  | zero => rfl
  | succ fuel ih =>
    obtain ⟨s', memory', heq, hs', hmemory'⟩ := hstep s memory hs hmemory
    rw [runScan, heq]
    exact ih hs' hmemory'

/-- The capture of the rule that is injected everywhere holds a rule that leads to nothing. -/
theorem Registry.holdsNoneInItself_recapture : recapture.HoldsNoneInItself 0 := by
  refine holdsNoneInItself_of_leaf rfl rfl rfl rfl (by decide) ?_
  rintro x ⟨places, event, hvisit, hx⟩
  obtain ⟨hplaces, -⟩ := Prod.mk.inj (Except.ok.inj hvisit)
  obtain rfl := Option.some.inj hplaces
  cases hx

namespace Session

/-- **It does not suffice that no rule can be reached from its own captures**: a rule that is
injected everywhere is injected into its own capture, and a line in which it matches never comes to
its end. -/
theorem recapture_never_ends :
    Registry.recapture.HoldsNoneInItself 0 ∧ Reachable .literal .recapture 0 recapture ∧
      ∀ fuel, (recapture.tokenizeLine (Registry.recapture.withPatterns {}) "a" fuel).result =
        .error .unfinished := by
  refine ⟨Registry.holdsNoneInItself_recapture, recapture_reachable, fun fuel ↦ ?_⟩
  have hmemory : Memory.Agrees recaptureContext {} := by
    intro ref kind refs hrefs
    simp at hrefs
  -- the states of the scan: the start of the line, the capture, and the match around it
  let P : LineState → Prop := fun s ↦
    (∃ frames atTextStart, s = recaptureState frames atTextStart ∧
      (frames = [] ∨ ∃ below, frames = .captured (recaptureText (some ⟨0, 2⟩) []) :: below)) ∨
    ∃ below, s = recaptureState (.captured (recaptureText none [recaptureTree]) :: below) false
  have hscan :
      (runScan recaptureContext (.ofLine "a") none fuel (recaptureState [] true) {}).failure =
        some .unfinished := by
    refine runScan_unfinished (P := P) (I := Memory.Agrees recaptureContext) ?_ fuel
      (.inl ⟨[], true, rfl, .inl rfl⟩) hmemory
    rintro s memory (⟨frames, atTextStart, rfl, h⟩ | ⟨below, rfl⟩) hmemory
    · obtain ⟨memory', hmemory', hstep⟩ := exists_step_recapture hmemory atTextStart h
      exact ⟨_, memory', hstep, .inr ⟨frames, rfl⟩, hmemory'⟩
    · exact ⟨_, memory, step_recapture_captured below memory,
        .inl ⟨_, false, rfl, .inr ⟨_, rfl⟩⟩, hmemory⟩
  rw [tokenizeLine_eq_error_iff rfl]
  show (checkEnded (runScan recaptureContext (.ofLine "a") none fuel (recaptureState [] true)
    {})).failure = _
  rw [checkEnded, hscan]
  exact hscan

end Session

end ScopeGrammar
