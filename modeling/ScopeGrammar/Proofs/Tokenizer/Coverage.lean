import ScopeGrammar.Proofs.Capture.Forest
import ScopeGrammar.Proofs.Scope.Flatten
import ScopeGrammar.Proofs.Tokenizer.Carried

/-!
# Tokens cover their line

A row of tokens only ever grows at its end, so that its tokens lie end to end whatever positions it
is extended to. That they begin and end at characters of the line and have its root scope rests on
where those positions come from: matches, captures and bounds of frames (`Frame.LiesIn`). That
nothing of the line is left over rests on how a scan ends: its last step always extends the row to
the end of the line (`Transition.reached_eq`).

Of the engine it is only assumed that it keeps to boundaries of characters. Positions may go back
and forth for all that is needed here.
-/

namespace ScopeGrammar

open Tokenizing

/-! ### Rows of tokens -/

/-- Tokens lie end to end from one position to another, and none is empty. -/
def Tiles : Nat → Nat → List Token → Prop
  | start, stop, [] => start = stop
  | start, stop, t :: tokens =>
    t.span.start = start ∧ t.span.start < t.span.stop ∧ Tiles t.span.stop stop tokens

namespace Tiles

/-- Tokens lie forward. -/
theorem le {a b : Nat} {tokens : List Token} (h : Tiles a b tokens) : a ≤ b := by
  induction tokens generalizing a with
  | nil => exact Nat.le_of_eq h
  | cons t tokens ih =>
    obtain ⟨rfl, hlt, hrest⟩ := h
    exact Nat.le_trans (Nat.le_of_lt hlt) (ih hrest)

/-- Tokens that go nowhere are none, since none of them is empty. -/
theorem eq_nil {a : Nat} {tokens : List Token} (h : Tiles a a tokens) : tokens = [] := by
  cases tokens with
  | nil => rfl
  | cons t tokens =>
    obtain ⟨rfl, hlt, hrest⟩ := h
    exact absurd hrest.le (Nat.not_le_of_lt hlt)

/-- A token can be put to the end of others. -/
theorem append_singleton {a b c : Nat} {tokens : List Token} {scopes : ScopePath}
    (h : Tiles a b tokens) (hlt : b < c) : Tiles a c (tokens ++ [⟨⟨b, c⟩, scopes⟩]) := by
  induction tokens generalizing a with
  | nil =>
    obtain rfl : a = b := h
    exact ⟨rfl, hlt, rfl⟩
  | cons t tokens ih =>
    obtain ⟨hstart, hpos, hrest⟩ := h
    exact ⟨hstart, hpos, ih hrest⟩

end Tiles

/-- A token lies on characters of a text and has a root scope. -/
structure Token.LiesIn (content : List Char) (root : ScopeName) (t : Token) : Prop where
  start_boundary : IsBoundary content t.span.start
  stop_boundary : IsBoundary content t.span.stop
  root_eq : t.scopes.root = root

/-- The tokens of a row cover a line as far as the row has reached. -/
structure TokenRow.Covers (line : LineText) (root : ScopeName) (row : TokenRow) : Prop where
  stop_eq : row.stop = line.contentStop
  tiles : Tiles 0 row.reached row.tokens
  reached_boundary : IsBoundary line.content row.reached
  lies : ∀ t ∈ row.tokens, t.LiesIn line.content root

namespace TokenRow

variable {line : LineText} {root : ScopeName} {row : TokenRow} {path : ScopePath} {position : Nat}

/-- A line begins with no tokens, which cover nothing. -/
theorem covers_empty (line : LineText) (root : ScopeName) :
    (empty line.contentStop).Covers line root where
  stop_eq := rfl
  tiles := rfl
  reached_boundary := isBoundary_zero _
  lies := by simp [tokens, empty]

/-- Tokens do not reach past the content of a line. -/
theorem Covers.reached_le (h : row.Covers line root) : row.reached ≤ line.contentStop := by
  rw [line.contentStop_eq]
  exact h.reached_boundary.le_byteLength

/-- A position in the searched text, moved back to the end of the content. -/
theorem isBoundary_min_contentStop (hposition : IsBoundary line.chars position) :
    IsBoundary line.content (min position line.contentStop) := by
  rw [line.chars_eq] at hposition
  rcases Nat.le_total position line.contentStop with hle | hle
  · rw [Nat.min_eq_left hle]
    rw [line.contentStop_eq] at hle
    exact hposition.of_append hle
  · rw [Nat.min_eq_right hle, line.contentStop_eq]
    exact isBoundary_byteLength _

/-- **A row that is extended covers its line as far as it has reached then.** -/
theorem Covers.extend (h : row.Covers line root) (hposition : IsBoundary line.chars position)
    (hpath : path.root = root) : (row.extend position path).Covers line root := by
  have hboundary := isBoundary_min_contentStop hposition
  rw [← h.stop_eq] at hboundary
  rw [TokenRow.extend]
  split
  · rename_i hlt
    refine ⟨h.stop_eq, ?_, hboundary, fun t ht ↦ ?_⟩
    · rw [tokens, List.reverse_cons]
      exact h.tiles.append_singleton hlt
    · rw [tokens, List.reverse_cons] at ht
      rcases List.mem_append.1 ht with ht | ht
      · exact h.lies t ht
      · rw [List.mem_singleton.1 ht]
        exact ⟨h.reached_boundary, hboundary, hpath⟩
  · exact h

/-- What is made longer up to the end of the line covers all of its content. -/
theorem Covers.reached_extend_stop (h : row.Covers line root) :
    (row.extend line.stop path).reached = line.contentStop := by
  have hle := h.reached_le
  have hstop : min line.stop row.stop = line.contentStop := by
    rw [line.stop_eq, h.stop_eq]
    exact Nat.min_eq_right (Nat.le_succ _)
  rw [TokenRow.extend]
  rw [hstop]
  split
  · rfl
  · omega

/-- Spans between boundaries extend what is covered, each with its scopes. -/
theorem Covers.extendSpans {spans : List (Span × List ScopeName)} (h : row.Covers line root)
    (hspans : ∀ s ∈ spans, IsBoundary line.chars s.1.start ∧ IsBoundary line.chars s.1.stop)
    (hpath : path.root = root) : (row.extendSpans path spans).Covers line root := by
  induction spans generalizing row with
  | nil => exact h
  | cons s spans ih =>
    obtain ⟨hstart, hstop⟩ := hspans s List.mem_cons_self
    exact ih ((h.extend hstart hpath).extend hstop hpath)
      fun s' hs' ↦ hspans s' (List.mem_cons_of_mem _ hs')

end TokenRow

/-! ### Frames of a line -/

variable {ctx : Context} {line : LineText}

/-- The ends of a span are boundaries of the searched text. -/
def LineText.Bounds (line : LineText) (s : Span) : Prop :=
  IsBoundary line.chars s.start ∧ IsBoundary line.chars s.stop

/-- A frame has the root scope of its stack, and all its positions are boundaries. -/
def Frame.LiesIn (line : LineText) (s : Stack) : Frame → Prop
  | .region r =>
    r.nameScopes.root = s.scope ∧ r.contentScopes.root = s.scope ∧
      ∀ b, r.bound = some b → IsBoundary line.chars b
  | .captured c =>
    c.scopes.root = s.scope ∧ IsBoundary line.chars c.stop ∧
      ∀ t ∈ c.pending, t.All fun span _ ↦ line.Bounds span

/-- The end of a line is a boundary. -/
theorem LineText.isBoundary_stop (line : LineText) : IsBoundary line.chars line.stop := by
  rw [line.stop_eq_byteLength]
  exact isBoundary_byteLength _

namespace Stack

variable {s : Stack}

/-- Stacks with the same root have the same outermost scope. -/
theorem scope_eq_of_root_eq {t : Stack} (h : t.withFrames [] = s.withFrames []) :
    t.scope = s.scope := by
  show (t.withFrames []).scope = s.scope
  rw [h]
  rfl

/-- All scopes of a stack begin with that of its root. -/
theorem scopes_root (hs : s.Layered (Frame.LiesIn line)) : s.scopes.root = s.scope := by
  rw [scopes]
  split
  · rfl
  · rename_i f below hf
    have h := ((layered_iff_of_cons hf).1 hs).1
    cases f with
    | region r => exact h.2.1
    | captured c => exact h.1

/-- A frame stops at a boundary. -/
theorem isBoundary_of_bound? (hs : s.Layered (Frame.LiesIn line)) {b : Nat}
    (hb : s.bound? = some b) : IsBoundary line.chars b := by
  rw [bound?] at hb
  cases hf : s.frames with
  | nil => simp [hf] at hb
  | cons f below =>
    have h := ((layered_iff_of_cons hf).1 hs).1
    rw [hf] at hb
    cases f with
    | region r => exact h.2.2 b hb
    | captured c =>
      obtain rfl : c.stop = b := Option.some.inj hb
      exact h.2.1

end Stack

/-- The scopes of a match begin with that of the root. -/
theorem CaptureSite.root_eq {T : Stack → RuleRef → Prop} {s : Stack} {path : ScopePath}
    {grammar : GrammarId} {captures : Captures} (hs : s.Layered (Frame.LiesIn line))
    (h : CaptureSite ctx T (Frame.LiesIn line) s path grammar captures) : path.root = s.scope := by
  cases h with
  | ended _ r rule hr => exact hr.1
  | matched ref rule r names => exact s.scopes_root hs
  | began s region rule r hr => exact hr.1
  | continued s r rule hr => exact hr.2.1

/-- The captures of a match lie on characters. -/
theorem bounds_of_mem_forest (hE : ctx.engine.KeepsBoundaries) {range : Span} {m : Match}
    (hm : ctx.engine.ReportsIn line.chars range m) (labels : List (Nat × CapturedScopes)) :
    ∀ t ∈ CaptureTree.forest m.clipped labels, t.All fun span _ ↦ line.Bounds span :=
  CaptureTree.all_of_mem_forest fun _ hitem ↦
    Match.ends_of_clipped (fun _ hs ↦ hE.of_reportsIn hm hs) (CaptureTree.of_mem_items hitem).1

/-- The rules of the captures of a match are those that the entries name. -/
theorem patterns_of_mem_forest {m : Match} {grammar : GrammarId}
    {entries : List (Nat × CaptureRule)} {labels : List (Nat × CapturedScopes)}
    {Q : RuleRef → Prop} (hl : Returns (capturedScopes line m grammar entries) labels)
    (hQ : ∀ e ∈ entries, ∀ id, e.2.patterns = some id → Q ⟨grammar, id⟩) :
    ∀ t ∈ CaptureTree.forest m.clipped labels,
      t.All fun _ label ↦ ∀ ref, label.patterns = some ref → Q ref := by
  refine CaptureTree.all_of_mem_forest fun item hitem ref href ↦ ?_
  obtain ⟨rule, hentry, hpatterns⟩ :=
    exists_entry_of_capturedScopes hl _ (CaptureTree.of_mem_items hitem).2.2
  rw [hpatterns] at href
  obtain ⟨id, hid, rfl⟩ := Option.map_eq_some_iff.1 href
  exact hQ _ hentry id hid

mutual

/-- The scoped ranges of a capture are spans of its tree. -/
theorem span_of_mem_scopedRanges {Q : Span → Prop} {t : CaptureTree CapturedScopes}
    (h : t.All fun span _ ↦ Q span) : ∀ r ∈ scopedRanges t, Q r.span := by
  obtain ⟨index, span, label, children⟩ := t
  intro r hr
  rw [scopedRanges] at hr
  rcases List.mem_append.1 hr with hr | hr
  · obtain ⟨scope, -, rfl⟩ := List.mem_map.1 hr
    exact h.own
  · exact span_of_mem_scopedRangesOfAll h.children r hr

/-- The scoped ranges of captures are spans of their trees. -/
theorem span_of_mem_scopedRangesOfAll {Q : Span → Prop}
    {forest : List (CaptureTree CapturedScopes)} (h : ∀ t ∈ forest, t.All fun span _ ↦ Q span) :
    ∀ r ∈ scopedRangesOfAll forest, Q r.span := by
  cases forest with
  | nil => simp [scopedRangesOfAll]
  | cons t forest =>
    intro r hr
    rw [scopedRangesOfAll] at hr
    rcases List.mem_append.1 hr with hr | hr
    · exact span_of_mem_scopedRanges (h t List.mem_cons_self) r hr
    · exact span_of_mem_scopedRangesOfAll (fun t' ht' ↦ h t' (List.mem_cons_of_mem _ ht')) r hr

end

/-- All positions in frames stay boundaries, and their scopes keep the root. -/
theorem liesIn_invariant (hE : ctx.engine.KeepsBoundaries) :
    FrameInvariant ctx line (fun _ _ ↦ True) (Frame.LiesIn line) where
  pending := by
    intro s c pending h hsuffix
    exact ⟨h.1, h.2.1, fun t ht ↦ h.2.2 t (hsuffix.mem ht)⟩
  child := by
    intro s c t h ht
    have hall := h.2.2 t (List.mem_of_mem_head? ht)
    exact ⟨h.1, hall.own.2, hall.children⟩
  began := by
    intro s range m ref rule r region hs _ hm _ _ hregion
    obtain ⟨names, -, hnames⟩ := hregion.name_scopes
    obtain ⟨contents, -, hcontents⟩ := hregion.content_scopes
    have hroot : region.nameScopes.root = s.stack.scope := by
      rw [hnames]
      exact s.stack.scopes_root hs
    refine ⟨hroot, ?_, fun b hb ↦ ?_⟩
    · rw [hcontents]
      exact hroot
    · rw [hregion.bound_eq] at hb
      exact Stack.isBoundary_of_bound? hs hb
  entered := by
    intro s range m path grammar captures labels hs hsite hm _ _ _
    exact ⟨hsite.root_eq hs, (hE.of_reportsIn hm List.mem_cons_self).2,
      bounds_of_mem_forest hE hm labels⟩

/-! ### States of a line -/

/-- The tokens of a state cover the line, and its frames are of the line. -/
structure LineState.Covers (line : LineText) (root : Stack) (s : LineState) : Prop where
  root_eq : s.stack.withFrames [] = root
  frames : s.stack.Layered (Frame.LiesIn line)
  row : s.row.Covers line s.stack.scope

namespace LineState.Covers

variable {root : Stack} {s : LineState}

/-- The token that is being made can be made longer up to any boundary. -/
theorem extendContent (h : s.Covers line root) {position : Nat}
    (hposition : IsBoundary line.chars position) : (s.extendContent position).Covers line root :=
  ⟨h.root_eq, h.frames, h.row.extend hposition (Stack.scopes_root h.frames)⟩

/-- The tokens cover the line further when captures are entered. -/
theorem row_capturesEntered (hE : ctx.engine.KeepsBoundaries) {range : Span} {m : Match}
    {path : ScopePath} {grammar : GrammarId} {captures : Captures} {e : LineState × Bool}
    {scope : ScopeName} (hrow : s.row.Covers line scope) (hpath : path.root = scope)
    (hm : ctx.engine.ReportsIn line.chars range m)
    (he : CapturesEntered line s m path grammar captures e) : e.1.row.Covers line scope := by
  have hstop : IsBoundary line.chars m.stop := (hE.of_reportsIn hm List.mem_cons_self).2
  cases he with
  | empty => exact hrow
  | plain => exact hrow.extend hstop hpath
  | opened => exact hrow
  | flattened labels spans _ _ _ hspans =>
    -- the spans end where captures do
    have hranges := span_of_mem_scopedRangesOfAll (bounds_of_mem_forest hE hm labels)
    exact (hrow.extendSpans (ScopedRange.ends_of_flatten hranges hspans) hpath).extend hstop hpath

/-- The tokens cover the line when a frame is closed at its bound. -/
theorem row_atLimit (h : s.Covers line root) :
    (s.atLimit line).row.Covers line s.stack.scope := by
  refine (h.extendContent ?_).row
  rw [LineState.limit]
  cases hb : s.stack.bound? with
  | none => exact line.isBoundary_stop
  | some b => exact Stack.isBoundary_of_bound? h.frames hb

/-- The rest of a line that is closed goes to its tokens. -/
theorem stopLine (h : s.row.Covers line s.stack.scope) {frames : List Frame}
    (hframes : (s.stack.withFrames frames).Layered (Frame.LiesIn line)) :
    (stopLine line s frames).row.Covers line s.stack.scope ∧
      (stopLine line s frames).row.reached = line.contentStop := by
  fun_induction Tokenizing.stopLine line s frames with
  | case1 s f below b hb anchor ih =>
    obtain ⟨hf, hbelow⟩ := (Stack.layered_iff_of_cons rfl).1 hframes
    refine ih (h.extend ?_ ?_) hbelow
    · exact Stack.isBoundary_of_bound? hframes hb
    · exact (s.stack.withFrames (f :: below)).scopes_root hframes
  | case2 s f below hb =>
    exact ⟨h.extend line.isBoundary_stop (Stack.scopes_root hframes), h.reached_extend_stop⟩
  | case3 s =>
    exact ⟨h.extend line.isBoundary_stop (Stack.scopes_root hframes), h.reached_extend_stop⟩

end LineState.Covers

variable {root : Stack}

/-- Every step keeps the tokens end to end. -/
theorem LineState.Covers.transition (hE : ctx.engine.KeepsBoundaries) {stopDepth : Option Nat}
    {s : LineState} {next : Step} (h : s.Covers line root)
    (ht : Transition ctx line stopDepth s next) : next.state.Covers line root := by
  refine ⟨(root_invariant ctx line root).transition h.root_eq ht,
    (liesIn_invariant hE).transition h.frames ht, ?_⟩
  -- the root scope is the same before and after the step
  have hscope : next.state.stack.scope = s.stack.scope :=
    Stack.scope_eq_of_root_eq ((root_invariant ctx line _).transition rfl ht)
  rw [hscope]
  cases ht with
  | applied m c s' hfound happlied =>
    have hstart : IsBoundary line.chars m.start :=
      (hE.of_reportsIn hfound.reported List.mem_cons_self).1
    obtain ⟨stack, anchor, path, grammar, captures, e, hroot, hstack, hsite, he, rfl⟩ :=
      (liesIn_invariant hE).exists_site_of_applied (h.extendContent hstart).frames hfound.reported
        hfound.tried happlied
    have hpath : path.root = s.stack.scope :=
      (hsite.root_eq hstack).trans (Stack.scope_eq_of_root_eq hroot)
    refine row_capturesEntered hE ?_ hpath hfound.reported he
    exact (h.extendContent hstart).row
  | stuck m c hfound =>
    have hstart : IsBoundary line.chars m.start :=
      (hE.of_reportsIn hfound.reported List.mem_cons_self).1
    exact (stopLine (h.extendContent hstart).row h.frames).1
  | openedCapture t hnext =>
    have hstart : IsBoundary line.chars t.span.start := by
      obtain ⟨c, below, rest, hf, hpending⟩ := LineState.exists_captured_of_nextCapture? hnext
      have hc := ((Stack.layered_iff_of_cons hf).1 h.frames).1
      exact (hc.2.2 t (by rw [hpending]; exact List.mem_cons_self)).own.1
    exact (h.extendContent hstart).row
  | ended => exact h.row_atLimit
  | closed => split <;> exact h.row_atLimit

/-- **All through a line, its tokens cover it as far as they reach.** -/
theorem covers_invariant (hE : ctx.engine.KeepsBoundaries) :
    LineInvariant ctx line (LineState.Covers line root) where
  withFrames h hsuffix := ⟨h.root_eq, h.frames.withFrames hsuffix, h.row⟩
  dropPassed := by
    intro s h
    refine ⟨(root_invariant ctx line root).dropPassed h.root_eq,
      (liesIn_invariant hE).dropPassed h.frames, ?_⟩
    rw [LineState.dropPassed]
    split <;> exact h.row
  transition h ht := h.transition hE ht
  entered := by
    intro s r m rule e h hgoes hrule he
    have hlayered := (liesIn_invariant hE).lineInvariant.entered h.frames hgoes hrule he
    refine ⟨he.root_eq.trans h.root_eq, hlayered, ?_⟩
    rw [Stack.scope_eq_of_root_eq he.root_eq]
    obtain ⟨below, hf⟩ := hgoes.innermost
    have hr := ((Stack.layered_iff_of_cons hf).1 h.frames).1
    exact LineState.Covers.row_capturesEntered hE h.row hr.2.1 hgoes.reported he
  continued := by
    intro s scanned m h hscanned _
    refine ⟨h.root_eq, h.frames, ?_⟩
    have hroot : scanned.stack.withFrames [] = s.stack.withFrames [] :=
      hscanned.root_eq.trans h.root_eq.symm
    have hrow := hscanned.row
    rw [Stack.scope_eq_of_root_eq hroot] at hrow
    exact hrow

/-- **The scan of a line ends at the end of the line.** -/
theorem Transition.reached_eq (hE : ctx.engine.KeepsBoundaries) {s s' : LineState}
    (h : s.Covers line root) (ht : Transition ctx line none s (.done s')) :
    s'.row.reached = line.contentStop := by
  rcases ht.last_cases with ⟨m, c, hfound, rfl⟩ | ⟨hbound, rfl⟩
  · have hstart : IsBoundary line.chars m.start :=
      (hE.of_reportsIn hfound.reported List.mem_cons_self).1
    exact (LineState.Covers.stopLine (h.extendContent hstart).row h.frames).2
  · have hlimit : s.limit line = line.stop := by
      rw [LineState.limit, hbound]
      rfl
    rw [LineState.atLimit, hlimit]
    exact h.row.reached_extend_stop

/-! ### Lines of a document -/

/-- The content of a line is its text without the line end. -/
theorem lineContent_prefix (line : List Char) : lineContent line <+: line := by
  rw [lineContent]
  split
  · rename_i rest heq
    rw [← List.reverse_reverse line, heq]
    exact ⟨['\r', '\n'], by simp⟩
  · rename_i rest _ heq
    rw [← List.reverse_reverse line, heq]
    exact ⟨['\n'], by simp⟩
  · rename_i rest heq
    rw [← List.reverse_reverse line, heq]
    exact ⟨['\r'], by simp⟩
  · exact List.prefix_rfl

/-- The scopes of what is carried over begin with the root scope. -/
theorem Stack.IsCarried.layered_liesIn {r : Registry} {base : GrammarId} {s : Stack}
    (h : s.IsCarried r base) : s.Layered (Frame.LiesIn line) := by
  have hframes := h.frames
  clear h
  obtain ⟨grammar, scope, frames⟩ := s
  induction frames with
  | nil => exact Stack.layered_of_nil rfl
  | cons f below ih =>
    obtain ⟨hf, hbelow⟩ := (Stack.layered_iff_of_cons rfl).1 hframes
    have hlies := ih hbelow
    refine (Stack.layered_iff_of_cons rfl).2 ⟨?_, hlies⟩
    cases f with
    | region region =>
      obtain ⟨hfits, hbound, -, -⟩ := hf
      obtain ⟨names, hnames⟩ := hfits.below_prefix
      obtain ⟨contents, hcontents⟩ := hfits.name_prefix
      have hroot : region.nameScopes.root = scope :=
        (List.cons.inj hnames).1.symm.trans (Stack.scopes_root hlies)
      refine ⟨hroot, (List.cons.inj hcontents).1.symm.trans hroot, fun b hb ↦ ?_⟩
      rw [hbound] at hb
      contradiction
    | captured c => exact hf.elim

namespace Session

variable {E : Engine} {r : Registry} {base : GrammarId} {s : Session}

/-- **The tokens of a line partition it**, whichever lines came before and whatever they came to:
they lie end to end from its start to the end of its content, on characters of the line, and all of
them have the root scope of the grammar of the document first. -/
theorem tokens_partition_line (hE : E.KeepsBoundaries) (hs : Reachable E r base s)
    (patterns : PatternCache) (line : String) (fuel : Nat) {tokens : List Token}
    (h : (s.tokenizeLine (r.withPatterns patterns) line fuel).result = .ok tokens) :
    ∃ g, r.grammar base = .ok g ∧
      Tiles 0 (contentEnd line) tokens ∧ (tokens = [] ∨ 0 < contentEnd line) ∧
      ∀ t ∈ tokens, IsBoundary line.toList t.span.start ∧ IsBoundary line.toList t.span.stop ∧
        t.scopes.toList.head? = some g.scope := by
  obtain ⟨hnone, htokens⟩ := (tokenizeLine_eq_ok_iff hs.lost_eq).1 h
  obtain ⟨g, hg, hroot⟩ := hs.isCarried.root
  have hE' : (s.context (r.withPatterns patterns)).engine.KeepsBoundaries :=
    (hs.engine_context _).symm ▸ hE
  -- at its start the line has no tokens, and frames of regions only
  have hstart : (LineState.start s.stack s.firstLine (.ofLine line)).Covers (.ofLine line)
      (.ofGrammar base g.scope) :=
    ⟨hroot, hs.isCarried.layered_liesIn, TokenRow.covers_empty _ _⟩
  have hcovers := scanNext_state (covers_invariant hE') hstart fuel
  obtain ⟨s', hs', hlast⟩ := exists_last_step_of_scanNext (covers_invariant hE') hstart hnone
  -- the last step has reached the end of the content
  have htiles := hcovers.row.tiles
  rw [hlast.reached_eq hE' hs', htokens] at htiles
  refine ⟨g, hg, htiles, ?_, fun t ht ↦ ?_⟩
  · rcases Nat.eq_zero_or_pos (contentEnd line) with hempty | hpos
    · rw [show (LineText.ofLine line).contentStop = 0 from hempty] at htiles
      exact .inl htiles.eq_nil
    · exact .inr hpos
  · obtain ⟨hstart, hstop, hscopes⟩ := hcovers.row.lies t (htokens ▸ ht)
    -- the tokens lie in the content, but their ends are boundaries of the whole line
    obtain ⟨terminator, hline⟩ := lineContent_prefix line.toList
    rw [← hline]
    refine ⟨hstart.append terminator, hstop.append terminator, ?_⟩
    rw [ScopePath.toList, hscopes, List.head?_cons]
    exact congrArg some (@Stack.scope_eq_of_root_eq (.ofGrammar base g.scope) _ hcovers.root_eq)

/-- The text before a parenthesis and the parenthesis make up their line. -/
theorem tokens_partition_parens :
    Tiles 0 2
      [⟨⟨0, 1⟩, .ofRoot (.ofString "text")⟩, ⟨⟨1, 2⟩, .ofRoot (.ofString "text")⟩] := by
  obtain ⟨g, -, htiles, -⟩ := tokens_partition_line Engine.literal_keepsBoundaries
    (parens_reachable .literal) {} "a(" 2 tokenizeLine_parens
  exact htiles

end Session

end ScopeGrammar
