import ScopeGrammar.Proofs.Tokenizer.Remembered
import ScopeGrammar.Proofs.Tokenizer.Safety
import ScopeGrammar.Proofs.Tokenizer.Scoped

/-!
# Two ways of giving captures their scopes

The captures of a match get their scopes at once if they have nothing but scopes, and else in frames
that a scan goes through. If nothing is found in these frames, both ways leave the same stack,
position and anchors, and give the same scopes to every byte as long as the captures do not overlap
(`captures_agree`).

A frame is done with before the next one is opened, so that a capture that starts in another one and
ends after it is passed over. At once, it gets its scopes from where it starts
(`captures_differ_overlapping`).
-/

namespace ScopeGrammar

open Tokenizing ScopedRange

variable {ctx : Context} {line : LineText} {stopDepth : Option Nat}

/-! ### Frames in which nothing is found -/

/-- Neither a rule nor an injection is tried at the place. -/
def Place.FindsNothing (ctx : Context) (p : Place) : Prop :=
  (∃ log, ctx.registry.freshCandidates ctx.base p.owner .children = .ok ([], log)) ∧
    activeInjections ctx p.scopes = []

/-- Nothing is tried in the text of a capture. -/
def CapturedText.FindsNothing (ctx : Context) (c : CapturedText) : Prop :=
  ∀ owner, c.patterns = some owner → Place.FindsNothing ctx ⟨owner, c.scopes⟩

/-- The capture lies in text of some scopes, and neither in it nor in the captures in it is anything
tried. -/
inductive CaptureTree.FindsNothing (ctx : Context) :
    ScopePath → CaptureTree CapturedScopes → Prop
  | node {path : ScopePath} {t : CaptureTree CapturedScopes}
      (own : ∀ owner, t.label.patterns = some owner →
        Place.FindsNothing ctx ⟨owner, path.append t.label.scopes⟩)
      (children : ∀ c ∈ t.children, FindsNothing ctx (path.append t.label.scopes) c) :
      FindsNothing ctx path t

/-- The state in which the text of a capture is gone through. -/
def LineState.inCapture (s : LineState) (c : CapturedText) : LineState :=
  { s with stack := s.stack.push (.captured c) }

/-- A state with the stack of one in a capture is in that capture. -/
theorem LineState.eq_inCapture_of_stack_eq {s : LineState} {stack : Stack} {c : CapturedText}
    (h : s.stack = stack.push (.captured c)) :
    s = LineState.inCapture { s with stack := stack } c := by
  obtain ⟨stack', position, anchor, atTextStart, row⟩ := s
  obtain rfl : stack' = stack.push (.captured c) := h
  rfl

/-- **No match is found where nothing is tried.** -/
theorem exists_nextMatch_of_findsNothing (line : LineText) {memory : Memory} {c : CapturedText}
    (s : LineState) (bound : Nat) (hmemory : memory.Agrees ctx) (hc : c.FindsNothing ctx) :
    ∃ memory', memory'.Agrees ctx ∧
      nextMatch ctx line (s.inCapture c) bound memory = .ok none memory' := by
  rw [nextMatch]
  split
  · exact ⟨memory, hmemory, rfl⟩
  · cases howner : c.patterns with
    | none =>
      have hbest : findBest ctx line (s.inCapture c) bound = pure none := by
        have hnone : (s.inCapture c).stack.owner? = none := howner
        rw [findBest, hnone]
      refine ⟨memory, hmemory, ?_⟩
      rw [hbest]
      rfl
    | some owner =>
      obtain ⟨⟨log, hfresh⟩, hactive⟩ := hc owner howner
      obtain ⟨memory', hmemory', -, hcandidates⟩ := exists_candidates_eq hmemory hfresh
      have hordered :
          orderedCandidates ctx (s.inCapture c).stack owner memory = .ok [] memory' := by
        have hscopes : activeInjections ctx (s.inCapture c).stack.scopes = [] := hactive
        rw [orderedCandidates, hscopes]
        exact (bind_eq_of_eq_ok hcandidates).trans rfl
      have hbest : findBest ctx line (s.inCapture c) bound memory = .ok none memory' := by
        have hsome : (s.inCapture c).stack.owner? = some owner := howner
        rw [findBest, hsome]
        exact (bind_eq_of_eq_ok hordered).trans rfl
      exact ⟨memory', hmemory', bind_eq_of_eq_ok hbest⟩

/-- The next capture is opened where nothing is tried. -/
theorem exists_step_openCapture (line : LineText) (stopDepth : Option Nat) {memory : Memory}
    {c : CapturedText} {s : LineState} {t : CaptureTree CapturedScopes}
    {ts : List (CaptureTree CapturedScopes)} (hmemory : memory.Agrees ctx) (hc : c.FindsNothing ctx)
    (hpending : pendingFrom s.position c.pending = t :: ts) :
    ∃ memory', memory'.Agrees ctx ∧
      step ctx line stopDepth (s.inCapture c) memory =
        .ok (.goOn (LineState.inCapture
          (LineState.inCapture
            { s with row := s.row.extend t.span.start c.scopes, position := t.span.start }
            { c with pending := ts })
          ⟨t.label.patterns, c.scopes.append t.label.scopes, t.children, t.span.start,
            t.span.stop⟩))
          memory' := by
  have hdrop : (s.inCapture c).dropPassed = s.inCapture { c with pending := t :: ts } := by
    rw [← hpending]
    rfl
  obtain ⟨memory', hmemory', hnext⟩ := exists_nextMatch_of_findsNothing line
    (c := { c with pending := t :: ts }) s c.stop hmemory hc
  refine ⟨memory', hmemory', ?_⟩
  rw [step, hdrop]
  exact (bind_eq_of_eq_ok hnext).trans rfl

/-- A capture is closed where nothing is tried and no capture is to come. -/
theorem exists_step_close (line : LineText) (stopDepth : Option Nat) {memory : Memory}
    {c : CapturedText} {s : LineState} (hmemory : memory.Agrees ctx) (hc : c.FindsNothing ctx)
    (hpending : pendingFrom s.position c.pending = []) :
    ∃ memory', memory'.Agrees ctx ∧
      step ctx line stopDepth (s.inCapture c) memory =
        .ok (if stopDepth = some s.stack.depth then
            .done { s with row := s.row.extend c.stop c.scopes, position := max s.position c.stop }
          else .goOn
            { s with row := s.row.extend c.stop c.scopes, position := max s.position c.stop })
          memory' := by
  have hdrop : (s.inCapture c).dropPassed = s.inCapture { c with pending := [] } := by
    rw [← hpending]
    rfl
  obtain ⟨memory', hmemory', hnext⟩ := exists_nextMatch_of_findsNothing line
    (c := { c with pending := [] }) s c.stop hmemory hc
  refine ⟨memory', hmemory', ?_⟩
  rw [step, hdrop]
  exact (bind_eq_of_eq_ok hnext).trans rfl

/-! ### Scans of captures -/

/-- A step that closes a frame comes to one state, whether the scan is over with it or goes on. -/
theorem Step.eq_of_ite_eq_ite {p : Prop} [Decidable p] {s s' : LineState}
    (h : (if p then Step.done s else .goOn s) = if p then .done s' else .goOn s') : s = s' := by
  split at h
  · exact Step.done.inj h
  · exact Step.goOn.inj h

theorem Step.eq_of_ite_eq_goOn {p : Prop} [Decidable p] {s s' : LineState}
    (h : (if p then Step.done s else .goOn s) = .goOn s') : s = s' := by
  split at h
  · cases h
  · exact Step.goOn.inj h

/-- A scan goes on from a state until as many frames as a depth are left. -/
inductive ScansUntil (ctx : Context) (line : LineText) (stopDepth : Option Nat) (depth : Nat)
    (final : LineState) (left : Memory) : LineState → Memory → Prop
  | closes {s : LineState} {memory : Memory}
      (hstep : step ctx line stopDepth s memory =
        .ok (if stopDepth = some depth then .done final else .goOn final) left)
      (hdepth : final.stack.depth = depth) : ScansUntil ctx line stopDepth depth final left s memory
  | goesOn {s s' : LineState} {memory memory' : Memory}
      (hstep : step ctx line stopDepth s memory = .ok (.goOn s') memory')
      (hdepth : depth < s'.stack.depth)
      (h : ScansUntil ctx line stopDepth depth final left s' memory') :
      ScansUntil ctx line stopDepth depth final left s memory

namespace ScansUntil

variable {depth outer : Nat} {s mid final final' : LineState} {memory between left left' : Memory}

/-- The scan is a part of every longer one, and the end of one that is to stop there. -/
theorem exists_runScan (h : ScansUntil ctx line stopDepth depth final left s memory) :
    ∃ steps, ∀ fuel, runScan ctx line stopDepth (steps + fuel) s memory =
      if stopDepth = some depth then ⟨final, left, none⟩
      else runScan ctx line stopDepth fuel final left := by
  induction h with
  | closes hstep =>
    refine ⟨1, fun fuel ↦ ?_⟩
    rw [Nat.add_comm, runScan, hstep]
    by_cases hstop : stopDepth = some depth
    · rw [if_pos hstop, if_pos hstop]
    · rw [if_neg hstop, if_neg hstop]
  | goesOn hstep _ _ ih =>
    obtain ⟨steps, hsteps⟩ := ih
    refine ⟨steps + 1, fun fuel ↦ ?_⟩
    rw [Nat.add_right_comm, runScan, hstep]
    exact hsteps fuel

/-- There is one state that a scan comes to. -/
theorem unique (h : ScansUntil ctx line stopDepth depth final left s memory)
    (h' : ScansUntil ctx line stopDepth depth final' left' s memory) : final = final' := by
  induction h with
  | closes hstep hdepth =>
    cases h' with
    | closes hstep' =>
      exact Step.eq_of_ite_eq_ite (EStateM.Result.ok.inj (hstep.symm.trans hstep')).1
    | goesOn hstep' hdepth' =>
      have heq := Step.eq_of_ite_eq_goOn (EStateM.Result.ok.inj (hstep.symm.trans hstep')).1
      rw [heq] at hdepth
      omega
  | goesOn hstep hdepth _ ih =>
    cases h' with
    | closes hstep' hdepth' =>
      have heq := Step.eq_of_ite_eq_goOn (EStateM.Result.ok.inj (hstep'.symm.trans hstep)).1
      rw [heq] at hdepth'
      omega
    | goesOn hstep' _ h' =>
      obtain ⟨heq, rfl⟩ := EStateM.Result.ok.inj (hstep.symm.trans hstep')
      rw [← Step.goOn.inj heq] at h'
      exact ih h'

/-- A scan within a frame, and the scan from there on. -/
theorem trans (h : ScansUntil ctx line stopDepth depth mid between s memory)
    (h' : ScansUntil ctx line stopDepth outer final left mid between) (hdepth : outer < depth)
    (hstop : stopDepth ≠ some depth) : ScansUntil ctx line stopDepth outer final left s memory := by
  induction h with
  | closes hstep heq =>
    rw [if_neg hstop] at hstep
    exact .goesOn hstep (heq ▸ hdepth) h'
  | goesOn hstep hdeeper _ ih => exact .goesOn hstep (Nat.lt_trans hdepth hdeeper) ih

end ScansUntil

/-- The text of a match was gone through: its bytes have their scopes, and nothing is open that was
not open before. -/
structure LineState.Scopes (s final : LineState) (stop : Nat) (path : ScopePath)
    (cover : Nat → List ScopeName) : Prop where
  stack_eq : final.stack = s.stack
  position_eq : final.position = stop
  anchor_eq : final.anchor = s.anchor
  atTextStart_eq : final.atTextStart = s.atTextStart
  row : s.row.ScopedBy final.row stop path cover

/-- **A scan of captures gives its scopes to each of them that it goes through** if nothing is tried
in them. -/
theorem exists_scansUntil_of_walksThrough (line : LineText) (stopDepth : Option Nat) {lo hi : Nat}
    {ts kept : List (CaptureTree CapturedScopes)} (hwalk : CaptureTree.WalksThrough lo hi ts kept)
    {s : LineState} {c : CapturedText} {memory : Memory} (hposition : s.position = lo)
    (hpending : pendingFrom lo c.pending = pendingFrom lo ts) (hstop : c.stop = hi)
    (hmemory : memory.Agrees ctx) (hc : c.FindsNothing ctx)
    (hts : ∀ t ∈ ts, t.FindsNothing ctx c.scopes)
    (hdepth : ∀ d, stopDepth = some d → d ≤ s.stack.depth) :
    ∃ final left, left.Agrees ctx ∧
      ScansUntil ctx line stopDepth s.stack.depth final left (s.inCapture c) memory ∧
      s.Scopes final hi c.scopes (scopesOf (scopedRangesOfAll kept)) := by
  induction hwalk generalizing s c memory with
  | nil hle =>
    obtain ⟨left, hleft, hstep⟩ := exists_step_close line stopDepth (s := s) hmemory hc
      (by rw [hposition, hpending]; rfl)
    refine ⟨_, left, hleft, .closes hstep rfl, rfl, ?_, rfl, rfl, ?_⟩
    · show max s.position c.stop = _
      omega
    · rw [← hstop]
      exact TokenRow.scopedBy_extend
  | passes hstart rest ih =>
    refine ih hposition ?_ hstop hmemory hc (fun t ht ↦ hts t (List.mem_cons_of_mem _ ht)) hdepth
    rw [hpending, pendingFrom, List.dropWhile_cons_of_pos (by simpa using hstart), pendingFrom]
  | @enters lo hi t ts inner kept hstart children rest ihchildren ihrest =>
    have hnext : pendingFrom s.position c.pending = t :: ts := by
      rw [hposition, hpending, pendingFrom, List.dropWhile_cons_of_neg (by simp; omega)]
    obtain ⟨memory₁, hmemory₁, hopen⟩ := exists_step_openCapture line stopDepth hmemory hc hnext
    obtain ⟨own, hchildren⟩ := hts t List.mem_cons_self
    obtain ⟨mid, memory₂, hmemory₂, hinner, hmid⟩ := ihchildren
      (s := LineState.inCapture
        { s with row := s.row.extend t.span.start c.scopes, position := t.span.start }
        { c with pending := ts })
      (c :=
        ⟨t.label.patterns, c.scopes.append t.label.scopes, t.children, t.span.start, t.span.stop⟩)
      rfl rfl rfl hmemory₁ own hchildren fun d hd ↦ Nat.le_succ_of_le (hdepth d hd)
    -- the frame around the capture is left as it was
    have hmid_eq :
        mid = LineState.inCapture { mid with stack := s.stack } { c with pending := ts } :=
      LineState.eq_inCapture_of_stack_eq hmid.stack_eq
    obtain ⟨final, left, hleft, houter, hfinal⟩ := ihrest (s := { mid with stack := s.stack })
      (c := { c with pending := ts }) hmid.position_eq rfl hstop hmemory₂ hc
      (fun t' ht' ↦ hts t' (List.mem_cons_of_mem _ ht')) hdepth
    rw [← hmid_eq] at houter
    have hdeeper : s.stack.depth < s.stack.depth + 1 := Nat.lt_succ_self _
    have hgoes : stopDepth ≠ some (s.stack.depth + 1) := fun heq ↦
      absurd (hdepth _ heq) (Nat.not_le_of_lt hdeeper)
    refine ⟨final, left, hleft, .goesOn hopen ?_ (hinner.trans houter hdeeper hgoes),
      hfinal.stack_eq, hfinal.position_eq, hfinal.anchor_eq.trans hmid.anchor_eq,
      hfinal.atTextStart_eq.trans hmid.atTextStart_eq,
      .capture (t := { t with children := inner }) (.cons hstart children.packed rest.packed)
        hmid.row hfinal.row⟩
    exact Nat.lt_succ_of_lt hdeeper

/-! ### Entering captures -/

/-- The same scopes for the same groups, and no rules. -/
def Captures.withoutPatterns (c : Captures) : Captures :=
  ⟨c.entries.map fun e ↦ (e.1, { e.2 with patterns := none })⟩

/-- Of any two groups of a match that something is done with and that hold text, one lies in the
other, or they are apart. -/
def Captures.IsLaminar (c : Captures) (m : Match) : Prop :=
  ∀ e ∈ c.entries, ∀ e' ∈ c.entries, ∀ a b, m.clipped.group? e.1 = some a →
    m.clipped.group? e'.1 = some b → a.start < a.stop → b.start < b.stop → a.Nests b

theorem Captures.hasPatterns_withoutPatterns (c : Captures) :
    c.withoutPatterns.hasPatterns = false := by
  simp [withoutPatterns, hasPatterns]

theorem Captures.IsLaminar.labels {c : Captures} {m : Match} {grammar : GrammarId}
    {labels : List (Nat × CapturedScopes)} (h : c.IsLaminar m)
    (hl : Returns (capturedScopes line m grammar c.entries) labels) :
    CaptureTree.IsLaminar m.clipped labels := by
  intro a ha b hb
  obtain ⟨ha, hpos, hmem⟩ := CaptureTree.of_mem_items ha
  obtain ⟨hb, hpos', hmem'⟩ := CaptureTree.of_mem_items hb
  obtain ⟨e, he, hfor⟩ := exists_isFor_of_capturedScopes hl _ hmem
  obtain ⟨e', he', hfor'⟩ := exists_isFor_of_capturedScopes hl _ hmem'
  rw [hfor.index_eq] at ha
  rw [hfor'.index_eq] at hb
  exact h e he e' he' _ _ ha hb hpos hpos'

/-- Without rules the groups have the same labels, but for the rules. -/
theorem capturedScopes_withoutPatterns (m : Match) (grammar : GrammarId) (c : Captures) :
    capturedScopes line m grammar c.withoutPatterns.entries =
      List.map (fun l ↦ (l.1, { l.2 with patterns := none })) <$>
        capturedScopes line m grammar c.entries := by
  obtain ⟨entries⟩ := c
  show capturedScopes line m grammar (entries.map fun e ↦ (e.1, { e.2 with patterns := none })) = _
  induction entries with
  | nil => rfl
  | cons e entries ih =>
    rw [List.map_cons, capturedScopes, capturedScopes]
    split
    · exact ih
    · split
      · exact ih
      · rw [ih]
        simp only [map_eq_pure_bind, bind_assoc, pure_bind]
        rfl

/-- Entering the captures of a match comes to a state: at once, or when the frame that is opened for
them is closed. -/
inductive EntersTo (ctx : Context) (line : LineText) (stopDepth : Option Nat) (s : LineState)
    (m : Match) (path : ScopePath) (grammar : GrammarId) (captures : Captures) (memory : Memory)
    (final : LineState) : Prop
  | atOnce {entered : LineState} {between : Memory}
      (h : enterCaptures line s m path grammar captures memory = .ok (entered, false) between)
      (hfinal : final = advance m s.position (entered, false))
  | scanned {entered : LineState} {between left : Memory}
      (h : enterCaptures line s m path grammar captures memory = .ok (entered, true) between)
      (hscan : ScansUntil ctx line stopDepth s.stack.depth final left
        (advance m s.position (entered, true)) between)

/-- The states have the same stack, position and anchors, and their rows come as far. -/
structure LineState.LeftLike (s t : LineState) : Prop where
  stack_eq : s.stack = t.stack
  position_eq : s.position = t.position
  anchor_eq : s.anchor = t.anchor
  atTextStart_eq : s.atTextStart = t.atTextStart
  reached_eq : s.row.reached = t.row.reached
  stop_eq : s.row.stop = t.row.stop

theorem LineState.LeftLike.refl (s : LineState) : s.LeftLike s :=
  ⟨rfl, rfl, rfl, rfl, rfl, rfl⟩

theorem LineState.Scopes.leftLike {s final final' : LineState} {stop : Nat} {path : ScopePath}
    {cover cover' : Nat → List ScopeName} (h : s.Scopes final stop path cover)
    (h' : s.Scopes final' stop path cover') : final.LeftLike final' where
  stack_eq := h.stack_eq.trans h'.stack_eq.symm
  position_eq := h.position_eq.trans h'.position_eq.symm
  anchor_eq := h.anchor_eq.trans h'.anchor_eq.symm
  atTextStart_eq := h.atTextStart_eq.trans h'.atTextStart_eq.symm
  reached_eq := h.row.reached_eq.trans h'.row.reached_eq.symm
  stop_eq := h.row.stop_eq.trans h'.row.stop_eq.symm

/-- The state at the start of a match that is to be gone through. -/
def LineState.atMatch (s : LineState) (m : Match) : LineState :=
  { s with position := m.start, atTextStart := s.atTextStart && !decide (s.position < m.stop) }

variable {s : LineState} {m : Match} {path : ScopePath} {grammar : GrammarId} {captures : Captures}
  {memory between : Memory} {labels : List (Nat × CapturedScopes)}

/-- There is one state that entering captures comes to. -/
theorem EntersTo.unique {final final' : LineState}
    (h : EntersTo ctx line stopDepth s m path grammar captures memory final)
    (h' : EntersTo ctx line stopDepth s m path grammar captures memory final') :
    final = final' := by
  cases h with
  | atOnce h hfinal =>
    cases h' with
    | atOnce h' hfinal' =>
      obtain ⟨heq, -⟩ := EStateM.Result.ok.inj (h.symm.trans h')
      rw [hfinal, hfinal', heq]
    | scanned h' _ => cases h.symm.trans h'
  | scanned h hscan =>
    cases h' with
    | atOnce h' _ => cases h.symm.trans h'
    | scanned h' hscan' =>
      obtain ⟨heq, rfl⟩ := EStateM.Result.ok.inj (h.symm.trans h')
      obtain rfl := (Prod.mk.inj heq).1
      exact hscan.unique hscan'

/-- **Captures that have nothing but scopes are entered at once**: their text gets the scopes that
the sweep gives it. -/
theorem exists_entersTo_flattened (ctx : Context) (stopDepth : Option Nat) (s : LineState)
    (path : ScopePath) (hpos : m.start < m.stop) (hposition : s.position ≤ m.start)
    (hp : captures.hasPatterns = false)
    (hl : capturedScopes line m grammar captures.entries memory = .ok labels between) :
    ∃ final spans, EntersTo ctx line stopDepth s m path grammar captures memory final ∧
      flatten (scopedRangesOfAll (CaptureTree.forest m.clipped labels)) = .ok spans ∧
      (s.atMatch m).Scopes final m.stop path (spanScopes spans) := by
  have hlt : s.position < m.stop := Nat.lt_of_le_of_lt hposition hpos
  obtain ⟨row, spans, _, hentered, hspans, hrow⟩ := exists_enterCaptures_flattened s path hpos hp hl
  exact ⟨_, spans, .atOnce hentered rfl, hspans, rfl, by simp [advance, hlt], rfl, rfl, hrow⟩

/-- **Captures with rules of their own are entered in a frame**: if nothing is found in it, those
that a walk goes through get their scopes. -/
theorem exists_entersTo_of_hasPatterns {kept : List (CaptureTree CapturedScopes)}
    (stopDepth : Option Nat) (s : LineState) (hpos : m.start < m.stop)
    (hdepth : ∀ d, stopDepth = some d → d ≤ s.stack.depth) (hp : captures.hasPatterns = true)
    (hl : capturedScopes line m grammar captures.entries memory = .ok labels between)
    (hbetween : between.Agrees ctx)
    (hfinds : ∀ t ∈ CaptureTree.forest m.clipped labels, t.FindsNothing ctx path)
    (hwalk : CaptureTree.WalksThrough m.start m.stop (CaptureTree.forest m.clipped labels) kept) :
    ∃ final, EntersTo ctx line stopDepth s m path grammar captures memory final ∧
      (s.atMatch m).Scopes final m.stop path (scopesOf (scopedRangesOfAll kept)) := by
  have hwhole : m.whole.isEmpty = false := Span.isEmpty_eq_false.2 hpos
  have hempty : ¬ captures.isEmpty = true := by
    rw [Captures.isEmpty, List.isEmpty_iff]
    intro hnil
    rw [Captures.hasPatterns, hnil] at hp
    contradiction
  have hentered : enterCaptures line s m path grammar captures memory =
      .ok (s.inCapture ⟨none, path, CaptureTree.forest m.clipped labels, m.start, m.stop⟩, true)
        between := by
    rw [enterCaptures, hwhole, if_neg (by simp), if_neg hempty]
    refine (bind_eq_of_eq_ok hl).trans ?_
    rw [if_pos hp]
    rfl
  obtain ⟨final, left, -, hscan, hfinal⟩ := exists_scansUntil_of_walksThrough line stopDepth hwalk
    (s := s.atMatch m)
    (c := ⟨none, path, CaptureTree.forest m.clipped labels, m.start, m.stop⟩) rfl rfl rfl hbetween
    (fun _ h ↦ by contradiction) hfinds hdepth
  exact ⟨final, .scanned hentered hscan, hfinal⟩

/-- A walk through captures that do not overlap goes through all of them, and they get the scopes
that the sweep gives them. -/
theorem exists_walksThrough_of_isLaminar (hpos : m.start < m.stop)
    (hl : Returns (capturedScopes line m grammar captures.entries) labels)
    {spans : List (Span × List ScopeName)}
    (hspans : flatten (scopedRangesOfAll (CaptureTree.forest m.clipped labels)) = .ok spans) :
    ∃ kept, CaptureTree.WalksThrough m.start m.stop (CaptureTree.forest m.clipped labels) kept ∧
      (captures.IsLaminar m → spanScopes spans = scopesOf (scopedRangesOfAll kept)) := by
  by_cases hlaminar : captures.IsLaminar m
  · have hlabels := hlaminar.labels hl
    have hpacked := CaptureTree.packed_forest hlabels (Nat.le_of_lt hpos) fun item hitem ↦
      Match.encloses_of_clipped (Nat.le_of_lt hpos) (CaptureTree.of_mem_items hitem).1
    exact ⟨_, hpacked.walksThrough, fun _ ↦ funext fun p ↦
      spanScopes_of_isOutsideIn hspans (isOutsideIn_forest hlabels p)⟩
  · obtain ⟨kept, hkept⟩ := CaptureTree.exists_walksThrough_forest labels (Nat.le_of_lt hpos)
    exact ⟨kept, hkept, fun h ↦ absurd h hlaminar⟩

/-- **The two ways of giving captures their scopes agree**: if nothing is found in captures that
have rules, it is as if they had none. Stack, position and anchors are left the same, whether the
captures are flattened or gone through in frames, and if the captures do not overlap, every byte
gets the same scopes. -/
theorem captures_agree (hmemory : memory.Agrees ctx) (hm : m.Sliceable line.chars)
    (hposition : s.position ≤ m.start) (hdepth : ∀ d, stopDepth = some d → d ≤ s.stack.depth)
    (hfinds : ∀ labels, Returns (capturedScopes line m grammar captures.entries) labels →
      ∀ t ∈ CaptureTree.forest m.clipped labels, t.FindsNothing ctx path) :
    ∃ flat framed,
      EntersTo ctx line stopDepth s m path grammar captures.withoutPatterns memory flat ∧
      EntersTo ctx line stopDepth s m path grammar captures memory framed ∧
      flat.LeftLike framed ∧
      (captures.IsLaminar m → ∀ p, flat.row.scopesAt p = framed.row.scopesAt p) := by
  by_cases hempty : m.whole.isEmpty = true
  · -- nothing is done with a match without text
    have hentered : ∀ captures, enterCaptures line s m path grammar captures memory =
        .ok (s, false) memory := by
      intro captures
      rw [enterCaptures, if_pos hempty]
      rfl
    exact ⟨_, _, .atOnce (hentered _) rfl, .atOnce (hentered _) rfl, .refl _, fun _ _ ↦ rfl⟩
  · have hpos : m.start < m.stop := Span.isEmpty_eq_false.1 (Bool.eq_false_iff.2 hempty)
    -- the labels can be told, and they are the same but for the rules
    have hconfined : Confined (fun _ ↦ False) (Memory.Agrees ctx)
        (capturedScopes line m grammar captures.entries) :=
      confined_capturedScopes (fun _ _ h ↦ h) hm _ _
    have hresult := hconfined memory hmemory
    cases hl : capturedScopes line m grammar captures.entries memory with
    | error failure left =>
      rw [hl] at hresult
      exact hresult.1.elim
    | ok labels between =>
      rw [hl] at hresult
      have hl' : capturedScopes line m grammar captures.withoutPatterns.entries memory =
          .ok (labels.map fun l ↦ (l.1, { l.2 with patterns := none })) between := by
        rw [capturedScopes_withoutPatterns, map_eq_pure_bind]
        exact bind_eq_of_eq_ok hl
      have hranges := scopedRangesOfAll_forest_map m.clipped labels
        (f := fun l ↦ { l with patterns := none }) fun _ ↦ rfl
      obtain ⟨flat, spans, hflat, hspans, hscopes⟩ := exists_entersTo_flattened ctx stopDepth s
        path hpos hposition captures.hasPatterns_withoutPatterns hl'
      rw [hranges] at hspans
      by_cases hp : captures.hasPatterns = true
      · obtain ⟨kept, hwalk, hkept⟩ :=
          exists_walksThrough_of_isLaminar hpos (returns_of_eq hl) hspans
        obtain ⟨framed, hframed, hscopes'⟩ :=
          exists_entersTo_of_hasPatterns stopDepth s hpos hdepth hp hl hresult
            (hfinds labels (returns_of_eq hl)) hwalk
        refine ⟨flat, framed, hflat, hframed, hscopes.leftLike hscopes', fun hlaminar p ↦ ?_⟩
        rw [hscopes.row.scopesAt_eq, hscopes'.row.scopesAt_eq, hkept hlaminar]
      · obtain ⟨framed, spans', hframed, hspans', hscopes'⟩ := exists_entersTo_flattened ctx
          stopDepth s path hpos hposition (Bool.eq_false_iff.2 hp) hl
        obtain rfl := Except.ok.inj (hspans.symm.trans hspans')
        refine ⟨flat, framed, hflat, hframed, hscopes.leftLike hscopes', fun _ p ↦ ?_⟩
        rw [hscopes.row.scopesAt_eq, hscopes'.row.scopesAt_eq]

/-! ### Two groups of a match -/

/-- The registry of the grammar with a group that leads to nothing, and no injections. -/
def groupContext : Context :=
  ⟨Registry.recapture.withPatterns {}, 0, [], false, .machine⟩

/-- Two groups of a match with a scope each; the first one has rules that lead to nothing. -/
def groupCaptures : Captures :=
  ⟨[(1, ⟨some (.ofString "a"), some 2⟩), (2, ⟨some (.ofString "b"), none⟩)]⟩

/-- A match of five bytes with two groups. -/
def groupMatch (first second : Span) : Match :=
  ⟨⟨0, 5⟩, [some first, some second]⟩

/-- The start of a line of five bytes. -/
def groupState : LineState :=
  ⟨⟨0, .ofString "text", []⟩, 0, none, true, .empty 5⟩

/-- The scopes of the line. -/
def groupPath : ScopePath :=
  .ofRoot (.ofString "text")

theorem agrees_groupContext : Memory.Agrees groupContext {} := by
  intro ref kind refs hrefs
  simp at hrefs

theorem sliceable_groupMatch {first second : Span}
    (hfirst : (slice? (LineText.ofLine "abcde").chars first).isSome = true)
    (hsecond : (slice? (LineText.ofLine "abcde").chars second).isSome = true) :
    (groupMatch first second).Sliceable (LineText.ofLine "abcde").chars := by
  have hwhole : (slice? (LineText.ofLine "abcde").chars ⟨0, 5⟩).isSome = true := by decide
  intro s hs
  simp only [Match.captures, groupMatch, List.mem_cons, Option.some.injEq, List.not_mem_nil,
    or_false] at hs
  rcases hs with rfl | rfl | rfl
  · exact Option.isSome_iff_exists.1 hwhole
  · exact Option.isSome_iff_exists.1 hfirst
  · exact Option.isSome_iff_exists.1 hsecond

/-- Nothing is tried in the groups. -/
theorem findsNothing_groupCaptures {m : Match} {labels : List (Nat × CapturedScopes)}
    (hl : Returns (capturedScopes (.ofLine "abcde") m 0 groupCaptures.entries) labels) :
    ∀ t ∈ CaptureTree.forest m.clipped labels, t.FindsNothing groupContext groupPath := by
  have hall : ∀ t ∈ CaptureTree.forest m.clipped labels,
      t.All fun _ l ↦ ∀ owner, l.patterns = some owner → owner = ⟨0, 2⟩ := by
    refine patterns_of_mem_forest hl fun e he id hid ↦ ?_
    simp only [groupCaptures, List.mem_cons, List.not_mem_nil, or_false] at he
    rcases he with rfl | rfl
    · rw [← Option.some.inj hid]
    · contradiction
  have hnothing : ∀ path, Place.FindsNothing groupContext ⟨⟨0, 2⟩, path⟩ := fun path ↦
    ⟨Registry.freshCandidates_recapture.2.1, rfl⟩
  have htree : ∀ t : CaptureTree CapturedScopes,
      t.All (fun _ l ↦ ∀ owner, l.patterns = some owner → owner = ⟨0, 2⟩) →
      ∀ path, t.FindsNothing groupContext path := by
    intro t ht
    induction ht with
    | node own _ ih =>
      exact fun path ↦ .node (fun owner h ↦ own owner h ▸ hnothing _) fun c hc ↦ ih c hc _
  exact fun t ht ↦ htree t (hall t ht) _

theorem isLaminar_nested : groupCaptures.IsLaminar (groupMatch ⟨0, 5⟩ ⟨2, 5⟩) := by
  have hfirst : (groupMatch ⟨0, 5⟩ ⟨2, 5⟩).clipped.group? 1 = some ⟨0, 5⟩ := by decide
  have hsecond : (groupMatch ⟨0, 5⟩ ⟨2, 5⟩).clipped.group? 2 = some ⟨2, 5⟩ := by decide
  have hspan : ∀ e ∈ groupCaptures.entries, ∀ a,
      (groupMatch ⟨0, 5⟩ ⟨2, 5⟩).clipped.group? e.1 = some a → a = ⟨0, 5⟩ ∨ a = ⟨2, 5⟩ := by
    intro e he a ha
    simp only [groupCaptures, List.mem_cons, List.not_mem_nil, or_false] at he
    rcases he with rfl | rfl
    · exact .inl (Option.some.inj (ha.symm.trans hfirst))
    · exact .inr (Option.some.inj (ha.symm.trans hsecond))
  intro e he e' he' a b ha hb _ _
  rcases hspan e he a ha with rfl | rfl <;> rcases hspan e' he' b hb with rfl | rfl <;>
    simp [Span.Nests, Span.encloses_eq_true]

/-- Two groups of which one lies in the other. -/
theorem captures_agree_nested : groupCaptures.IsLaminar (groupMatch ⟨0, 5⟩ ⟨2, 5⟩) ∧
    ∃ flat framed,
      EntersTo groupContext (.ofLine "abcde") none groupState (groupMatch ⟨0, 5⟩ ⟨2, 5⟩) groupPath 0
        groupCaptures.withoutPatterns {} flat ∧
      EntersTo groupContext (.ofLine "abcde") none groupState (groupMatch ⟨0, 5⟩ ⟨2, 5⟩) groupPath 0
        groupCaptures {} framed ∧
      flat.LeftLike framed ∧
      (groupCaptures.IsLaminar (groupMatch ⟨0, 5⟩ ⟨2, 5⟩) →
        ∀ p, flat.row.scopesAt p = framed.row.scopesAt p) :=
  ⟨isLaminar_nested, captures_agree agrees_groupContext
    (sliceable_groupMatch (by decide) (by decide)) (Nat.zero_le _) (by simp)
    fun _ hl ↦ findsNothing_groupCaptures hl⟩

/-! ### Two groups that overlap -/

/-- The trees of two groups of which the second starts in the first and ends after it. -/
def overlappingTrees (patterns : Option RuleRef) : List (CaptureTree CapturedScopes) :=
  [⟨1, ⟨0, 3⟩, ⟨[.ofString "a"], patterns⟩, []⟩, ⟨2, ⟨2, 5⟩, ⟨[.ofString "b"], none⟩, []⟩]

theorem forest_overlapping (patterns : Option RuleRef) :
    CaptureTree.forest (groupMatch ⟨0, 3⟩ ⟨2, 5⟩).clipped
      [(1, (⟨[.ofString "a"], patterns⟩ : CapturedScopes)), (2, ⟨[.ofString "b"], none⟩)] =
        overlappingTrees patterns := by
  have hitems : CaptureTree.items (groupMatch ⟨0, 3⟩ ⟨2, 5⟩).clipped
      [(1, (⟨[.ofString "a"], patterns⟩ : CapturedScopes)), (2, ⟨[.ofString "b"], none⟩)] =
      [(1, ⟨0, 3⟩, ⟨[.ofString "a"], patterns⟩), (2, ⟨2, 5⟩, ⟨[.ofString "b"], none⟩)] := rfl
  rw [CaptureTree.forest, hitems, List.mergeSort_of_pairwise (by simp [CaptureTree.itemLE])]
  simp [CaptureTree.insert, CaptureTree.settle, overlappingTrees]

/-- A walk goes through the first group only. -/
theorem walksThrough_overlapping (patterns : Option RuleRef) :
    CaptureTree.WalksThrough 0 5
      (CaptureTree.forest (groupMatch ⟨0, 3⟩ ⟨2, 5⟩).clipped
        [(1, (⟨[.ofString "a"], patterns⟩ : CapturedScopes)), (2, ⟨[.ofString "b"], none⟩)])
      [⟨1, ⟨0, 3⟩, ⟨[.ofString "a"], patterns⟩, []⟩] := by
  rw [forest_overlapping]
  exact .enters (Nat.zero_le _) (.nil (by simp)) (.passes (by simp) (.nil (by simp)))

/-- A template without placeholders gives the names that it is made of. -/
theorem resolve_of_literal {t : ScopeTemplate} {cs : List Char} (h : t.parts = [.literal cs])
    (m : Match) : resolve line m (some t) = pure (ScopeName.listOfChars cs) := by
  have hmodifiers : t.unknownModifiers m = [] := by
    rw [ScopeTemplate.unknownModifiers, h]
    rfl
  have hresolve : t.resolve line.chars m = .ok (ScopeName.listOfChars cs) := by
    rw [ScopeTemplate.resolve, h]
    show Except.ok (ScopeName.listOfChars [cs].flatten) = _
    rw [List.flatten_singleton]
  have hcaptures : t.hasCaptures = false := by
    rw [ScopeTemplate.hasCaptures, h]
    rfl
  have hnote : ∀ names, noteNames t names = pure () := by
    intro names
    rw [noteNames, hcaptures, if_neg Bool.false_ne_true]
  rw [resolve, hmodifiers, hresolve]
  simp only [hnote]
  rfl

theorem parts_ofString_letters : (ScopeTemplate.ofString "a").parts = [.literal ['a']] ∧
    (ScopeTemplate.ofString "b").parts = [.literal ['b']] := by
  constructor
  · show templateParts ['a'] = _
    rw [templateParts, if_neg (by decide), templateParts]
  · show templateParts ['b'] = _
    rw [templateParts, if_neg (by decide), templateParts]

/-- The groups have their scopes, whatever rules the first one has. -/
theorem capturedScopes_overlapping (patterns : Option RuleId) :
    capturedScopes line (groupMatch ⟨0, 3⟩ ⟨2, 5⟩) 0
        [(1, ⟨some (.ofString "a"), patterns⟩), (2, ⟨some (.ofString "b"), none⟩)] =
      pure [(1, ⟨[.ofString "a"], patterns.map (⟨0, ·⟩)⟩), (2, ⟨[.ofString "b"], none⟩)] := by
  have ha : ∀ m, resolve line m (some (.ofString "a")) = pure [.ofString "a"] :=
    resolve_of_literal parts_ofString_letters.1
  have hb : ∀ m, resolve line m (some (.ofString "b")) = pure [.ofString "b"] :=
    resolve_of_literal parts_ofString_letters.2
  have h1 : (groupMatch ⟨0, 3⟩ ⟨2, 5⟩).clipped.group? 1 = some ⟨0, 3⟩ := by decide
  have h2 : (groupMatch ⟨0, 3⟩ ⟨2, 5⟩).clipped.group? 2 = some ⟨2, 5⟩ := by decide
  rw [capturedScopes, h1]
  dsimp only
  rw [if_neg (by decide), ha, pure_bind, capturedScopes, h2]
  dsimp only
  rw [if_neg (by decide), hb, pure_bind]
  rfl

/-- **Captures that overlap get their scopes at once, but not in frames**: the last byte of a match
has the scope of a group that starts in another one and ends after it only if no group has rules. -/
theorem captures_differ_overlapping :
    Memory.Agrees groupContext {} ∧
    (groupMatch ⟨0, 3⟩ ⟨2, 5⟩).Sliceable (LineText.ofLine "abcde").chars ∧
    (∀ labels,
      Returns (capturedScopes (.ofLine "abcde") (groupMatch ⟨0, 3⟩ ⟨2, 5⟩) 0 groupCaptures.entries)
        labels →
      ∀ t ∈ CaptureTree.forest (groupMatch ⟨0, 3⟩ ⟨2, 5⟩).clipped labels,
        t.FindsNothing groupContext groupPath) ∧
    ¬ ∃ flat framed,
      EntersTo groupContext (.ofLine "abcde") none groupState (groupMatch ⟨0, 3⟩ ⟨2, 5⟩) groupPath 0
        groupCaptures.withoutPatterns {} flat ∧
      EntersTo groupContext (.ofLine "abcde") none groupState (groupMatch ⟨0, 3⟩ ⟨2, 5⟩) groupPath 0
        groupCaptures {} framed ∧
      ∀ p, flat.row.scopesAt p = framed.row.scopesAt p := by
  refine ⟨agrees_groupContext, sliceable_groupMatch (by decide) (by decide),
    fun _ hl ↦ findsNothing_groupCaptures hl, ?_⟩
  rintro ⟨flat, framed, hflat, hframed, hscopes⟩
  have hlabels :
      capturedScopes (.ofLine "abcde") (groupMatch ⟨0, 3⟩ ⟨2, 5⟩) 0 groupCaptures.entries {} =
      .ok [(1, ⟨[.ofString "a"], some ⟨0, 2⟩⟩), (2, ⟨[.ofString "b"], none⟩)] {} :=
    congrFun (capturedScopes_overlapping (some 2)) {}
  -- at once, the second group has its scope up to its end
  obtain ⟨_, spans, hflat', hspans, hrow⟩ := exists_entersTo_flattened groupContext none groupState
    groupPath (m := groupMatch ⟨0, 3⟩ ⟨2, 5⟩) (by decide) (Nat.zero_le _)
    groupCaptures.hasPatterns_withoutPatterns (congrFun (capturedScopes_overlapping none) {})
  replace hspans : flatten (scopedRangesOfAll (overlappingTrees none)) = .ok spans := by
    rw [← hspans, forest_overlapping]
    rfl
  obtain rfl := hflat.unique hflat'
  -- in frames, it is passed over
  obtain ⟨_, hframed', hrow'⟩ := exists_entersTo_of_hasPatterns none groupState
    (m := groupMatch ⟨0, 3⟩ ⟨2, 5⟩) (by decide) (by simp) rfl hlabels agrees_groupContext
    (findsNothing_groupCaptures (returns_of_eq hlabels)) (walksThrough_overlapping (some ⟨0, 2⟩))
  obtain rfl := hframed.unique hframed'
  have hat := hscopes 4
  have hin : (groupState.atMatch (groupMatch ⟨0, 3⟩ ⟨2, 5⟩)).row.reached ≤ 4 ∧
      4 < min (groupMatch ⟨0, 3⟩ ⟨2, 5⟩).stop
        (groupState.atMatch (groupMatch ⟨0, 3⟩ ⟨2, 5⟩)).row.stop := by
    decide
  rw [hrow.row.scopesAt_eq, hrow'.row.scopesAt_eq, if_pos hin, if_pos hin,
    spanScopes_of_flatten hspans] at hat
  have hopening : (⟨⟨2, 5⟩, .ofString "b"⟩ : ScopedRange).opening 1 ∈
      (sweepEdges (scopedRangesOfAll (overlappingTrees none))).filter (·.opensAround 4) :=
    List.mem_filter.2 ⟨mem_sweepEdges_iff.2 ⟨⟨⟨2, 5⟩, .ofString "b"⟩, 1, rfl, by decide, .inl rfl⟩,
      by decide⟩
  have hlength := congrArg List.length (congrArg ScopePath.toList (Option.some.inj hat))
  rw [ScopePath.toList_append, ScopePath.toList_append, List.length_append, List.length_append,
    List.length_map] at hlength
  have hpos := List.length_pos_of_mem hopening
  have hnone : (scopesOf (scopedRangesOfAll
      [⟨1, ⟨0, 3⟩, ⟨[.ofString "a"], some ⟨0, 2⟩⟩, []⟩]) 4).length = 0 := by decide
  omega

end ScopeGrammar
