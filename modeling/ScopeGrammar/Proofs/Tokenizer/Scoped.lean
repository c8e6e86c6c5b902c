import ScopeGrammar.Proofs.Capture.Laminar
import ScopeGrammar.Proofs.Tokenizer.Rows

/-!
# The scopes of bytes

A row gives to each byte the scopes of the token that holds it (`TokenRow.scopesAt`). When a row is
extended over text with captures, every byte that it had not reached gets the scopes of the text and
those of the captures around it (`TokenRow.ScopedBy`): so it is when the captures are flattened
(`scopedBy_flatten`), and so it is when packed captures are gone through one by one
(`ScopedBy.capture`).
-/

namespace ScopeGrammar

namespace ScopedRange

variable {ranges : List ScopedRange} {p : Nat}

/-- The scopes of the ranges that hold the byte at a position. -/
def scopesOf (ranges : List ScopedRange) (p : Nat) : List ScopeName :=
  (ranges.filter (·.span.holds p)).map (·.scope)

theorem scopesOf_append (ranges ranges' : List ScopedRange) :
    scopesOf (ranges ++ ranges') p = scopesOf ranges p ++ scopesOf ranges' p := by
  rw [scopesOf, List.filter_append, List.map_append, scopesOf, scopesOf]

theorem scopesOf_eq_nil (h : ∀ r ∈ ranges, p < r.span.start ∨ r.span.stop ≤ p) :
    scopesOf ranges p = [] := by
  rw [scopesOf, List.filter_eq_nil_iff.2, List.map_nil]
  intro r hr hholds
  have hout := h r hr
  rw [Span.holds_eq_true] at hholds
  omega

theorem scopesOf_map_of_holds {span : Span} {scopes : List ScopeName} (h : span.holds p = true) :
    scopesOf (scopes.map (⟨span, ·⟩)) p = scopes := by
  rw [scopesOf, List.filter_eq_self.2, List.map_map]
  · exact List.map_id scopes
  · intro r hr
    obtain ⟨scope, -, rfl⟩ := List.mem_map.1 hr
    exact h

end ScopedRange

open ScopedRange

/-! ### Rows -/

namespace TokenRow

variable {row row' row₁ row₂ : TokenRow} {path path' : ScopePath} {lo hi p position : Nat}
  {cover cover₁ cover₂ : Nat → List ScopeName}

/-- The scopes that a row gives to the byte at a position. -/
def scopesAt (row : TokenRow) (p : Nat) : Option ScopePath :=
  (row.reversed.find? (·.span.holds p)).map (·.scopes)

/-- The bytes between where a row stopped and where it stops now get the scopes. -/
theorem scopesAt_extend : (row.extend position path).scopesAt p =
    if row.reached ≤ p ∧ p < min position row.stop then some path else row.scopesAt p := by
  rw [extend]
  split
  · rw [scopesAt, List.find?_cons]
    split
    · rename_i hholds
      rw [if_pos (Span.holds_eq_true.1 hholds)]
      rfl
    · rename_i hholds
      rw [if_neg fun h ↦ by rw [Span.holds_eq_true.2 h] at hholds; contradiction]
      rfl
  · rename_i hle
    rw [if_neg (by omega)]

/-- The row is another one that was extended over text with captures: the bytes of the text have its
scopes and those of the captures around them. -/
structure ScopedBy (row row' : TokenRow) (hi : Nat) (path : ScopePath)
    (cover : Nat → List ScopeName) : Prop where
  stop_eq : row'.stop = row.stop
  reached_eq : row'.reached = max row.reached (min hi row.stop)
  scopesAt_eq : ∀ p, row'.scopesAt p =
    if row.reached ≤ p ∧ p < min hi row.stop then some (path.append (cover p)) else row.scopesAt p

/-- Text without captures has the scopes of the text. -/
theorem scopedBy_extend : row.ScopedBy (row.extend hi path) hi path fun _ ↦ [] where
  stop_eq := stop_extend
  reached_eq := reached_extend
  scopesAt_eq p := by rw [scopesAt_extend, ScopePath.append_nil]

/-- **Text up to a capture, the capture, and text after it** make text with captures. -/
theorem ScopedBy.cons (hinner : (row.extend lo path).ScopedBy row₁ position path' cover₁)
    (hrest : row₁.ScopedBy row₂ hi path cover₂) (hlo : lo ≤ position) (hhi : position ≤ hi)
    (hbefore : ∀ p, p < lo → cover p = [])
    (hinside : ∀ p, lo ≤ p → p < position → path.append (cover p) = path'.append (cover₁ p))
    (hafter : ∀ p, position ≤ p → cover p = cover₂ p) : row.ScopedBy row₂ hi path cover := by
  have hstop₁ := hinner.stop_eq
  have hreached₁ := hinner.reached_eq
  rw [stop_extend] at hstop₁ hreached₁
  rw [reached_extend] at hreached₁
  refine ⟨hrest.stop_eq.trans hstop₁, ?_, fun p ↦ ?_⟩
  · rw [hrest.reached_eq, hreached₁, hstop₁]
    omega
  · rw [hrest.scopesAt_eq, hinner.scopesAt_eq, scopesAt_extend, reached_extend, hreached₁, hstop₁,
      stop_extend]
    by_cases hnew : row.reached ≤ p ∧ p < min hi row.stop
    · rw [if_pos hnew]
      rcases Nat.lt_or_ge p lo with hlt | hge
      · rw [if_neg (by omega), if_neg (by omega), if_pos (by omega), hbefore p hlt,
          ScopePath.append_nil]
      · rcases Nat.lt_or_ge p position with hlt | hge'
        · rw [if_neg (by omega), if_pos (by omega), hinside p hge hlt]
        · rw [if_pos (by omega), hafter p hge']
    · rw [if_neg hnew, if_neg (by omega), if_neg (by omega), if_neg (by omega)]

/-- Spans give their scopes to the bytes that they hold. -/
theorem scopedBy_extendSpans {spans : List (Span × List ScopeName)}
    (hpos : ∀ s ∈ spans, s.1.start < s.1.stop) (hhi : ∀ s ∈ spans, s.1.stop ≤ hi) :
    row.ScopedBy ((row.extendSpans path spans).extend hi path) hi path (spanScopes spans) := by
  induction spans generalizing row with
  | nil => exact scopedBy_extend
  | cons s spans ih =>
    have hlt := hpos s List.mem_cons_self
    refine scopedBy_extend.cons
      (ih (fun s' hs' ↦ hpos s' (List.mem_cons_of_mem _ hs'))
        fun s' hs' ↦ hhi s' (List.mem_cons_of_mem _ hs'))
      (Nat.le_of_lt hlt) (hhi s List.mem_cons_self) (fun p hp ↦ ?_) (fun p hle hp ↦ ?_)
      fun p hp ↦ spanScopes_cons_of_le hp
    · rw [spanScopes, List.find?_cons_of_pos (by simp; omega)]
      exact if_neg (Nat.not_le_of_lt hp)
    · rw [spanScopes_cons_of_holds (Span.holds_eq_true.2 ⟨hle, hp⟩), ScopePath.append_nil]

/-- **Flattened ranges give to each byte the scopes that the sweep gives it.** -/
theorem scopedBy_flatten {ranges : List ScopedRange} {spans : List (Span × List ScopeName)}
    (h : flatten ranges = .ok spans) (hhi : ∀ s ∈ spans, s.1.stop ≤ hi) :
    row.ScopedBy ((row.extendSpans path spans).extend hi path) hi path (spanScopes spans) := by
  refine scopedBy_extendSpans ?_ hhi
  rw [eq_stretches_of_flatten h]
  exact Sweep.lt_of_mem_stretches

end TokenRow

/-! ### Packed captures -/

namespace CaptureTree

variable {lo hi : Nat} {ts : List (CaptureTree CapturedScopes)}

theorem Packed.bounds (h : Packed lo hi ts) :
    ∀ r ∈ scopedRangesOfAll ts, lo ≤ r.span.start ∧ r.span.stop ≤ hi := by
  induction h with
  | nil => simp [scopedRangesOfAll]
  | cons hstart children rest hchildren hrest =>
    have hle := children.le
    have hle' := rest.le
    intro r hr
    rw [scopedRangesOfAll, scopedRanges_eq, List.mem_append, List.mem_append] at hr
    rcases hr with (hr | hr) | hr
    · obtain ⟨scope, -, rfl⟩ := List.mem_map.1 hr
      exact ⟨hstart, hle'⟩
    · have hbounds := hchildren r hr
      omega
    · have hbounds := hrest r hr
      omega

end CaptureTree

/-- **A packed capture gives its scopes to the bytes that it holds**, and the captures in it
theirs. -/
theorem TokenRow.ScopedBy.capture {row row₁ row₂ : TokenRow} {path : ScopePath} {lo hi : Nat}
    {t : CaptureTree CapturedScopes} {ts : List (CaptureTree CapturedScopes)}
    (hpacked : CaptureTree.Packed lo hi (t :: ts))
    (hinner : (row.extend t.span.start path).ScopedBy row₁ t.span.stop (path.append t.label.scopes)
      (scopesOf (scopedRangesOfAll t.children)))
    (hrest : row₁.ScopedBy row₂ hi path (scopesOf (scopedRangesOfAll ts))) :
    row.ScopedBy row₂ hi path (scopesOf (scopedRangesOfAll (t :: ts))) := by
  cases hpacked with
  | cons hstart children rest =>
    have hown : ∀ r ∈ t.label.scopes.map (fun scope ↦ (⟨t.span, scope⟩ : ScopedRange)),
        r.span = t.span := by
      intro r hr
      obtain ⟨scope, -, rfl⟩ := List.mem_map.1 hr
      rfl
    have hcover : ∀ p, scopesOf (scopedRangesOfAll (t :: ts)) p =
        scopesOf (t.label.scopes.map (⟨t.span, ·⟩)) p ++
          scopesOf (scopedRangesOfAll t.children) p ++ scopesOf (scopedRangesOfAll ts) p := by
      intro p
      rw [scopedRangesOfAll, scopedRanges_eq, scopesOf_append, scopesOf_append]
    have hrestNil : ∀ p, p < t.span.stop → scopesOf (scopedRangesOfAll ts) p = [] := fun p hp ↦
      scopesOf_eq_nil fun r hr ↦ .inl (Nat.lt_of_lt_of_le hp (rest.bounds r hr).1)
    refine hinner.cons hrest children.le rest.le (fun p hp ↦ ?_) (fun p hle hp ↦ ?_) fun p hp ↦ ?_
    · have hle := children.le
      rw [hcover, hrestNil p (Nat.lt_of_lt_of_le hp hle),
        scopesOf_eq_nil fun r hr ↦ .inl (by rw [hown r hr]; exact hp),
        scopesOf_eq_nil fun r hr ↦ .inl (Nat.lt_of_lt_of_le hp (children.bounds r hr).1)]
      rfl
    · rw [hcover, hrestNil p hp, scopesOf_map_of_holds (Span.holds_eq_true.2 ⟨hle, hp⟩),
        List.append_nil, ScopePath.append_append]
    · rw [hcover, scopesOf_eq_nil fun r hr ↦ .inr (by rw [hown r hr]; exact hp),
        scopesOf_eq_nil fun r hr ↦ .inr (Nat.le_trans (children.bounds r hr).2 hp)]
      rfl

/-! ### Entering captures -/

open Tokenizing

variable {line : LineText} {m : Match} {grammar : GrammarId} {captures : Captures}
  {labels : List (Nat × CapturedScopes)} {memory between : Memory}

/-- **Captures that have nothing but scopes are entered at once**: nothing but the row changes, and
the text of the match gets the scopes that the sweep gives it. -/
theorem exists_enterCaptures_flattened (s : LineState) (path : ScopePath) (hpos : m.start < m.stop)
    (hp : captures.hasPatterns = false)
    (hl : capturedScopes line m grammar captures.entries memory = .ok labels between) :
    ∃ row spans memory',
      enterCaptures line s m path grammar captures memory =
        .ok ({ s with row := row }, false) memory' ∧
      flatten (scopedRangesOfAll (CaptureTree.forest m.clipped labels)) = .ok spans ∧
      s.row.ScopedBy row m.stop path (spanScopes spans) := by
  have hwhole : m.whole.isEmpty = false := Span.isEmpty_eq_false.2 hpos
  by_cases hempty : captures.isEmpty = true
  · have hentries : captures.entries = [] := List.isEmpty_iff.1 hempty
    rw [hentries] at hl
    obtain ⟨rfl, -⟩ := EStateM.Result.ok.inj hl
    have hforest : CaptureTree.forest m.clipped ([] : List (Nat × CapturedScopes)) = [] := by
      simp [CaptureTree.forest, CaptureTree.items, CaptureTree.settle]
    have hentered : enterCaptures line s m path grammar captures memory =
        .ok (s.extend m.stop path, false) memory := by
      rw [enterCaptures, hwhole, hempty]
      rfl
    refine ⟨_, [], _, hentered, ?_, TokenRow.scopedBy_extend⟩
    rw [hforest]
    simp [scopedRangesOfAll, flatten]
  · obtain ⟨spans, hspans, -⟩ :=
      faultless_flatten (scopedRangesOfAll (CaptureTree.forest m.clipped labels))
    have hbounds := spans_le_of_flatten (Nat.le_of_lt hpos) hspans
    have hentered : enterCaptures line s m path grammar captures memory =
        .ok ({ s with row := (s.row.extendSpans path spans).extend m.stop path }, false)
          between := by
      rw [enterCaptures, hwhole, if_neg (by simp), if_neg hempty, hp]
      refine (bind_eq_of_eq_ok hl).trans ?_
      rw [if_neg (by simp), hspans]
      rfl
    exact ⟨_, spans, _, hentered, hspans,
      TokenRow.scopedBy_flatten hspans fun s hs ↦ (hbounds s hs).2⟩

end ScopeGrammar
