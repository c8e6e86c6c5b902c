import Mathlib.Data.List.TakeWhile
import ScopeGrammar.Proofs.Registry.Closed
import ScopeGrammar.Proofs.Tokenizer.Anchors
import ScopeGrammar.Proofs.Tokenizer.Potential

/-!
# How regions begin

A rule that matches no text can begin a region, and so it could begin one after the other without
end. What stops it is that no region begins with a match that does not move on where a region of its
rule was entered already. Entered means searched from: a begin match that is found ahead takes the
line to where it was found, and the region counts as entered where the search started. So a rule can
begin twice in one place without any text, once found from before and once from there, but no third
time (`regions_begun_apart`).

Frames that were entered in a line lie on those that were not, and were entered one after the other
(`Begun`). So the innermost frames are the ones that were entered where the line is
(`Stack.hasEnteredAt_iff_of_enteredSince`).
-/

namespace ScopeGrammar

open Tokenizing

variable {ctx : Context} {line : LineText}

/-! ### Regions that began in a line -/

/-- The matches that the open regions began with that began in the line, innermost first. What has
happened is given with the last thing first. -/
def beginMatches (r : Registry) : List Happening → List Match
  | [] => []
  | .applied m (.rule ref) :: happened =>
    if r.isRegion ref then m :: beginMatches r happened else beginMatches r happened
  | .applied _ .exit :: happened | .closed (.region _) :: happened => (beginMatches r happened).tail
  -- what was opened for the captures of the match is gone when they are done
  | .continued _ :: _ => []
  | .passed :: happened | .discontinued :: happened | .entered :: happened | .opened :: happened
  | .closed (.captured _) :: happened => beginMatches r happened

/-- The regions among some frames that began in the line. -/
def regionsBegun (frames : List Frame) : List Region :=
  frames.filterMap fun
    | .region r => if r.enteredAt.isSome then some r else none
    | .captured _ => none

/-- The open regions of a state that began in the line, innermost first, each with its begin
match. -/
def LineState.begun (s : LineState) (r : Registry) (happened : List Happening) :
    List (Region × Match) :=
  (regionsBegun s.stack.frames).zip (beginMatches r happened)

/-- No rule began two of the regions in one place without any text. -/
def BegunApart (begun : List (Region × Match)) : Prop :=
  begun.Pairwise fun a b ↦ a.1.rule = b.1.rule → ∀ x, a.2.whole = ⟨x, x⟩ → b.2.whole ≠ ⟨x, x⟩

/-- If a rule began an inner and an outer region in one place without any text, then the inner one
was searched from there, and the outer one from before. -/
def OuterAhead (inner outer : Region × Match) : Prop :=
  inner.1.rule = outer.1.rule → ∀ x, inner.2.whole = ⟨x, x⟩ → outer.2.whole = ⟨x, x⟩ →
    inner.1.enteredAt = some x ∧ ∃ y < x, outer.1.enteredAt = some y

section OuterAhead

variable {begun : List (Region × Match)}

/-- So there are no more than two such regions, since the one in between would be both. -/
theorem length_le_two_of_outerAhead (h : begun.Pairwise OuterAhead) (ref : RuleRef) (x : Nat) :
    (begun.filter fun b ↦ b.1.rule = ref ∧ b.2.whole = ⟨x, x⟩).length ≤ 2 := by
  have hpairwise : (begun.filter fun b ↦ b.1.rule = ref ∧ b.2.whole = ⟨x, x⟩).Pairwise OuterAhead :=
    h.filter _
  have hall : ∀ b ∈ begun.filter fun b ↦ b.1.rule = ref ∧ b.2.whole = ⟨x, x⟩,
      b.1.rule = ref ∧ b.2.whole = ⟨x, x⟩ :=
    fun b hb ↦ of_decide_eq_true (List.mem_filter.1 hb).2
  generalize begun.filter (fun b ↦ b.1.rule = ref ∧ b.2.whole = ⟨x, x⟩) = twice at *
  match twice with
  | [] | [_] | [_, _] => simp
  | a :: b :: c :: rest =>
    obtain ⟨hfirst, hrest⟩ := List.pairwise_cons.1 hpairwise
    obtain ⟨hrule, hm⟩ := hall a (by simp)
    obtain ⟨hrule', hm'⟩ := hall b (by simp)
    obtain ⟨hrule'', hm''⟩ := hall c (by simp)
    obtain ⟨-, y, hlt, hy⟩ := hfirst b (by simp) (hrule.trans hrule'.symm) x hm hm'
    obtain ⟨hx, -⟩ :=
      (List.pairwise_cons.1 hrest).1 c (by simp) (hrule'.trans hrule''.symm) x hm' hm''
    exact absurd (Option.some.inj (hy.symm.trans hx)) (Nat.ne_of_lt hlt)

/-- There are no two of them if none was found ahead. -/
theorem begunApart_of_outerAhead (h : begun.Pairwise OuterAhead)
    (hfound : ∀ b ∈ begun, b.2.start = b.2.stop → b.1.enteredAt = some b.2.start) :
    BegunApart begun := by
  refine h.imp_of_mem fun {a b} _ hb hahead hrule x hm hm' ↦ ?_
  obtain ⟨-, y, hlt, hentered⟩ := hahead hrule x hm hm'
  have hhere := hfound b hb (by rw [Match.start, Match.stop, hm'])
  rw [Match.start, hm', hentered] at hhere
  exact absurd (Option.some.inj hhere) (Nat.ne_of_lt hlt)

end OuterAhead

/-! ### Frames that were entered in a line -/

/-- If a frame was entered in the line, so was one that lies on it, and not before it. -/
def Frame.EnteredSince (inner outer : Frame) : Prop :=
  ∀ q, outer.enteredAt? = some q → ∃ p ≥ q, inner.enteredAt? = some p

section EnteredSince

variable {p : Nat} {frames : List Frame} {f : Frame}

/-- What was entered last lies on all that was entered before. -/
theorem mem_takeWhile_of_enteredSince (h : frames.Pairwise Frame.EnteredSince)
    (hle : ∀ f ∈ frames, ∀ q, f.enteredAt? = some q → q ≤ p) (hf : f ∈ frames)
    (hp : f.enteredAt? = some p) : f ∈ frames.takeWhile (·.enteredAt? == some p) := by
  induction frames with
  | nil => cases hf
  | cons inner below ih =>
    obtain ⟨hinner, hbelow⟩ := List.pairwise_cons.1 h
    rcases List.mem_cons.1 hf with rfl | hf
    · rw [List.takeWhile_cons_of_pos (by simpa using hp)]
      exact List.mem_cons_self
    · obtain ⟨q, hq, hentered⟩ := hinner f hf p hp
      obtain rfl : q = p := Nat.le_antisymm (hle inner List.mem_cons_self q hentered) hq
      rw [List.takeWhile_cons_of_pos (by simpa using hentered)]
      exact List.mem_cons_of_mem _ (ih hbelow (fun f hf ↦ hle f (List.mem_cons_of_mem _ hf)) hf)

/-- **A rule was entered at the position if any frame of the rule was.** -/
theorem Stack.hasEnteredAt_iff_of_enteredSince {s : Stack}
    (h : s.frames.Pairwise Frame.EnteredSince)
    (hle : ∀ f ∈ s.frames, ∀ q, f.enteredAt? = some q → q ≤ p) (ref : RuleRef) :
    s.hasEnteredAt ref p = true ↔
      ∃ f ∈ s.frames, f.owner? = some ref ∧ f.enteredAt? = some p := by
  rw [Stack.hasEnteredAt, List.any_eq_true]
  constructor
  · rintro ⟨f, hf, howner⟩
    have hp := List.mem_takeWhile_imp hf
    exact ⟨f, (List.takeWhile_sublist _).mem hf, beq_iff_eq.1 howner, beq_iff_eq.1 hp⟩
  · rintro ⟨f, hf, howner, hp⟩
    exact ⟨f, mem_takeWhile_of_enteredSince h hle hf hp, beq_iff_eq.2 howner⟩

end EnteredSince

/-- Some frames and what the regions of them began with that began in the line. They were entered
one after the other, the last one at a position or before it, and no later than where it was found.
A match that does not move on began no region whose rule was entered there. -/
inductive Begun : Nat → List Frame → List Match → Prop
  /-- Nothing was entered in the line. -/
  | before {p : Nat} {frames : List Frame} (h : ∀ f ∈ frames, f.IsFromBefore) : Begun p frames []
  | captured {p : Nat} {c : CapturedText} {below : List Frame} {ms : List Match} (hp : c.start ≤ p)
      (h : Begun c.start below ms) : Begun p (.captured c :: below) ms
  | began {p q : Nat} {r : Region} {m : Match} {below : List Frame} {ms : List Match}
      (hr : r.enteredAt = some q) (hq : q ≤ m.start) (hp : m.start ≤ p)
      (hnew : m.stop ≤ q → ∀ f ∈ below, f.owner? = some r.rule → f.enteredAt? ≠ some q)
      (h : Begun q below ms) : Begun p (.region r :: below) (m :: ms)

namespace Begun

variable {p q : Nat} {frames below : List Frame} {ms : List Match} {f : Frame}

/-- Frames that were begun by a position were begun by every later one. -/
theorem mono (h : Begun p frames ms) (hle : p ≤ q) : Begun q frames ms := by
  cases h with
  | before h => exact .before h
  | captured hp h => exact .captured (Nat.le_trans hp hle) h
  | began hr hq hp hnew h => exact .began hr hq (Nat.le_trans hp hle) hnew h

/-- A frame from before the line was not entered in it. -/
theorem enteredAt_eq_none (h : f.IsFromBefore) : f.enteredAt? = none := by
  cases f with
  | region r => exact h.2.2
  | captured c => exact h.elim

/-- No frame was entered after the position. -/
theorem enteredAt_le (h : Begun p frames ms) (hf : f ∈ frames) (hq : f.enteredAt? = some q) :
    q ≤ p := by
  induction h with
  | before h => cases (enteredAt_eq_none (h f hf)).symm.trans hq
  | captured hp _ ih =>
    rcases List.mem_cons.1 hf with rfl | hf
    · exact Option.some.inj hq ▸ hp
    · exact Nat.le_trans (ih hf) hp
  | began hr hle hp _ _ ih =>
    rcases List.mem_cons.1 hf with rfl | hf
    · obtain rfl := Option.some.inj (hr.symm.trans hq)
      exact Nat.le_trans hle hp
    · exact Nat.le_trans (ih hf) (Nat.le_trans hle hp)

/-- Frames were entered one after the other. -/
theorem pairwise_enteredSince (h : Begun p frames ms) : frames.Pairwise Frame.EnteredSince := by
  induction h with
  | before h =>
    refine List.pairwise_of_forall_mem_list fun inner _ outer houter q hq ↦ ?_
    cases (enteredAt_eq_none (h outer houter)).symm.trans hq
  | captured _ h ih =>
    exact List.pairwise_cons.2 ⟨fun f hf q hq ↦ ⟨_, h.enteredAt_le hf hq, rfl⟩, ih⟩
  | began hr _ _ _ h ih =>
    exact List.pairwise_cons.2 ⟨fun f hf q hq ↦ ⟨_, h.enteredAt_le hf hq, hr⟩, ih⟩

/-- A rule was entered at the position just if any frame of the rule was, since no frame below one
entered elsewhere was entered there. -/
theorem hasEnteredAt_iff {s : Stack} {ref : RuleRef} (h : Begun p s.frames ms) :
    s.hasEnteredAt ref p = true ↔
      ∃ f ∈ s.frames, f.owner? = some ref ∧ f.enteredAt? = some p :=
  Stack.hasEnteredAt_iff_of_enteredSince h.pairwise_enteredSince
    (fun _ hf _ hq ↦ h.enteredAt_le hf hq) ref

/-- Where all frames are from before, nothing began in the line. -/
theorem eq_nil_of_before (h : Begun p frames ms) (hbefore : ∀ f ∈ frames, f.IsFromBefore) :
    ms = [] := by
  induction h with
  | before => rfl
  | captured => exact (hbefore _ List.mem_cons_self).elim
  | began hr =>
    have hnone := (hbefore _ List.mem_cons_self).2.2
    cases hr.symm.trans hnone

/-- What lies below a region is what there was before it began. -/
theorem of_region {r : Region} (h : Begun p (.region r :: below) ms) : Begun p below ms.tail := by
  cases h with
  | before h => exact .before fun f hf ↦ h f (List.mem_cons_of_mem _ hf)
  | began _ hq hp _ h => exact h.mono (Nat.le_trans hq hp)

/-- A capture that is open was entered at its start, after all frames below it. -/
theorem of_captured {c : CapturedText} (h : Begun p (.captured c :: below) ms) :
    c.start ≤ p ∧ Begun c.start below ms := by
  cases h with
  | before h => exact (h _ List.mem_cons_self).elim
  | captured hp h => exact ⟨hp, h⟩

/-- So it is with the frames that are left of some. -/
theorem exists_of_suffix {left : List Frame} (h : Begun p frames ms) (hleft : left <:+ frames) :
    ∃ ms', Begun p left ms' := by
  induction h with
  | before h => exact ⟨[], .before fun f hf ↦ h f (hleft.mem hf)⟩
  | captured hp h ih =>
    rcases List.suffix_cons_iff.1 hleft with rfl | hleft
    · exact ⟨_, .captured hp h⟩
    · obtain ⟨ms', h'⟩ := ih hleft
      exact ⟨ms', h'.mono hp⟩
  | began hr hq hp hnew h ih =>
    rcases List.suffix_cons_iff.1 hleft with rfl | hleft
    · exact ⟨_, .began hr hq hp hnew h⟩
    · obtain ⟨ms', h'⟩ := ih hleft
      exact ⟨ms', h'.mono (Nat.le_trans hq hp)⟩

/-! ### Regions and their begin matches -/

/-- A region that was begun in the line counts among them. -/
theorem regionsBegun_cons {r : Region} (hr : r.enteredAt = some q) :
    regionsBegun (.region r :: below) = r :: regionsBegun below :=
  List.filterMap_cons_some (by simp [hr])

/-- No region was begun if all frames are from before the line. -/
theorem regionsBegun_eq_nil (h : ∀ f ∈ frames, f.IsFromBefore) : regionsBegun frames = [] := by
  refine List.filterMap_eq_nil_iff.2 fun f hf ↦ ?_
  cases f with
  | region r => simp [(h _ hf).2.2]
  | captured c => rfl

/-- There is one begin match for every region that began in the line. -/
theorem length_regionsBegun (h : Begun p frames ms) : (regionsBegun frames).length = ms.length := by
  induction h with
  | before h =>
    rw [regionsBegun_eq_nil h]
    rfl
  | captured _ _ ih => exact ih
  | began hr _ _ _ _ ih => rw [regionsBegun_cons hr, List.length_cons, List.length_cons, ih]

/-- A region was entered no later than where it was found, and that is no later than the
position. -/
theorem of_mem_zip (h : Begun p frames ms) {b : Region × Match}
    (hb : b ∈ (regionsBegun frames).zip ms) :
    .region b.1 ∈ frames ∧ (∃ q ≤ b.2.start, b.1.enteredAt = some q) ∧ b.2.start ≤ p := by
  induction h with
  | before h => simp at hb
  | captured hp _ ih =>
    obtain ⟨hmem, hentered, hle⟩ := ih hb
    exact ⟨List.mem_cons_of_mem _ hmem, hentered, Nat.le_trans hle hp⟩
  | began hr hq hp _ _ ih =>
    rw [regionsBegun_cons hr, List.zip_cons_cons] at hb
    rcases List.mem_cons.1 hb with rfl | hb
    · exact ⟨List.mem_cons_self, ⟨_, hq, hr⟩, hp⟩
    · obtain ⟨hmem, hentered, hle⟩ := ih hb
      exact ⟨List.mem_cons_of_mem _ hmem, hentered, Nat.le_trans hle (Nat.le_trans hq hp)⟩

/-- **If a rule began two regions in one place without any text**, the outer one was found ahead. -/
theorem pairwise_zip (h : Begun p frames ms) :
    ((regionsBegun frames).zip ms).Pairwise OuterAhead := by
  induction h with
  | before h =>
    rw [List.zip_nil_right]
    exact .nil
  | captured _ _ ih => exact ih
  | @began p q r m below ms hr hq hp hnew h ih =>
    rw [regionsBegun_cons hr, List.zip_cons_cons]
    refine List.pairwise_cons.2 ⟨fun b hb hrule x hm hm' ↦ ?_, ih⟩
    obtain ⟨hmem, ⟨y, hy, hentered⟩, hle⟩ := h.of_mem_zip hb
    rw [Match.start, hm'] at hy hle
    rw [Match.start, hm] at hq
    -- the line had come to the place before the inner region was searched
    obtain rfl : q = x := Nat.le_antisymm hq hle
    refine ⟨hr, y, Nat.lt_of_le_of_ne hy ?_, hentered⟩
    rintro rfl
    refine hnew ?_ _ hmem (congrArg some hrule.symm) hentered
    rw [Match.stop, hm]

end Begun

/-! ### Steps -/

/-- The frames of a state, and what the regions began with of them that began in the line. -/
def LineState.BegunBy (s : LineState) (ms : List Match) : Prop :=
  Begun s.position s.stack.frames ms

namespace LineState.BegunBy

variable {s s' : LineState} {ms : List Match} {happened : List Happening} {m : Match}

/-- Passing over captures begins nothing. -/
theorem dropPassed (h : s.BegunBy ms) : s.dropPassed.BegunBy ms := by
  rcases s.dropPassed_eq with heq | ⟨c, below, hf, heq⟩
  · rwa [heq]
  · rw [BegunBy, hf] at h
    rw [heq]
    exact .captured h.of_captured.1 h.of_captured.2

/-- Entering captures opens a frame that starts where the match does. -/
theorem advance {path : ScopePath} {grammar : GrammarId} {captures : Captures}
    {e : LineState × Bool}
    {before : Nat} (he : CapturesEntered line s m path grammar captures e)
    (hs : s.position = before) (hm : m.start ≤ m.stop) (h : Begun m.start s.stack.frames ms) :
    (advance m before e).BegunBy ms := by
  rcases he.stack_cases with ⟨hstack, hopened⟩ | ⟨c, hstack, hstart, hopened⟩
  · have hposition : m.start ≤ (Tokenizing.advance m before e).position := by
      simp only [Tokenizing.advance, hopened, Bool.false_eq_true, if_false, decide_eq_true_eq,
        he.position_eq, hs]
      split <;> omega
    show Begun _ e.1.stack.frames ms
    rw [hstack]
    exact h.mono hposition
  · have hposition : (Tokenizing.advance m before e).position = m.start := by
      simp only [Tokenizing.advance, hopened, if_true]
    show Begun _ e.1.stack.frames ms
    rw [hstack, hposition, ← hstart]
    exact .captured (Nat.le_refl _) (hstart ▸ h)

/-- **A match that is applied begins a region, ends one, or does neither.** -/
theorem applied {c : Candidate} (h : s.BegunBy (beginMatches ctx.registry happened))
    (hstart : s.position ≤ m.start) (hm : m.start ≤ m.stop)
    (happlied : Applied ctx line s m c (some s')) :
    s'.BegunBy (beginMatches ctx.registry (.applied m c :: happened)) := by
  have hmatch := h.mono hstart
  cases happlied with
  | ended r below rule e hf _ _ he =>
    rw [hf] at hmatch
    exact advance he rfl hm hmatch.of_region
  | matched ref rule r names e hrule hbody _ _ he =>
    have hregion : ctx.registry.isRegion ref = false := by
      rw [Registry.isRegion_eq hrule, hbody]
    simp only [beginMatches, hregion, Bool.false_eq_true, if_false]
    exact advance he rfl hm hmatch
  | began ref rule r region e hrule hbody hguard hregion he =>
    have hisRegion : ctx.registry.isRegion ref = true := by
      rw [Registry.isRegion_eq hrule, hbody]
    simp only [beginMatches, hisRegion, if_true]
    refine advance he rfl hm
      (.began hregion.enteredAt_eq hstart (Nat.le_refl _) (fun hstop f hf ↦ ?_) h)
    intro howner hentered
    rw [hregion.rule_eq] at howner
    exact hguard ⟨hstop, h.hasEnteredAt_iff.2 ⟨f, hf, howner, hentered⟩⟩

/-- **A step of a scan keeps the regions with their begin matches.** -/
theorem stepsTo (hE : ctx.engine.StaysInRange) {stopDepth : Option Nat} {hap : Happening}
    (h : s.BegunBy (beginMatches ctx.registry happened))
    (hstep : StepsTo ctx line stopDepth s hap s') :
    s'.BegunBy (beginMatches ctx.registry (hap :: happened)) := by
  have h := h.dropPassed
  cases hstep with
  | applied _ m c hfound happlied =>
    obtain ⟨hstart, hm, -⟩ := hE.of_reportsIn (selected_of_nextMatch hfound).reported
    have hextend : (s.dropPassed.extendContent m.start).BegunBy
        (beginMatches ctx.registry happened) := h
    exact hextend.applied hstart hm (applied_of_applyMatch happlied)
  | opened t hfound ht =>
    obtain ⟨c, below, rest, hf, -⟩ := exists_captured_of_nextCapture? ht
    have hle := LineState.position_le_of_dropPassed ht
    rw [BegunBy, hf] at h
    show Begun t.span.start (s.dropPassed.openCapture t).stack.frames _
    rw [openCapture_stack hf]
    exact .captured (Nat.le_refl _) (.captured (Nat.le_trans h.of_captured.1 hle) h.of_captured.2)
  | closed _ f below hfound hnext hf hclosed =>
    obtain ⟨⟨b, hb⟩, -, rfl⟩ := closed_of_closeAtBound hf hclosed
    rw [BegunBy, hf] at h
    have h := h.mono (Nat.le_max_left s.dropPassed.position (s.dropPassed.limit line))
    cases f with
    | captured c => exact h.of_captured.2.mono h.of_captured.1
    | region r => exact h.of_region

end LineState.BegunBy

/-- **All states of a line have the regions that its matches began.** -/
theorem Visits.begunBy (hE : ctx.engine.StaysInRange) {start s : LineState} {stage : Stage}
    {happened : List Happening} (hstart : ∀ f ∈ start.stack.frames, f.IsFromBefore)
    (hs : Visits ctx line start happened stage s) :
    s.BegunBy (beginMatches ctx.registry happened) := by
  induction hs with
  | start => exact .before hstart
  | @move happened stage stage' s s' hap hs hmove ih =>
    have hfits := hs.fits
    cases hmove with
    | passed => exact ih
    | passedAll => exact ih
    | discontinued passed r inside =>
      have hbefore := hfits.stack_eq ▸ hstart
      have hsuffix := (List.suffix_cons _ _).trans hfits.suffix
      have hnil := Begun.eq_nil_of_before ih hbefore
      show Begun _ passed (beginMatches ctx.registry happened)
      rw [hnil]
      exact .before fun f hf ↦ hbefore f (hsuffix.mem hf)
    | continued => exact .before (hfits.stack_eq ▸ hstart)
    | entered passed r inside _ inner m _ _ hm he =>
      obtain ⟨rule, -, he⟩ := he.capturesEntered
      have hbefore := hfits.stack_eq ▸ hstart
      have hnil := Begun.eq_nil_of_before ih hbefore
      obtain ⟨-, hopened⟩ | ⟨c, hstack, hc, -⟩ := he.stack_cases
      · cases hopened
      · show Begun s'.position s'.stack.frames (beginMatches ctx.registry happened)
        rw [hnil, show s'.stack = _ from hstack, show s'.position = _ from he.position_eq]
        refine .captured (Nat.le_of_eq (hc.trans hm)) (.before fun f hf ↦ ?_)
        exact hbefore f (hfits.suffix.mem hf)
    | left => exact .before (hfits.before_eq ▸ hstart)
    | scanned _ stopDepth _ _ _ hstage hstep => exact ih.stepsTo hE hstep

/-! ### Regions that begin where others did -/

namespace Session

variable {E : Engine} {r : Registry} {base : GrammarId} {s : Session}

/-- Between lines all that is open is from before. -/
theorem Reachable.isFromBefore (hs : Reachable E r base s) :
    ∀ f ∈ s.stack.frames, f.IsFromBefore := by
  intro f hf
  obtain ⟨inside, below, hframes⟩ := List.append_of_mem hf
  have hcarried := hs.isCarried.frames f below ⟨inside, hframes.symm⟩
  cases f with
  | region region => exact ⟨hcarried.2.1, hcarried.2.2.1, hcarried.2.2.2⟩
  | captured c => exact hcarried

/-- **Regions begin apart.** At any place of a line, each open region that began in the line has its
begin match. If a rule began two of them in one place without any text, then the inner one was found
where it was searched, and the outer one was searched from before and found ahead. So there are two
of them at most, and never two if all such matches were found where they were searched. -/
theorem regions_begun_apart (hE : E.StaysInRange) (hs : Reachable E r base s)
    (patterns : PatternCache) (line : String) {happened : List Happening} {stage : Stage}
    {u : LineState}
    (hvisits : Visits (s.context (r.withPatterns patterns)) (.ofLine line)
      (.start s.stack s.firstLine (.ofLine line)) happened stage u) :
    (regionsBegun u.stack.frames).length =
        (beginMatches (r.withPatterns patterns) happened).length ∧
      (u.begun (r.withPatterns patterns) happened).Pairwise OuterAhead ∧
      (∀ ref x, ((u.begun (r.withPatterns patterns) happened).filter fun b ↦
        b.1.rule = ref ∧ b.2.whole = ⟨x, x⟩).length ≤ 2) ∧
      ((∀ b ∈ u.begun (r.withPatterns patterns) happened, b.2.start = b.2.stop →
          b.1.enteredAt = some b.2.start) →
        BegunApart (u.begun (r.withPatterns patterns) happened)) := by
  have hbegun := hvisits.begunBy (hs.engine_context _ ▸ hE) hs.isFromBefore
  have hahead := hbegun.pairwise_zip
  exact ⟨hbegun.length_regionsBegun, hahead, length_le_two_of_outerAhead hahead,
    begunApart_of_outerAhead hahead⟩

end Session

/-! ### A rule that looks ahead -/

/-- Searches a text as it is spelled and finds the place before it. -/
def lookaheadMatcher (cs : List Char) : Matcher := fun w ↦
  match literalMatcher cs w with
  | .found m => .found ⟨⟨m.start, m.start⟩, []⟩
  | answer => answer

/-- The engine that takes a pattern for the text that it spells, or for the place before that text
if it is put into a look-ahead. -/
def Engine.lookahead : Engine :=
  .ofMatcher fun cs ↦
    match cs with
    | '(' :: '?' :: '=' :: cs => lookaheadMatcher cs.dropLast
    | cs => literalMatcher cs

theorem Engine.lookahead_staysInRange : lookahead.StaysInRange := by
  rintro cs w m hw ⟨pattern, matcher, hcompile, h⟩
  have hliteral : ∀ {pattern m}, literalMatcher pattern w = .found m →
      w.range.start ≤ m.start ∧ m.start ≤ m.stop ∧ m.stop ≤ w.range.stop :=
    fun {pattern} _ hfound ↦ literal_staysInRange cs w _ hw ⟨pattern, _, rfl, hfound⟩
  obtain rfl := Except.ok.inj hcompile
  dsimp only at h
  split at h
  · rw [lookaheadMatcher] at h
    split at h
    · rename_i m' hfound
      obtain rfl := SearchAnswer.found.inj h
      obtain ⟨hstart, hm, hstop⟩ := hliteral hfound
      exact ⟨hstart, Nat.le_refl _, Nat.le_trans hm hstop⟩
    · exact hliteral h
  · exact hliteral h

/-- A grammar with a region that begins before an `x`, and is offered in itself. -/
def GrammarDefinition.lookahead : GrammarDefinition where
  scopeName := "text"
  patterns :=
    [{ beginPattern := some "(?=x)", endPattern := some "y"
       patterns := [{ target := some "$self" }] }]

/-- The begin pattern of the region. -/
def Regex.lookahead : Regex :=
  .ofPattern "(?=x)" "patterns[0].begin"

/-- The end pattern of the region. -/
def Regex.lookaheadEnd : Regex :=
  .ofPattern "y" "patterns[0].end"

/-- That grammar, compiled. -/
def Grammar.lookahead : Grammar where
  name := ""
  scopeName := "text"
  scope := .ofString "text"
  rules :=
    #[⟨0, none, false, .group ⟨[1], []⟩⟩,
      ⟨1, some 0, false, .region
        { kind := .beginEnd, name := none, contentName := none, begin := 0, beginCaptures := {}
          exit := 1, exitHasReferences := false, exitCaptures := {}, endLast := false
          patterns := [2], repository := [] }⟩,
      ⟨2, some 1, false, .includes .self⟩]
  regexes := #[.lookahead, .lookaheadEnd]
  injections := []
  exported := none
  injectTo := []

theorem Grammar.compile_lookahead : (compile .lookahead).result = .ok .lookahead :=
  rfl

namespace Registry

/-- The registry of that grammar. -/
def lookahead : Registry where
  grammars := #[.lookahead]
  byScopeName := Std.HashMap.insert {} "text" 0

theorem add_lookahead : add {} .lookahead = .ok (0, lookahead) :=
  rfl

/-- In the grammar and in the region there is nothing but the region. -/
theorem childCandidates_lookahead :
    lookahead.childCandidates 0 (.root 0) = .ok ([⟨0, 1⟩], #[]) ∧
      lookahead.childCandidates 0 ⟨0, 1⟩ = .ok ([⟨0, 1⟩], #[]) := by
  refine ⟨candidatesFrom_of_matching (r := lookahead) (by decide) rfl, ?_⟩
  show (lookahead.expand 0 3 {} [⟨0, 2⟩]).bind _ = _
  rw [expand_of_new (by simp) rfl]
  show (lookahead.expand 0 2 _ [⟨0, 0⟩]).bind _ = _
  rw [expand_of_new (by simp) rfl]
  show (lookahead.expand 0 1 _ [⟨0, 1⟩]).bind _ = _
  rw [expand_of_new (by simp) rfl]
  rfl

end Registry

namespace Session

variable (E : Engine)

/-- The session at the start of a document. -/
def lookahead : Session where
  base := 0
  injections := []
  stack := .ofGrammar 0 (.ofString "text")
  lines := #[]
  engine := E

theorem lookahead_reachable : Reachable E .lookahead 0 (lookahead E) :=
  .start [] rfl

/-- What it is tokenized with. -/
def lookaheadContext : Context :=
  (lookahead E).context (Registry.lookahead.withPatterns {})

/-- The region that begins before the `x`, searched from a position. -/
def lookaheadRegion (anchorBefore : Option Nat) (enteredAt : Nat) : Region where
  kind := .beginEnd
  rule := ⟨0, 1⟩
  nameScopes := .ofRoot (.ofString "text")
  contentScopes := .ofRoot (.ofString "text")
  exit := .fixed 0 1
  exitLast := false
  bound := none
  tookLineEnd := false
  anchorBefore := anchorBefore
  enteredAt := some enteredAt

/-- The place before the `x` of the line `ax`. -/
def lookaheadMatch : Match :=
  ⟨⟨1, 1⟩, []⟩

/-- The state at the start of the line. -/
def lookaheadStart : LineState :=
  .start (.ofGrammar 0 (.ofString "text")) true (.ofLine "ax")

/-- The state before the `x`, with some regions open. -/
def lookaheadState (regions : List Region) : LineState where
  stack := ⟨0, .ofString "text", regions.map .region⟩
  position := 1
  anchor := some 1
  atTextStart := false
  row := ⟨[⟨⟨0, 1⟩, .ofRoot (.ofString "text")⟩], 1, 2⟩

/-- Both patterns are searched as they are written: the region is found before the `x`, and its end
is not found. -/
structure FindsAhead : Prop where
  first : Regex.lookahead.search (LineText.ofLine "ax").indexed ⟨0, 3⟩ ⟨true, false⟩ E =
    .ok (some lookaheadMatch)
  second : Regex.lookahead.search (LineText.ofLine "ax").indexed ⟨1, 3⟩ ⟨false, true⟩ E =
    .ok (some lookaheadMatch)
  exit : Regex.lookaheadEnd.search (LineText.ofLine "ax").indexed ⟨1, 3⟩ ⟨false, true⟩ E = .ok none

/-- The engine that looks ahead finds the place before the letter from both positions. -/
theorem findsAhead_lookahead : FindsAhead .lookahead := by
  refine ⟨?_, ?_, ?_⟩ <;> decide +kernel

/-- The backtracking engine does so too. -/
theorem findsAhead_machine : FindsAhead .machine := by
  refine ⟨?_, ?_, ?_⟩ <;> decide +kernel

variable {E : Engine}

/-- The candidates that are known once a match was looked for in the region. -/
def regionCandidates : CandidateCache :=
  Std.HashMap.insert {} (⟨0, 1⟩, .children) [⟨0, 1⟩]

/-- What can match in the grammar is the region. -/
theorem nextMatch_lookaheadStart (h : FindsAhead E) :
    Returns (nextMatch (lookaheadContext E) (.ofLine "ax") lookaheadStart 3)
      (some (lookaheadMatch, .rule ⟨0, 1⟩)) := by
  have hcandidates : Tokenizing.candidates (lookaheadContext E) (.root 0) .children {} =
      .ok [⟨0, 1⟩] { candidates := rootCandidates } :=
    candidates_of_new Std.HashMap.getElem?_empty Registry.childCandidates_lookahead.1
  have hordered : orderedCandidates (lookaheadContext E) lookaheadStart.stack (.root 0) {} =
      .ok [.rule ⟨0, 1⟩] { candidates := rootCandidates } :=
    (bind_eq_of_eq_ok hcandidates).trans rfl
  exact returns_of_eq (nextMatch_of_singleton rfl rfl rfl hordered rfl h.first)

/-- In the region its end and the region itself can match. -/
theorem nextMatch_lookaheadState (h : FindsAhead E) :
    Returns
      (nextMatch (lookaheadContext E) (.ofLine "ax") (lookaheadState [lookaheadRegion none 0]) 3)
      (some (lookaheadMatch, .rule ⟨0, 1⟩)) := by
  have hcandidates : Tokenizing.candidates (lookaheadContext E) ⟨0, 1⟩ .children {} =
      .ok [⟨0, 1⟩] { candidates := regionCandidates } :=
    candidates_of_new Std.HashMap.getElem?_empty Registry.childCandidates_lookahead.2
  have hordered : orderedCandidates (lookaheadContext E)
      (lookaheadState [lookaheadRegion none 0]).stack ⟨0, 1⟩ {} =
        .ok [.exit, .rule ⟨0, 1⟩] { candidates := regionCandidates } :=
    (bind_eq_of_eq_ok hcandidates).trans rfl
  have hexit : search (lookaheadContext E) (.ofLine "ax") .lookaheadEnd ⟨1, 3⟩ ⟨false, true⟩ =
      pure none := search_of_ok h.exit
  have hbest :
      bestOf (lookaheadContext E) (.ofLine "ax") (lookaheadState [lookaheadRegion none 0]) 3
      none [.exit, .rule ⟨0, 1⟩] = pure (some (lookaheadMatch, .rule ⟨0, 1⟩)) := by
    rw [bestOf]
    show (search _ _ .lookaheadEnd ⟨1, 3⟩ ⟨false, true⟩ >>= _) = _
    rw [hexit, pure_bind]
    exact @bestOf_singleton (lookaheadContext E) _ _ _ (.rule ⟨0, 1⟩) _ (some lookaheadMatch) rfl
      h.second
  exact returns_of_eq (nextMatch_eq_ok rfl rfl rfl hordered hbest)

/-- The region begins before the `x`, found from the start of the line, and again from there. -/
theorem visits_lookahead (h : FindsAhead E) :
    Visits (lookaheadContext E) (.ofLine "ax") lookaheadStart
      [.applied lookaheadMatch (.rule ⟨0, 1⟩), .applied lookaheadMatch (.rule ⟨0, 1⟩),
        .passed] .rest
      (lookaheadState [lookaheadRegion (some 1) 1, lookaheadRegion none 0]) := by
  have hvisits : Visits (lookaheadContext E) (.ofLine "ax") lookaheadStart [.passed] .rest
      lookaheadStart := Visits.start.move (.passedAll [] _)
  have hfirst : StepsTo (lookaheadContext E) (.ofLine "ax") none lookaheadStart
      (.applied lookaheadMatch (.rule ⟨0, 1⟩)) (lookaheadState [lookaheadRegion none 0]) :=
    .applied _ _ _ (nextMatch_lookaheadStart h) ⟨{}, {}, rfl⟩
  have hsecond : StepsTo (lookaheadContext E) (.ofLine "ax") none
      (lookaheadState [lookaheadRegion none 0]) (.applied lookaheadMatch (.rule ⟨0, 1⟩))
      (lookaheadState [lookaheadRegion (some 1) 1, lookaheadRegion none 0]) :=
    .applied _ _ _ (nextMatch_lookaheadState h) ⟨{}, {}, rfl⟩
  exact (hvisits.move (.scanned .rest none _ _ _ .rest hfirst)).move
    (.scanned .rest none _ _ _ .rest hsecond)

/-- The inner region was searched from before the `x`, and the outer one from the start of the
line. -/
theorem regions_begun_apart_lookahead :
    Engine.lookahead.StaysInRange ∧ Reachable .lookahead .lookahead 0 (lookahead .lookahead) ∧
      Visits (lookaheadContext .lookahead) (.ofLine "ax") lookaheadStart
        [.applied lookaheadMatch (.rule ⟨0, 1⟩), .applied lookaheadMatch (.rule ⟨0, 1⟩), .passed]
        .rest (lookaheadState [lookaheadRegion (some 1) 1, lookaheadRegion none 0]) ∧
      [(lookaheadRegion (some 1) 1, lookaheadMatch),
        (lookaheadRegion none 0, lookaheadMatch)].Pairwise OuterAhead := by
  have hreachable := lookahead_reachable .lookahead
  have hvisits := visits_lookahead findsAhead_lookahead
  exact ⟨Engine.lookahead_staysInRange, hreachable, hvisits,
    (regions_begun_apart Engine.lookahead_staysInRange hreachable {} "ax" hvisits).2.1⟩

/-- **A region that is found ahead can begin twice in one place.** On the line `ax` a region that
begins before an `x` is found from the start of the line, and then again from there. -/
theorem not_begunApart_lookahead :
    Registry.lookahead.Loaded .machine ∧ Reachable .machine .lookahead 0 (lookahead .machine) ∧
      Visits (lookaheadContext .machine) (.ofLine "ax") lookaheadStart
        [.applied lookaheadMatch (.rule ⟨0, 1⟩), .applied lookaheadMatch (.rule ⟨0, 1⟩), .passed]
        .rest (lookaheadState [lookaheadRegion (some 1) 1, lookaheadRegion none 0]) ∧
      ¬ BegunApart ((lookaheadState [lookaheadRegion (some 1) 1, lookaheadRegion none 0]).begun
        (Registry.lookahead.withPatterns {})
        [.applied lookaheadMatch (.rule ⟨0, 1⟩), .applied lookaheadMatch (.rule ⟨0, 1⟩),
          .passed]) := by
  refine ⟨.add .empty Grammar.compile_lookahead Registry.add_lookahead,
    lookahead_reachable .machine, visits_lookahead findsAhead_machine, fun h ↦ ?_⟩
  have hpair : [(lookaheadRegion (some 1) 1, lookaheadMatch),
      (lookaheadRegion none 0, lookaheadMatch)].Pairwise fun a b ↦ a.1.rule = b.1.rule → ∀ x,
        a.2.whole = ⟨x, x⟩ → b.2.whole ≠ ⟨x, x⟩ := h
  exact (List.pairwise_cons.1 hpair).1 _ List.mem_cons_self rfl 1 rfl rfl

end Session

end ScopeGrammar
