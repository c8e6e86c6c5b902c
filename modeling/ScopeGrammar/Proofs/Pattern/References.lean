import Mathlib.Data.List.TakeWhile
import ScopeGrammar.Proofs.Capture.Slices
import ScopeGrammar.Proofs.Text.Boundary

/-!
# Filling references in

`Fills text m pattern filled` tells what it means that `filled` is `pattern` with its references
filled in from the captures of a match, without a scan: the pattern is taken apart into characters,
escaped pairs and references, each of which stands for itself except the last ones. It is the
program's answer for every match whose captures lie in the text (`fillReferences_eq`).

Escaped text never runs together with what stands around it. A backslash of its own is followed by
a character that is neither a digit nor the letter of an anchor, and no other backslash is left, so
whatever reads a pattern by pairs passes over it as if it were not there (`mask_append`,
`hasReferences_append`). What is filled in thus brings neither references nor anchors with it:
`Fills.hasReferences_eq_false` and `Fills.mask`.
-/

namespace ScopeGrammar

/-- The captures of the match lie in the text: none runs backwards, and all begin and end between
characters. -/
def Match.LiesIn (text : List Char) (m : Match) : Prop :=
  ∀ g ∈ m.captures, ∀ s ∈ g,
    s.start ≤ s.stop ∧ IsBoundary text s.start ∧ IsBoundary text s.stop

instance (text : List Char) (m : Match) : Decidable (m.LiesIn text) :=
  inferInstanceAs (Decidable (∀ g ∈ m.captures, ∀ s ∈ g,
    s.start ≤ s.stop ∧ IsBoundary text s.start ∧ IsBoundary text s.stop))

theorem Match.LiesIn.sliceable {text : List Char} {m : Match} (hm : m.LiesIn text) :
    m.Sliceable text := by
  intro s hs
  obtain ⟨hle, hstart, hstop⟩ := hm _ hs s rfl
  exact hstart.exists_slice hstop hle

/-! ### What patterns are read by -/

section Reading

variable {c : Char} {cs : List Char}

theorem hasReferences_cons (hc : c ≠ '\\') : hasReferences (c :: cs) = hasReferences cs := by
  rw [hasReferences]
  rintro d ds rfl
  exact absurd rfl hc

theorem referenceParts_cons (hc : c ≠ '\\') :
    referenceParts (c :: cs) = .verbatim [c] :: referenceParts cs := by
  rw [referenceParts]
  rintro d ds rfl
  exact absurd rfl hc

theorem referenceParts_pair (hc : isAsciiDigit c = false) :
    referenceParts ('\\' :: c :: cs) = .verbatim ['\\', c] :: referenceParts cs := by
  rw [referenceParts, hc]
  rfl

/-- A reference takes all the digits that follow its backslash. -/
theorem referenceParts_digits {digits : List Char} (hne : digits ≠ [])
    (hdigits : ∀ d ∈ digits, isAsciiDigit d = true)
    (hnext : ∀ d ∈ cs.head?, isAsciiDigit d = false) :
    referenceParts ('\\' :: (digits ++ cs)) = .reference digits :: referenceParts cs := by
  obtain ⟨d, digits, rfl⟩ := List.exists_cons_of_ne_nil hne
  obtain ⟨hd, hdigits⟩ := List.forall_mem_cons.mp hdigits
  have htake : cs.takeWhile isAsciiDigit = [] ∧ cs.dropWhile isAsciiDigit = cs := by
    cases cs with
    | nil => exact ⟨rfl, rfl⟩
    | cons c cs =>
      have hc := hnext c rfl
      exact ⟨List.takeWhile_cons_of_neg (by simp [hc]), List.dropWhile_cons_of_neg (by simp [hc])⟩
  rw [List.cons_append, referenceParts, if_pos hd, List.takeWhile_append_of_pos hdigits,
    List.dropWhile_append_of_pos hdigits, htake.1, htake.2, List.append_nil]

namespace LiveAnchors

variable (a : LiveAnchors)

theorem mask_cons (hc : c ≠ '\\') : a.mask (c :: cs) = c :: a.mask cs := by
  rw [mask]
  rintro d ds rfl
  exact absurd rfl hc

theorem mask_pair (hc : a.blocks c = false) :
    a.mask ('\\' :: c :: cs) = '\\' :: c :: a.mask cs := by
  rw [mask, hc]
  rfl

theorem mask_blocked (hc : a.blocks c = true) :
    a.mask ('\\' :: c :: cs) = neverMatches :: a.mask cs := by
  rw [mask, hc]
  rfl

/-- Only the letters `A` and `G` name anchors. -/
theorem blocks_eq_false (hA : c ≠ 'A') (hG : c ≠ 'G') : a.blocks c = false := by
  simp [blocks, hA, hG]

/-- Masking makes no digit of the first character. -/
theorem head?_mask (h : ∀ d ∈ cs.head?, isAsciiDigit d = false) :
    ∀ d ∈ (a.mask cs).head?, isAsciiDigit d = false := by
  fun_cases mask a cs with
  | case1 c cs =>
    cases a.blocks c <;> (rintro d ⟨rfl⟩; rfl)
  | case2 c cs => exact h
  | case3 => exact h

/-- A pattern in which no backslash stands before the letter of an anchor is left as it is, so that
looking for such a place first changes nothing. -/
theorem mask_eq_self (hA : ¬['\\', 'A'] <:+: cs) (hG : ¬['\\', 'G'] <:+: cs) : a.mask cs = cs := by
  fun_induction a.mask cs with
  | case1 c cs ih =>
    have hc : a.blocks c = false := by
      refine a.blocks_eq_false ?_ ?_
      · rintro rfl
        exact hA (List.prefix_append ['\\', 'A'] cs).isInfix
      · rintro rfl
        exact hG (List.prefix_append ['\\', 'G'] cs).isInfix
    have hsuffix : cs <:+ '\\' :: c :: cs := List.suffix_append ['\\', c] cs
    rw [hc, ih (fun h ↦ hA (h.trans hsuffix.isInfix)) fun h ↦ hG (h.trans hsuffix.isInfix)]
    rfl
  | case2 c cs _ ih =>
    have hsuffix : cs <:+ c :: cs := List.suffix_cons c cs
    rw [ih (fun h ↦ hA (h.trans hsuffix.isInfix)) fun h ↦ hG (h.trans hsuffix.isInfix)]
  | case3 => rfl

end LiveAnchors

end Reading

/-! ### Inert text -/

/-- Text that can take the place of a reference: its backslashes have the characters that they stand
before in it, which are neither digits nor letters of anchors. -/
inductive IsInert : List Char → Prop
  | nil : IsInert []
  | char {c : Char} {cs : List Char} : c ≠ '\\' → IsInert cs → IsInert (c :: cs)
  | pair {c : Char} {cs : List Char} :
      isAsciiDigit c = false → c ≠ 'A' → c ≠ 'G' → IsInert cs → IsInert ('\\' :: c :: cs)

/-- Text without backslashes is inert. -/
theorem isInert_of_forall_ne {cs : List Char} (h : ∀ c ∈ cs, c ≠ '\\') : IsInert cs := by
  induction cs with
  | nil => exact .nil
  | cons c cs ih =>
    obtain ⟨hc, hcs⟩ := List.forall_mem_cons.mp h
    exact .char hc (ih hcs)

/-- What is escaped is neither a digit nor a letter. -/
theorem not_digit_or_anchor_of_needsEscape {c : Char} (hc : needsEscape c = true) :
    isAsciiDigit c = false ∧ c ≠ 'A' ∧ c ≠ 'G' := by
  rw [needsEscape, decide_eq_true_iff] at hc
  have htest : ∀ cs : List Char, (cs.all fun d ↦ !isAsciiDigit d && d != 'A' && d != 'G') = true →
      ∀ d ∈ cs, isAsciiDigit d = false ∧ d ≠ 'A' ∧ d ≠ 'G' := by
    intro cs h d hd
    simpa [and_assoc] using List.all_eq_true.mp h d hd
  exact htest _ (by decide) c hc

theorem ne_backslash_of_needsEscape_eq_false {c : Char} (hc : needsEscape c = false) :
    c ≠ '\\' := by
  rintro rfl
  exact absurd hc (by decide)

/-- Escaped text is inert, whatever the text. -/
theorem isInert_escapeChars (captured : List Char) : IsInert (escapeChars captured) := by
  induction captured with
  | nil => exact .nil
  | cons c captured ih =>
    rw [escapeChars_cons]
    cases hc : needsEscape c with
    | true =>
      obtain ⟨hdigit, hA, hG⟩ := not_digit_or_anchor_of_needsEscape hc
      exact .pair hdigit hA hG ih
    | false => exact .char (ne_backslash_of_needsEscape_eq_false hc) ih

namespace IsInert

variable {inert : List Char}

/-- Inert text has no references, and makes none with what follows it. -/
theorem hasReferences_append (h : IsInert inert) (cs : List Char) :
    hasReferences (inert ++ cs) = hasReferences cs := by
  induction h with
  | nil => rfl
  | char hc _ ih => rw [List.cons_append, hasReferences_cons hc, ih]
  | pair hdigit _ _ _ ih =>
    rw [List.cons_append, List.cons_append, hasReferences, hdigit, ih, Bool.false_or]

/-- Inert text has no anchors, and makes none with what follows it. -/
theorem mask_append (h : IsInert inert) (a : LiveAnchors) (cs : List Char) :
    a.mask (inert ++ cs) = inert ++ a.mask cs := by
  induction h with
  | nil => rfl
  | char hc _ ih => rw [List.cons_append, a.mask_cons hc, ih, List.cons_append]
  | pair _ hA hG _ ih =>
    rw [List.cons_append, List.cons_append, a.mask_pair (a.blocks_eq_false hA hG), ih]
    rfl

end IsInert

/-- References are left alone by the masking of anchors. -/
theorem LiveAnchors.mask_digits (a : LiveAnchors) {digits : List Char} (hne : digits ≠ [])
    (hdigits : ∀ d ∈ digits, isAsciiDigit d = true) (cs : List Char) :
    a.mask ('\\' :: (digits ++ cs)) = '\\' :: (digits ++ a.mask cs) := by
  have hletter : ∀ d, isAsciiDigit d = true → d ≠ '\\' ∧ d ≠ 'A' ∧ d ≠ 'G' := by
    intro d hd
    refine ⟨?_, ?_, ?_⟩ <;> (rintro rfl; exact absurd hd (by decide))
  obtain ⟨d, digits, rfl⟩ := List.exists_cons_of_ne_nil hne
  obtain ⟨hd, hdigits⟩ := List.forall_mem_cons.mp hdigits
  have hinert : IsInert digits :=
    isInert_of_forall_ne fun d hmem ↦ (hletter d (hdigits d hmem)).1
  rw [List.cons_append, a.mask_pair (a.blocks_eq_false (hletter d hd).2.1 (hletter d hd).2.2),
    hinert.mask_append, List.cons_append]

/-- Escaped text is the same whatever anchors are live. -/
theorem LiveAnchors.mask_escapeChars (a : LiveAnchors) (cs : List Char) :
    a.mask (escapeChars cs) = escapeChars cs := by
  have h := (isInert_escapeChars cs).mask_append a []
  rwa [List.append_nil, mask, List.append_nil] at h

/-! ### References filled in -/

/-- What takes the place of a backslash and a run of digits: the text of the group with that number,
escaped, or the character that never matches if there is no such group, it took no part, or the
number is too large. -/
inductive Replaces (text : List Char) (m : Match) (digits : List Char) : List Char → Prop
  | captured {s : Span} {captured : List Char} :
      decimalValue digits < indexBound → m.group? (decimalValue digits) = some s →
      slice? text s = some captured → Replaces text m digits (escapeChars captured)
  | absent :
      (decimalValue digits < indexBound → m.group? (decimalValue digits) = none) →
      Replaces text m digits [neverMatches]

/-- The second pattern is the first one with every unescaped backslash and the run of digits that
follows it replaced. All other characters and escaped pairs are kept. -/
inductive Fills (text : List Char) (m : Match) : List Char → List Char → Prop
  | nil : Fills text m [] []
  | char {c : Char} {pattern filled : List Char} :
      c ≠ '\\' → Fills text m pattern filled → Fills text m (c :: pattern) (c :: filled)
  | pair {c : Char} {pattern filled : List Char} :
      isAsciiDigit c = false → Fills text m pattern filled →
      Fills text m ('\\' :: c :: pattern) ('\\' :: c :: filled)
  | lastBackslash : Fills text m ['\\'] ['\\']
  | reference {digits pattern replacement filled : List Char} :
      digits ≠ [] → (∀ d ∈ digits, isAsciiDigit d = true) →
      (∀ d ∈ pattern.head?, isAsciiDigit d = false) → Replaces text m digits replacement →
      Fills text m pattern filled →
        Fills text m ('\\' :: (digits ++ pattern)) (replacement ++ filled)

section Filling

variable {text : List Char} {m : Match}

theorem index?_eq_of_isAsciiDigit {digits : List Char} (hne : digits ≠ [])
    (hdigits : ∀ d ∈ digits, isAsciiDigit d = true) :
    index? digits =
      if decimalValue digits < indexBound then some (decimalValue digits) else none := by
  have hall : digits.all isAsciiDigit = true := List.all_eq_true.mpr hdigits
  have hempty : digits.isEmpty = false := by simpa using hne
  simp [index?, hall, hempty]

namespace Replaces

variable {digits replacement : List Char}

/-- Nothing that is filled in runs together with what stands around it. -/
theorem isInert (h : Replaces text m digits replacement) : IsInert replacement := by
  cases h with
  | captured => exact isInert_escapeChars _
  | absent => exact isInert_of_forall_ne (List.forall_mem_singleton.mpr (by decide))

theorem fill_eq (hne : digits ≠ []) (hdigits : ∀ d ∈ digits, isAsciiDigit d = true)
    (h : Replaces text m digits replacement) :
    (ReferencePart.reference digits).fill text m = .ok replacement := by
  rw [ReferencePart.fill, index?_eq_of_isAsciiDigit hne hdigits]
  cases h with
  | captured hbound hgroup hslice =>
    rw [if_pos hbound, Option.bind_some, hgroup]
    simp only [hslice]
  | absent hgroup =>
    split_ifs with hbound
    · rw [Option.bind_some, hgroup hbound]
    · rfl

/-- What a reference is filled in with takes its place. -/
theorem of_fill (hne : digits ≠ []) (hdigits : ∀ d ∈ digits, isAsciiDigit d = true)
    (h : (ReferencePart.reference digits).fill text m = .ok replacement) :
    Replaces text m digits replacement := by
  rw [ReferencePart.fill, index?_eq_of_isAsciiDigit hne hdigits] at h
  split at h
  · rename_i hnone
    obtain rfl := Except.ok.inj h
    refine .absent fun hbound ↦ ?_
    rwa [if_pos hbound] at hnone
  · rename_i s hs
    split at h
    · rename_i captured hslice
      obtain rfl := Except.ok.inj h
      by_cases hbound : decimalValue digits < indexBound
      · rw [if_pos hbound] at hs
        exact .captured hbound hs hslice
      · rw [if_neg hbound] at hs
        cases hs
    · cases h

end Replaces

/-- A piece of a pattern is a reference exactly where the pattern has one. -/
theorem any_isReference_referenceParts (pattern : List Char) :
    (referenceParts pattern).any (·.isReference) = hasReferences pattern := by
  fun_induction referenceParts pattern with
  | case1 c cs hc => rw [hasReferences, hc, List.any_cons, ReferencePart.isReference,
      Bool.true_or, Bool.true_or]
  | case2 c cs hc ih =>
    rw [hasReferences, Bool.eq_false_iff.mpr hc, List.any_cons, ih]
    rfl
  | case3 c cs hc ih =>
    rw [hasReferences.eq_2 _ _ hc, List.any_cons, ih]
    rfl
  | case4 => rfl

namespace Fills

variable {pattern filled : List Char}

/-- A pattern whose pieces are filled in is filled in. -/
theorem of_mapM {pieces : List (List Char)}
    (h : (referenceParts pattern).mapM (ReferencePart.fill text m) = .ok pieces) :
    Fills text m pattern pieces.flatten := by
  fun_induction referenceParts pattern generalizing pieces with
  | case1 c cs hc ih =>
    obtain ⟨replacement, pieces, hreplacement, hpieces, rfl⟩ := exists_of_mapM_cons_eq_ok h
    have hdigits : ∀ d ∈ c :: cs.takeWhile isAsciiDigit, isAsciiDigit d = true :=
      List.forall_mem_cons.mpr ⟨hc, fun d ↦ List.mem_takeWhile_imp⟩
    have hsplit : c :: cs = c :: cs.takeWhile isAsciiDigit ++ cs.dropWhile isAsciiDigit := by
      rw [List.cons_append, List.takeWhile_append_dropWhile]
    rw [hsplit]
    refine .reference (List.cons_ne_nil _ _) hdigits ?_
      (.of_fill (List.cons_ne_nil _ _) hdigits hreplacement) (ih hpieces)
    intro d hd
    simpa [Option.mem_def.mp hd] using List.head?_dropWhile_not isAsciiDigit cs
  | case2 c cs hc ih =>
    obtain ⟨_, pieces, hkept, hpieces, rfl⟩ := exists_of_mapM_cons_eq_ok h
    obtain rfl := Except.ok.inj hkept
    exact .pair (Bool.eq_false_iff.mpr hc) (ih hpieces)
  | case3 c cs hc ih =>
    obtain ⟨_, pieces, hkept, hpieces, rfl⟩ := exists_of_mapM_cons_eq_ok h
    obtain rfl := Except.ok.inj hkept
    by_cases hslash : c = '\\'
    · cases cs with
      | nil =>
        rw [referenceParts] at hpieces
        obtain rfl := Except.ok.inj hpieces
        exact hslash ▸ .lastBackslash
      | cons d ds => exact (hc d ds hslash rfl).elim
    · exact .char hslash (ih hpieces)
  | case4 =>
    obtain rfl := Except.ok.inj h
    exact .nil

/-- Every pattern can be filled in. -/
theorem exists_fills (hm : m.LiesIn text) (pattern : List Char) :
    ∃ filled, Fills text m pattern filled := by
  have hpieces : Faultless ((referenceParts pattern).mapM (ReferencePart.fill text m)) _ :=
    faultless_mapM fun part _ ↦ part.faultless_fill hm.sliceable
  obtain ⟨pieces, hpieces, -⟩ := hpieces
  exact ⟨_, of_mapM hpieces⟩

/-- The pieces of a pattern are filled in one by one. -/
theorem exists_mapM (h : Fills text m pattern filled) :
    ∃ pieces, (referenceParts pattern).mapM (ReferencePart.fill text m) = .ok pieces ∧
      pieces.flatten = filled := by
  induction h with
  | nil => exact ⟨[], by rw [referenceParts]; rfl, rfl⟩
  | lastBackslash => exact ⟨[['\\']], by simp [referenceParts]; rfl, rfl⟩
  | char hc _ ih =>
    obtain ⟨pieces, hpieces, rfl⟩ := ih
    refine ⟨[_] :: pieces, ?_, rfl⟩
    rw [referenceParts_cons hc, List.mapM_cons, hpieces]
    rfl
  | pair hc _ ih =>
    obtain ⟨pieces, hpieces, rfl⟩ := ih
    refine ⟨['\\', _] :: pieces, ?_, rfl⟩
    rw [referenceParts_pair hc, List.mapM_cons, hpieces]
    rfl
  | reference hne hdigits hnext hreplaces _ ih =>
    obtain ⟨pieces, hpieces, rfl⟩ := ih
    refine ⟨_ :: pieces, ?_, rfl⟩
    rw [referenceParts_digits hne hdigits hnext, List.mapM_cons, hreplaces.fill_eq hne hdigits,
      hpieces]
    rfl

/-- **The program's answer is the pattern filled in**, or none if it has no references. -/
theorem fillReferences_eq (h : Fills text m pattern filled) :
    fillReferences pattern text m =
      .ok (if hasReferences pattern = true then some filled else none) := by
  obtain ⟨pieces, hpieces, rfl⟩ := h.exists_mapM
  rw [fillReferences, any_isReference_referenceParts]
  split_ifs
  · rw [hpieces]
    rfl
  · rfl

/-- Whatever the captures are, what the program gives as an answer is the pattern filled in. -/
theorem of_fillReferences (h : fillReferences pattern text m = .ok (some filled)) :
    Fills text m pattern filled := by
  rw [fillReferences] at h
  split at h
  · obtain ⟨pieces, hpieces, h⟩ := exists_of_bind_eq_ok h
    obtain rfl := Option.some.inj (Except.ok.inj h)
    exact of_mapM hpieces
  · cases h

/-- **A pattern that is filled in has no references.** -/
theorem hasReferences_eq_false (h : Fills text m pattern filled) :
    hasReferences filled = false := by
  induction h with
  | nil => rfl
  | lastBackslash => rfl
  | char hc _ ih => rw [hasReferences_cons hc, ih]
  | pair hc _ ih => rw [hasReferences, hc, ih, Bool.false_or]
  | reference _ _ _ hreplaces _ ih => rw [hreplaces.isInert.hasReferences_append, ih]

/-- **Anchors can be masked before or after the references are filled in.** -/
theorem mask (h : Fills text m pattern filled) (a : LiveAnchors) :
    Fills text m (a.mask pattern) (a.mask filled) := by
  induction h with
  | nil => exact .nil
  | lastBackslash => exact .lastBackslash
  | char hc _ ih =>
    rw [a.mask_cons hc, a.mask_cons hc]
    exact .char hc ih
  | @pair c _ _ hc _ ih =>
    cases hblocks : a.blocks c with
    | true =>
      rw [a.mask_blocked hblocks, a.mask_blocked hblocks]
      exact .char (by decide) ih
    | false =>
      rw [a.mask_pair hblocks, a.mask_pair hblocks]
      exact .pair hc ih
  | reference hne hdigits hnext hreplaces _ ih =>
    rw [a.mask_digits hne hdigits, hreplaces.isInert.mask_append]
    exact .reference hne hdigits (a.head?_mask hnext) hreplaces ih

/-- The masked pattern has references exactly if the pattern has. -/
theorem hasReferences_mask (h : Fills text m pattern filled) (a : LiveAnchors) :
    hasReferences (a.mask pattern) = hasReferences pattern := by
  induction h with
  | nil => rfl
  | lastBackslash => rfl
  | char hc _ ih => rw [a.mask_cons hc, hasReferences_cons hc, hasReferences_cons hc, ih]
  | @pair c _ _ hc _ ih =>
    rw [hasReferences, hc, Bool.false_or]
    cases hblocks : a.blocks c with
    | true => rw [a.mask_blocked hblocks, hasReferences_cons (by decide), ih]
    | false => rw [a.mask_pair hblocks, hasReferences, hc, ih, Bool.false_or]
  | reference hne hdigits _ _ _ _ =>
    obtain ⟨d, digits, rfl⟩ := List.exists_cons_of_ne_nil hne
    rw [a.mask_digits hne hdigits, List.cons_append, List.cons_append, hasReferences,
      hasReferences, hdigits d List.mem_cons_self]
    rfl

end Fills

/-- Without an answer there was nothing to fill in. -/
theorem hasReferences_of_fillReferences_eq_none {pattern : List Char}
    (h : fillReferences pattern text m = .ok none) : hasReferences pattern = false := by
  rw [fillReferences, any_isReference_referenceParts] at h
  split at h
  · obtain ⟨pieces, -, h⟩ := exists_of_bind_eq_ok h
    cases h
  · rename_i hnone
    exact Bool.eq_false_iff.mpr hnone

/-- **Anchors are masked before or after references are filled in, with the same result**: no
captured text is ever taken for an anchor, as escaped text is the same whatever anchors are live. -/
theorem exists_fillReferences_mask (a : LiveAnchors) (hm : m.LiesIn text) (pattern : List Char) :
    (∃ filled, fillReferences pattern text m = .ok filled ∧
      fillReferences (a.mask pattern) text m = .ok (filled.map a.mask)) ∧
    ∀ captured : String, a.maskString (escape captured) = escape captured := by
  refine ⟨?_, ?_⟩
  · obtain ⟨filled, hfilled⟩ := Fills.exists_fills hm pattern
    refine ⟨_, hfilled.fillReferences_eq, ?_⟩
    rw [(hfilled.mask a).fillReferences_eq, hfilled.hasReferences_mask]
    split_ifs <;> rfl
  · intro captured
    rw [LiveAnchors.maskString, escape, String.toList_ofList, a.mask_escapeChars]

/-- A match in the text `a\G` with a group that captures `\G`. -/
def anchorCaptured : Match :=
  ⟨⟨0, 3⟩, [some ⟨1, 3⟩]⟩

/-- What was captured is the text of an anchor; it stands between an anchor that is not live and an
escaped backslash before a digit. -/
theorem exists_fillReferences_mask_anchorCaptured :
    anchorCaptured.LiesIn "a\\G".toList ∧
    (∃ filled, fillReferences "\\G\\1\\\\1".toList "a\\G".toList anchorCaptured = .ok filled ∧
      fillReferences (LiveAnchors.mask ⟨true, false⟩ "\\G\\1\\\\1".toList) "a\\G".toList
        anchorCaptured = .ok (filled.map (LiveAnchors.mask ⟨true, false⟩))) ∧
    fillReferences (LiveAnchors.mask ⟨true, false⟩ "\\G\\1\\\\1".toList) "a\\G".toList
        anchorCaptured = .ok (some (neverMatches :: "\\\\G\\\\1".toList)) := by
  have hm : anchorCaptured.LiesIn "a\\G".toList := by decide
  exact ⟨hm, (exists_fillReferences_mask _ hm _).1, by decide +kernel⟩

end Filling

end ScopeGrammar
