import ScopeGrammar.Proofs.Text.RangeTable
import ScopeGrammar.Selector.Token

/-!
# The tokens of a selector

What it means for a text to split into tokens, said without positions and without a reader: at each
place of the text a token is taken if one stands there, and white space is passed over if none does.
A mark goes before a name, so that `L:` is never the name `L`, a name goes before a sign, and a name
ends only where no character can go on with it.

`exists_tokenize_iff` says that the reader finds exactly these tokens. The positions it gives, those
of tokens as well as those of characters that it refuses, lie in the text.

Where two texts are put together, no token grows over the seam or is torn by it if the second text
begins with a sign other than the minus sign, which goes on in names (`Lexes.append_sign`).
-/

namespace ScopeGrammar

namespace SelectorToken

/-- The letters that make a mark together with a colon. -/
inductive IsMark : Char → Precedence → Prop
  | left : IsMark 'L' .left
  | right : IsMark 'R' .right

/-- The tokens of one character. -/
inductive IsSign : Char → SelectorToken → Prop
  | comma : IsSign ',' .separator
  | bar : IsSign '|' .separator
  | minus : IsSign '-' .minus
  | openParen : IsSign '(' .openParen
  | closeParen : IsSign ')' .closeParen

/-- A token stands at the head of a text and leaves the rest. -/
inductive Leads : List Char → SelectorToken → List Char → Prop
  | mark {c : Char} {p : Precedence} {rest : List Char} :
      IsMark c p → Leads (c :: ':' :: rest) (.mark p) rest
  | name {c : Char} {tail rest : List Char} :
      (∀ p after, IsMark c p → tail ++ rest ≠ ':' :: after) →
      beginsName c = true →
      (∀ d ∈ tail, continuesName d = true) →
      (∀ d ∈ rest.head?, continuesName d = false) →
      Leads (c :: (tail ++ rest)) (.name (c :: tail)) rest
  | sign {c : Char} {t : SelectorToken} {rest : List Char} :
      beginsName c = false → IsSign c t → Leads (c :: rest) t rest

/-- A text splits into tokens, with nothing but white space between them and at its ends. -/
inductive Lexes : List Char → List SelectorToken → Prop
  | nil : Lexes [] []
  | token {cs rest : List Char} {t : SelectorToken} {ts : List SelectorToken} :
      Leads cs t rest → Lexes rest ts → Lexes cs (t :: ts)
  | blank {c : Char} {cs : List Char} {ts : List SelectorToken} :
      (∀ t rest, ¬ Leads (c :: cs) t rest) → isBlank c = true → Lexes cs ts → Lexes (c :: cs) ts

/-! ### One token -/

/-- What is read as a token is one. -/
theorem leads_of_read? {cs rest : List Char} {t : SelectorToken}
    (h : read? cs = some (t, rest)) : Leads cs t rest := by
  unfold read? at h
  split at h
  · contradiction
  · obtain ⟨rfl, rfl⟩ := Prod.mk.inj (Option.some.inj h)
    exact .mark .left
  · obtain ⟨rfl, rfl⟩ := Prod.mk.inj (Option.some.inj h)
    exact .mark .right
  · rename_i c tail hleft hright
    split at h
    · rename_i hc
      obtain ⟨rfl, rfl⟩ := Prod.mk.inj (Option.some.inj h)
      have hsplit := List.takeWhile_append_dropWhile (p := continuesName) (l := tail)
      have hname : Leads (c :: (tail.takeWhile continuesName ++ tail.dropWhile continuesName))
          (.name (c :: tail.takeWhile continuesName)) (tail.dropWhile continuesName) := by
        refine .name (fun p after hp ht ↦ ?_) hc (List.all_eq_true.mp List.all_takeWhile) ?_
        · rw [hsplit] at ht
          cases hp with
          | left => exact hleft after rfl ht
          | right => exact hright after rfl ht
        · intro d hd
          simpa [Option.mem_def.mp hd] using List.head?_dropWhile_not continuesName tail
      rwa [hsplit] at hname
    · rename_i hc
      rw [Bool.not_eq_true] at hc
      split at h <;> first
        | contradiction
        | (obtain ⟨rfl, rfl⟩ := Prod.mk.inj (Option.some.inj h)
           exact .sign hc (by constructor))

/-- A token at the front of a text is read. -/
theorem read?_of_leads {cs rest : List Char} {t : SelectorToken}
    (h : Leads cs t rest) : read? cs = some (t, rest) := by
  cases h with
  | @mark c p _ hp =>
    unfold read?
    split
    · rename_i heq
      cases heq
    · rename_i heq
      cases heq
      cases hp
      rfl
    · rename_i heq
      cases heq
      cases hp
      rfl
    · rename_i hleft hright heq
      cases heq
      cases hp with
      | left => exact (hleft _ rfl rfl).elim
      | right => exact (hright _ rfl rfl).elim
  | @name c tail _ hmark hc htail hrest =>
    have hstop : rest.takeWhile continuesName = [] ∧ rest.dropWhile continuesName = rest := by
      cases rest with
      | nil => exact ⟨rfl, rfl⟩
      | cons d rest =>
        have hd := hrest d rfl
        exact ⟨List.takeWhile_cons_of_neg (by simp [hd]), List.dropWhile_cons_of_neg (by simp [hd])⟩
    have htake : (tail ++ rest).takeWhile continuesName = tail := by
      rw [List.takeWhile_append_of_pos htail, hstop.1, List.append_nil]
    have hdrop : (tail ++ rest).dropWhile continuesName = rest := by
      rw [List.dropWhile_append_of_pos htail, hstop.2]
    unfold read?
    split
    · rename_i heq
      cases heq
    · rename_i heq
      obtain ⟨rfl, ht⟩ := List.cons.inj heq
      exact absurd ht (hmark _ _ .left)
    · rename_i heq
      obtain ⟨rfl, ht⟩ := List.cons.inj heq
      exact absurd ht (hmark _ _ .right)
    · rename_i heq
      obtain ⟨rfl, rfl⟩ := List.cons.inj heq
      rw [if_pos hc, htake, hdrop]
  | @sign c t _ hc ht =>
    unfold read?
    split
    · rename_i heq
      cases heq
    · rename_i heq
      obtain ⟨rfl, -⟩ := List.cons.inj heq
      cases ht
    · rename_i heq
      obtain ⟨rfl, -⟩ := List.cons.inj heq
      cases ht
    · rename_i heq
      obtain ⟨rfl, rfl⟩ := List.cons.inj heq
      rw [if_neg (Bool.not_eq_true _ ▸ hc)]
      cases ht <;> rfl

/-- **A token is read just if it stands at the front of the text**, and what is left is what follows
it. -/
theorem read?_eq_some_iff {cs rest : List Char} {t : SelectorToken} :
    read? cs = some (t, rest) ↔ Leads cs t rest :=
  ⟨leads_of_read?, read?_of_leads⟩

/-- Nothing is read just if there is no token at the front of the text. -/
theorem read?_eq_none_iff {cs : List Char} :
    read? cs = none ↔ ∀ t rest, ¬ Leads cs t rest := by
  simp only [Option.eq_none_iff_forall_ne_some, ne_eq, Prod.forall, read?_eq_some_iff]

/-! ### All tokens -/

/-- Tokens that are found make up the text. -/
theorem lexes_of_tokenize {position : Nat} {cs : List Char} {pts : List (Nat × SelectorToken)}
    (h : tokenize position cs = .ok pts) : Lexes cs (pts.map (·.2)) := by
  fun_induction tokenize position cs generalizing pts with
  | case1 =>
    cases h
    exact .nil
  | case2 position c tail t rest hread ts hts ih =>
    cases h
    exact .token (leads_of_read? hread) (ih hts)
  | case3 => cases h
  | case4 position c tail hread hblank ih => exact .blank (read?_eq_none_iff.mp hread) hblank (ih h)
  | case5 => cases h

/-- Tokens that make up a text are found in it. -/
theorem tokenize_of_lexes {cs : List Char} {ts : List SelectorToken} (h : Lexes cs ts)
    (position : Nat) : ∃ pts, tokenize position cs = .ok pts ∧ pts.map (·.2) = ts := by
  induction h generalizing position with
  | nil => exact ⟨[], by rw [tokenize], rfl⟩
  | @token cs rest t ts ht _ ih =>
    have hread := read?_of_leads ht
    cases cs with
    | nil => cases ht
    | cons c tail =>
      obtain ⟨pts, hpts, rfl⟩ := ih (position + (byteLength (c :: tail) - byteLength rest))
      refine ⟨(position, t) :: pts, ?_, rfl⟩
      unfold tokenize
      split
      · rename_i t' rest' hread'
        obtain ⟨rfl, rfl⟩ := Prod.mk.inj (Option.some.inj (hread.symm.trans hread'))
        rw [hpts]
      · simp_all
  | @blank c cs ts hnone hblank _ ih =>
    obtain ⟨pts, hpts, rfl⟩ := ih (position + c.utf8Size)
    refine ⟨pts, ?_, rfl⟩
    have hread := read?_eq_none_iff.mpr hnone
    unfold tokenize
    split
    · simp_all
    · rw [if_pos hblank, hpts]

/-- **The reader finds the tokens of a text**: it succeeds exactly on the texts that split into
tokens, with these tokens. -/
theorem exists_tokenize_iff {position : Nat} {cs : List Char} {ts : List SelectorToken} :
    (∃ pts, tokenize position cs = .ok pts ∧ pts.map (·.2) = ts) ↔ Lexes cs ts := by
  constructor
  · rintro ⟨pts, h, rfl⟩
    exact lexes_of_tokenize h
  · exact fun h ↦ tokenize_of_lexes h position

/-- A text splits into tokens in one way only. -/
theorem Lexes.unique {cs : List Char} {ts us : List SelectorToken}
    (h : Lexes cs ts) (h' : Lexes cs us) : ts = us := by
  obtain ⟨pts, hpts, rfl⟩ := tokenize_of_lexes h 0
  obtain ⟨pus, hpus, rfl⟩ := tokenize_of_lexes h' 0
  rw [Except.ok.inj (hpts.symm.trans hpus)]

/-! ### Texts put together -/

variable {c : Char} {cs ds rest : List Char} {t : SelectorToken} {ts us : List SelectorToken}

/-- The letter of a mark could begin a name as well. -/
theorem beginsName_of_isMark {p : Precedence} (h : IsMark c p) : beginsName c = true := by
  rw [beginsName, Bool.or_eq_true]
  right
  cases h with
  | left => exact isWord_of_letter (by decide)
  | right => exact isWord_of_letter (by decide)

/-- A sign begins no name. -/
theorem beginsName_of_isSign (h : IsSign c t) : beginsName c = false := by
  cases h <;> simp [beginsName, isWord_eq_false]

/-- A sign goes on with no name, except for the hyphen. -/
theorem continuesName_of_isSign (h : IsSign c t) (ht : t ≠ .minus) : continuesName c = false := by
  cases h <;> simp_all [continuesName, isWord_eq_false]

/-- Whether a token stands at the head of a text is a matter of the first character alone. -/
theorem exists_leads_iff :
    (∃ t rest, Leads (c :: cs) t rest) ↔ beginsName c = true ∨ ∃ t, IsSign c t := by
  constructor
  · rintro ⟨t, rest, h⟩
    cases h with
    | mark hp => exact .inl (beginsName_of_isMark hp)
    | name _ hc _ _ => exact .inl hc
    | sign _ ht => exact .inr ⟨t, ht⟩
  · rintro (hc | ⟨t, ht⟩)
    · cases h : read? (c :: cs) with
      | some q => exact ⟨q.1, q.2, leads_of_read? h⟩
      | none =>
        unfold read? at h
        split at h <;> simp_all
    · exact ⟨t, cs, .sign (beginsName_of_isSign ht) ht⟩

/-- A token stays what it is if the text after it cannot go on with a name or complete a mark. -/
theorem Leads.append (h : Leads cs t rest)
    (hds : ∀ d ∈ ds.head?, continuesName d = false ∧ d ≠ ':') :
    Leads (cs ++ ds) t (rest ++ ds) := by
  cases h with
  | mark hp => exact .mark hp
  | sign hc ht => exact .sign hc ht
  | @name c tail _ hmark hc htail hrest =>
    rw [List.cons_append, List.append_assoc]
    refine .name (fun p after hp ht ↦ ?_) hc htail ?_
    · rw [← List.append_assoc] at ht
      rcases hsame : tail ++ rest with _ | ⟨d, more⟩
      · rw [hsame, List.nil_append] at ht
        exact (hds ':' (by rw [ht]; rfl)).2 rfl
      · rw [hsame, List.cons_append] at ht
        exact hmark p more hp (by rw [hsame, (List.cons.inj ht).1])
    · cases rest with
      | nil => exact fun d hd ↦ (hds d hd).1
      | cons d rest => exact hrest

/-- Texts can be put together if no name and no mark goes on from one into the other. -/
theorem Lexes.append (h : Lexes cs ts) (h' : Lexes ds us)
    (hds : ∀ d ∈ ds.head?, continuesName d = false ∧ d ≠ ':') : Lexes (cs ++ ds) (ts ++ us) := by
  induction h with
  | nil => exact h'
  | token hleads _ ih => exact .token (hleads.append hds) ih
  | blank hnone hblank _ ih =>
    refine .blank (fun t rest hleads ↦ ?_) hblank ih
    obtain ⟨t', rest', hleads'⟩ := exists_leads_iff.mpr (exists_leads_iff.mp ⟨t, rest, hleads⟩)
    exact hnone t' rest' hleads'

theorem Lexes.sign (h : IsSign c t) (h' : Lexes cs ts) : Lexes (c :: cs) (t :: ts) :=
  .token (.sign (beginsName_of_isSign h) h) h'

/-- **No token goes over a seam** at which a sign stands, unless it is the minus sign. -/
theorem Lexes.append_sign (h : Lexes cs ts) (hs : IsSign c t) (ht : t ≠ .minus) (h' : Lexes ds us) :
    Lexes (cs ++ c :: ds) (ts ++ t :: us) := by
  refine h.append (.sign hs h') fun d hd ↦ ?_
  obtain rfl : c = d := Option.some.inj hd
  exact ⟨continuesName_of_isSign hs ht, by rintro rfl; cases hs⟩

/-- A small letter that nothing goes on with is a name. -/
theorem leads_letter {d : Char} (hc : 0x61 ≤ c.toNat ∧ c.toNat ≤ 0x7A)
    (hd : continuesName d = false) : Leads (c :: d :: rest) (.name [c]) (d :: rest) := by
  have hbegins : beginsName c = true := by
    rw [beginsName, isWord_of_letter (.inr hc), Bool.or_true]
  refine @Leads.name c [] (d :: rest) (fun p after hp ↦ ?_) hbegins nofun (by simpa using hd)
  cases hp with
  | left => exact absurd hc (by decide)
  | right => exact absurd hc (by decide)

/-- A space before a text makes no difference. -/
theorem Lexes.space (h : Lexes cs ts) : Lexes (' ' :: cs) ts := by
  refine .blank (fun t rest hleads ↦ ?_) rfl h
  rcases exists_leads_iff.mp ⟨t, rest, hleads⟩ with hbegins | ⟨t, ht⟩
  · simp [beginsName, isWord_eq_false] at hbegins
  · cases ht

/-- The marks of a text ask for one of the two sides. -/
theorem Lexes.mark_default_not_mem (h : Lexes cs ts) : .mark .default ∉ ts := by
  induction h with
  | nil => exact List.not_mem_nil
  | blank _ _ _ ih => exact ih
  | token hleads _ ih =>
    refine fun hmem ↦ (List.mem_cons.mp hmem).elim (fun heq ↦ ?_) ih
    subst heq
    cases hleads with
    | mark hp => cases hp
    | sign _ ht => cases ht

/-! ### Positions -/

/-- Reading a token leaves no more text than there was. -/
theorem byteLength_le_of_read? {cs rest : List Char} {t : SelectorToken}
    (h : read? cs = some (t, rest)) : byteLength rest ≤ byteLength cs := by
  cases leads_of_read? h with
  | mark => simp only [byteLength_cons]; omega
  | name => simp only [byteLength_cons, byteLength_append]; omega
  | sign => simp only [byteLength_cons]; omega

/-- Every position that the reader gives, of a token or of a refused character, is one of the
text. -/
theorem position_le_of_tokenize (position : Nat) (cs : List Char) :
    match tokenize position cs with
    | .ok pts => ∀ q ∈ pts, q.1 ≤ position + byteLength cs
    | .error p => p ≤ position + byteLength cs := by
  fun_induction tokenize position cs with
  | case1 => simp
  | case2 position c tail t rest hread ts hts ih =>
    have hle := byteLength_le_of_read? hread
    simp only [hts] at ih
    simp only [List.mem_cons, forall_eq_or_imp]
    exact ⟨Nat.le_add_right .., fun q hq ↦ Nat.le_trans (ih q hq) (by omega)⟩
  | case3 position c tail t rest hread p hp ih =>
    have hle := byteLength_le_of_read? hread
    simp only [hp] at ih
    exact Nat.le_trans ih (by omega)
  | case4 position c tail hread hblank ih =>
    rw [byteLength_cons, ← Nat.add_assoc]
    exact ih
  | case5 position c tail => exact Nat.le_add_right ..

end SelectorToken

end ScopeGrammar
