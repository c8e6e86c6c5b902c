import ScopeGrammar.Fault

/-!
# Computations that find no fault

`Faultless x Q` says that the computation `x` finds no condition broken and that `Q` holds of its
result. A sequence of such computations is one again, when each of them only needs what is known of
the results before it.
-/

namespace ScopeGrammar

/-- A sequence has a result if its first part has one and the second part one for it. -/
theorem exists_of_bind_eq_ok {ε α β : Type} {x : Except ε α} {f : α → Except ε β} {b : β}
    (h : x >>= f = .ok b) : ∃ a, x = .ok a ∧ f a = .ok b := by
  cases x with
  | ok a => exact ⟨a, rfl, h⟩
  | error e => cases h

/-- A computation for each of some items has results if it has one for the first and for each of the
others. -/
theorem exists_of_mapM_cons_eq_ok {ε α β : Type} {f : α → Except ε β} {a : α} {items : List α}
    {results : List β} (h : (a :: items).mapM f = .ok results) :
    ∃ b rest, f a = .ok b ∧ items.mapM f = .ok rest ∧ results = b :: rest := by
  rw [List.mapM_cons] at h
  obtain ⟨b, hb, h⟩ := exists_of_bind_eq_ok h
  obtain ⟨rest, hrest, h⟩ := exists_of_bind_eq_ok h
  exact ⟨b, rest, hb, hrest, (Except.ok.inj h).symm⟩

/-- No fault is found, and the result is as stated. -/
def Faultless {α : Type} (x : Except Fault α) (Q : α → Prop) : Prop :=
  ∃ a, x = .ok a ∧ Q a

variable {α β : Type} {Q : α → Prop} {R : β → Prop}

theorem faultless_ok {a : α} (h : Q a) : Faultless (.ok a) Q :=
  ⟨a, rfl, h⟩

theorem faultless_pure {a : α} (h : Q a) : Faultless (pure a) Q :=
  ⟨a, rfl, h⟩

theorem faultless_of_eq {x : Except Fault α} {a : α} (h : x = .ok a) : Faultless x (· = a) :=
  ⟨a, h, rfl⟩

/-- The result that there is is as stated. -/
theorem Faultless.of_eq_ok {x : Except Fault α} {a : α} (h : Faultless x Q) (heq : x = .ok a) :
    Q a := by
  obtain ⟨b, hb, hQ⟩ := h
  rwa [Except.ok.inj (heq.symm.trans hb)]

/-- Less can be stated of a result. -/
theorem Faultless.mono {Q' : α → Prop} {x : Except Fault α} (hx : Faultless x Q)
    (h : ∀ a, Q a → Q' a) : Faultless x Q' := by
  obtain ⟨a, hx, ha⟩ := hx
  exact ⟨a, hx, h a ha⟩

/-- **A sequence is faultless if its parts are.** -/
theorem Faultless.bind {x : Except Fault α} {f : α → Except Fault β} (hx : Faultless x Q)
    (hf : ∀ a, Q a → Faultless (f a) R) : Faultless (x >>= f) R := by
  obtain ⟨a, rfl, ha⟩ := hx
  exact hf a ha

/-- A computation on each of some items. -/
theorem faultless_mapM {f : α → Except Fault β} {items : List α}
    (hf : ∀ a ∈ items, Faultless (f a) R) : Faultless (items.mapM f) fun bs ↦ ∀ b ∈ bs, R b := by
  induction items with
  | nil =>
    rw [List.mapM_nil]
    exact faultless_pure fun b hb ↦ by cases hb
  | cons a items ih =>
    rw [List.mapM_cons]
    refine (hf a List.mem_cons_self).bind fun b hb ↦ ?_
    refine (ih fun a' h ↦ hf a' (List.mem_cons_of_mem _ h)).bind fun bs hbs ↦ ?_
    exact faultless_pure (List.forall_mem_cons.2 ⟨hb, hbs⟩)

end ScopeGrammar
