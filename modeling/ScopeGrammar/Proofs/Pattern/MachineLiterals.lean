import ScopeGrammar.Proofs.Pattern.Occurrences
import ScopeGrammar.Proofs.Pattern.Spelling

/-!
# The machine on literal texts

The engine of the library reads literal texts as it is assumed of engines
(`Engine.machine_readsLiterals`). A pattern that spells a text is read as one text, since all its
characters are taken as literals (`parse_of_spells`). Its program takes the text run by run and has
no choices, so that a run of it at a position succeeds exactly if the text is there
(`Thread.run_textCode`), and a search tries all positions in order.
-/

namespace ScopeGrammar

/-! ### Reading -/

namespace PatternParser

variable {st : PatternReading}

/-- The escape of a character with a meaning of its own is the character. -/
theorem step_escaped {c : Char} (hc : needsEscape c = true) (cs : List Char) :
    step st '\\' (c :: cs) = .ok (st.pushLiteral c, cs) := by
  rw [needsEscape, decide_eq_true_iff] at hc
  simp only [List.mem_cons, List.not_mem_nil, or_false] at hc
  rcases hc with rfl | rfl | rfl | rfl | rfl | rfl | rfl | rfl | rfl | rfl | rfl | rfl | rfl | rfl |
    rfl | rfl | rfl | rfl | rfl | rfl | rfl | rfl <;> rfl

/-- A character without a meaning of its own is a literal. -/
theorem step_plain {c : Char} (hc : needsEscape c = false) (hst : st.options.extended = false)
    (cs : List Char) : step st c cs = .ok (st.pushLiteral c, cs) := by
  unfold step
  split
  case h_13 =>
    rw [hst]
    rfl
  all_goals exact absurd hc (by decide)

/-- A literal is pushed before those that follow it. -/
theorem run_of_step {c d : Char} {cs rest text : List Char} {fuel : Nat}
    (hstep : step st c cs = .ok (st.pushLiteral d, rest))
    (hrest : run fuel (st.pushLiteral d) rest =
      .ok { st.pushLiteral d with
        literals := (text.map Char.toNat).reverse ++ (st.pushLiteral d).literals }) :
    run (fuel + 1) st (c :: cs) =
      .ok { st with literals := ((d :: text).map Char.toNat).reverse ++ st.literals } := by
  rw [run, hstep]
  refine hrest.trans ?_
  simp [PatternReading.pushLiteral]

/-- The characters of a text are pushed one after the other. -/
theorem run_of_spells {pattern text : List Char} (h : Spells pattern text) {fuel : Nat}
    (hfuel : pattern.length ≤ fuel) (hst : st.options.extended = false) :
    run fuel st pattern =
      .ok { st with literals := (text.map Char.toNat).reverse ++ st.literals } := by
  induction h generalizing fuel st with
  | nil => cases fuel <;> rfl
  | @escaped c pattern text hc _ ih =>
    obtain ⟨fuel, rfl⟩ : ∃ n, fuel = n + 1 := ⟨fuel - 1, by simp at hfuel; omega⟩
    exact run_of_step (step_escaped hc pattern) (ih (by simp at hfuel; omega) hst)
  | @plain c pattern text hc _ ih =>
    obtain ⟨fuel, rfl⟩ : ∃ n, fuel = n + 1 := ⟨fuel - 1, by simp at hfuel; omega⟩
    exact run_of_step (step_plain hc hst pattern) (ih (by simp at hfuel; omega) hst)

end PatternParser

/-- **A pattern that spells a text is read as the text.** -/
theorem parse_of_spells {pattern text : List Char} (h : Spells pattern text) :
    Pattern.parse pattern = .ok (.text (text.map Char.toNat) false, 0) := by
  have hrun := @PatternParser.run_of_spells {} pattern text h _ (Nat.le_succ _) rfl
  rw [Pattern.parse, hrun, List.append_nil]
  obtain ⟨codes, hcodes⟩ : ∃ codes : List Nat, text.map Char.toNat = codes.reverse :=
    ⟨_, (List.reverse_reverse _).symm⟩
  rw [hcodes, List.reverse_reverse]
  cases codes with
  | nil => rfl
  | cons n codes => rfl

/-! ### Programs -/

/-- The code that takes some runs of code points one after the other. -/
def textCode (runs : List (List Nat)) : Array Instruction :=
  (runs.map Instruction.text ++ [Instruction.accept]).toArray

/-- A text is cut into runs that make it up. -/
theorem exists_textRuns_eq (codes : List Nat) :
    ∃ runs : List (List Nat), Pattern.textRuns codes = runs.map .text ∧ runs.flatten = codes := by
  induction codes with
  | nil => exact ⟨[], rfl, rfl⟩
  | cons c codes ih =>
    obtain ⟨runs, hruns, rfl⟩ := ih
    rw [Pattern.textRuns, hruns]
    rcases runs with _ | ⟨_ | ⟨d, ds⟩, runs⟩
    · exact ⟨[[c]], rfl, rfl⟩
    · exact ⟨[c] :: [] :: runs, rfl, rfl⟩
    · by_cases hsize : codeSize c = codeSize d
      · exact ⟨(c :: d :: ds) :: runs, by simp [hsize], rfl⟩
      · exact ⟨[c] :: (d :: ds) :: runs, by simp [hsize], rfl⟩

/-- The program of a text takes the runs of the text, and has no choices. -/
theorem exists_ofPattern_text (codes : List Nat) :
    ∃ runs : List (List Nat), runs.flatten = codes ∧
      Program.ofPattern (.text codes false) 0 = .ok ⟨textCode runs, 0, .none⟩ := by
  obtain ⟨runs, hruns, hcodes⟩ := exists_textRuns_eq codes
  refine ⟨runs, hcodes, ?_⟩
  have hcode : ∀ f, (Pattern.text codes false).code f none false = runs.map .text := by
    intro f
    rw [Pattern.code, hruns]
  have hchoice : (runs.map Instruction.text).any (·.leavesChoice) = false := by
    simp [Instruction.leavesChoice]
  have hresolve : (Pattern.text codes false).resolve = .ok (.text codes false) := rfl
  rw [Program.ofPattern, hresolve]
  simp only [bind, Except.bind, pure, Except.pure, hcode, hchoice, textCode, Bool.false_eq_true,
    if_false]

/-- A pattern that spells a text is compiled to the program of the text. -/
theorem exists_readProgram_of_spells {pattern text : List Char} (h : Spells pattern text) :
    ∃ runs : List (List Nat), runs.flatten = text.map Char.toNat ∧
      readProgram pattern = .ok ⟨textCode runs, 0, .none⟩ := by
  obtain ⟨runs, hcodes, hprogram⟩ := exists_ofPattern_text (text.map Char.toNat)
  refine ⟨runs, hcodes, ?_⟩
  rw [readProgram, parse_of_spells h]
  exact hprogram

/-! ### Runs -/

namespace Window

variable {w : Window} {limit p : Nat}

theorem skipCodes?_append (ms ns : List Nat) :
    w.skipCodes? limit p (ms ++ ns) =
      (w.skipCodes? limit p ms).bind fun q ↦ w.skipCodes? limit q ns := by
  induction ms generalizing p with
  | nil => rfl
  | cons m ms ih =>
    rw [List.cons_append, skipCodes?, skipCodes?]
    cases w.charAt? limit p with
    | none => rfl
    | some c =>
      by_cases hc : c.toNat = m
      · simp only [if_pos hc, ih]
      · simp only [if_neg hc, Option.bind_none]

theorem after?_eq_some_iff {c : Char} :
    w.after? p = some c ↔ p < w.stop ∧ w.text.chars.toList[p]? = some c := by
  rw [after?, charAt?]
  split_ifs with hsize hstop
  · simp [hstop, hsize]
  · simp [hstop]
  · simp [hsize]

theorem hasText_nil : w.hasText [] p = true ↔ p ≤ w.stop := by
  rw [hasText_iff]
  simp

theorem hasText_cons {c : Char} {text : List Char} :
    w.hasText (c :: text) p = true ↔ w.after? p = some c ∧ w.hasText text (p + 1) = true := by
  rw [hasText_iff, hasText_iff, after?_eq_some_iff, List.length_cons]
  constructor
  · rintro ⟨hlen, rest, hrest⟩
    have hget : w.text.chars.toList[p]? = some c := by
      rw [← List.head?_drop, ← hrest]
      rfl
    refine ⟨⟨by omega, hget⟩, by omega, rest, ?_⟩
    rw [← List.tail_drop, ← hrest]
    rfl
  · rintro ⟨⟨-, hget⟩, hlen, rest, hrest⟩
    refine ⟨by omega, rest, ?_⟩
    rw [List.drop_eq_getElem?_toList_append, hget, ← hrest]
    rfl

/-- The code points of a text are skipped where the text is. -/
theorem skipCodes?_map_toNat (hp : p ≤ w.stop) (text : List Char) :
    w.skipCodes? w.stop p (text.map Char.toNat) =
      if w.hasText text p = true then some (p + text.length) else none := by
  induction text generalizing p with
  | nil => rw [if_pos (hasText_nil.mpr hp)]; rfl
  | cons c text ih =>
    rw [List.map_cons, skipCodes?]
    simp only [hasText_cons]
    rw [show w.charAt? w.stop p = w.after? p from rfl]
    cases hafter : w.after? p with
    | none => simp
    | some d =>
      have hlt : p < w.stop := (after?_eq_some_iff.mp hafter).1
      simp only [ih (p := p + 1) hlt, Char.toNat_inj, Option.some.injEq, List.length_cons,
        Nat.add_assoc, Nat.add_comm 1]
      by_cases hd : d = c <;> simp [hd]

end Window

namespace Thread

variable {w : Window} {before runs : List (List Nat)}

theorem getElem?_textCode (run : List Nat) :
    (textCode (before ++ run :: runs))[before.length]? = some (.text run) := by
  simp [textCode]

theorem getElem?_textCode_end : (textCode before)[before.length]? = some .accept := by
  simp [textCode]

theorem step_text {program : Array Instruction} {t : Thread} {codes : List Nat}
    (h : program[t.pc]? = some (.text codes)) :
    t.step program w =
      match w.skipCodes? t.registers.limit t.pos codes with
      | some p => t.nextAt p
      | none => .retreat t := by
  cases hskip : w.skipCodes? t.registers.limit t.pos codes with
  | some p => simp only [step, h, hskip]
  | none => simp only [step, h, hskip]

/-- **A run of the code of a text** ends after the text, if it comes next, and fails otherwise. -/
theorem run_textCode {t : Thread} {fuel : Nat}
    (hpc : t.pc = before.length) (hpending : t.pending = []) (hfuel : runs.length < fuel) :
    t.run (textCode (before ++ runs)) w fuel 0 =
      match w.skipCodes? t.registers.limit t.pos runs.flatten with
      | some q => .matched { t with pc := before.length + runs.length, pos := q }
      | none => .mismatch := by
  induction runs generalizing before t fuel with
  | nil =>
    obtain ⟨fuel, rfl⟩ := Nat.exists_eq_add_of_lt hfuel
    rw [run, step, List.append_nil, hpc, getElem?_textCode_end]
    simp [Window.skipCodes?, ← hpc]
  | cons codes runs ih =>
    obtain ⟨fuel, rfl⟩ : ∃ n, fuel = n + 1 := ⟨fuel - 1, by omega⟩
    have hcode : (textCode (before ++ codes :: runs))[t.pc]? = some (.text codes) :=
      hpc ▸ getElem?_textCode codes
    rw [run, step_text hcode, List.flatten_cons, Window.skipCodes?_append]
    cases w.skipCodes? t.registers.limit t.pos codes with
    | none => simp [backtrack, backtrack.go, hpending, maxRetreats]
    | some q =>
      have hrest : run (textCode (before ++ [codes] ++ runs)) w fuel 0
          { t with pc := t.pc + 1, pos := q } = _ :=
        ih (by simp [hpc]) hpending (by simpa using hfuel)
      rw [List.append_assoc, List.singleton_append] at hrest
      refine hrest.trans ?_
      simp [Nat.add_assoc, Nat.add_comm 1]

end Thread

/-! ### Searches -/

section Search

variable {runs : List (List Nat)} {text : List Char} {w : Window}

/-- The program of a text matches at the positions where the text is. -/
theorem matchAt_textCode (hcodes : runs.flatten = text.map Char.toNat) {p : Nat} (hp : p ≤ w.stop) :
    let program : Program := ⟨textCode runs, 0, .none⟩
    program.matchAt w (program.threadAt w w.start) p =
      if w.hasText text p = true then
        .found ⟨p, p + text.length, program.noMarks, program.noMarks⟩
      else .nowhere := by
  intro program
  have hfuel : runs.length < runFuel program.code := by
    simp [runFuel, program, textCode]
    omega
  have hrun := @Thread.run_textCode w [] runs { program.threadAt w w.start with pos := p }
    (runFuel program.code) rfl rfl hfuel
  have hskip := Window.skipCodes?_map_toNat hp text
  rw [← hcodes] at hskip
  simp only [Program.threadAt, List.nil_append, hskip] at hrun
  simp only [Program.matchAt, Program.threadAt]
  rw [hrun]
  by_cases htext : w.hasText text p = true
  · have hstop := (Window.hasText_iff.mp htext).1
    simp [htext, hstop]
  · simp [htext]

/-- The leftmost of some positions at which the text is. -/
theorem searchFrom_textCode (hcodes : runs.flatten = text.map Char.toNat) {n p next : Nat}
    (hp : p + n ≤ w.stop + 1) :
    let program : Program := ⟨textCode runs, 0, .none⟩
    program.searchFrom w .all (program.threadAt w w.start) n p next =
      match (List.range' p n).find? (w.hasText text) with
      | some i => .found ⟨i, i + text.length, program.noMarks, program.noMarks⟩
      | none => .nowhere := by
  intro program
  induction n generalizing p with
  | zero => rfl
  | succ n ih =>
    rw [Program.searchFrom, Program.triesAt, List.range'_succ, List.find?_cons]
    simp only [program, matchAt_textCode hcodes (show p ≤ w.stop by omega)]
    cases htext : w.hasText text p with
    | true => rfl
    | false => exact ih (by omega)

end Search

/-- **The engine of the library finds a text that a pattern spells as it stands.** -/
theorem Engine.machine_denotes {pattern text : List Char} (h : Spells pattern text) :
    machine.Denotes pattern text := by
  obtain ⟨runs, hcodes, hread⟩ := exists_readProgram_of_spells h
  refine ⟨Program.matcher ⟨textCode runs, 0, .none⟩, ?_, ?_⟩
  · have hcompile : machine.compile pattern = (readProgram pattern).map Program.matcher := rfl
    rw [hcompile, hread]
    rfl
  · intro cs w hw
    have hsearch : Program.search ⟨textCode runs, 0, .none⟩ w = _ :=
      @searchFrom_textCode runs text w hcodes (w.stop + 1 - w.start) w.start w.start
        (by have := hw.start_le; omega)
    rw [Program.matcher, hsearch, literalMatcher_eq]
    cases (List.range' w.start (w.stop + 1 - w.start)).find? (w.hasText text) with
    | none => rfl
    | some i => rfl

/-- **The engine of the library reads literal texts as it is assumed of engines.** -/
theorem Engine.machine_readsLiterals : machine.ReadsLiterals where
  escaped hc := machine_denotes (.escaped hc .nil)
  plain hc := machine_denotes (.plain hc .nil)
  sequence hp hq _ _ := machine_denotes (hp.append hq)

end ScopeGrammar
