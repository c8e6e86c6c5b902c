import ScopeGrammar.Text.Lines

/-!
# Lines and their terminators

A text can be brought to line feeds as its only terminators (`withLineFeeds`). Its lines are then as
many as before, and each has the content that it had (`map_lineContent_linesOf_withLineFeeds`): the
splitter takes a carriage return and a line feed after it for one terminator, as the replacement
does, and of a terminator nothing is left in the content of a line.
-/

namespace ScopeGrammar

/-- The text with a line feed in the place of each carriage return. A line feed after the carriage
return goes with it. -/
def withLineFeeds : List Char → List Char
  | [] => []
  | '\r' :: '\n' :: cs => '\n' :: withLineFeeds cs
  | '\r' :: cs => '\n' :: withLineFeeds cs
  | c :: cs => c :: withLineFeeds cs

variable {c : Char}

theorem withLineFeeds_cons (hr : c ≠ '\r') (cs : List Char) :
    withLineFeeds (c :: cs) = c :: withLineFeeds cs :=
  withLineFeeds.eq_4 c cs (fun _ hc _ ↦ hr hc) hr

theorem linesOf_cons (hn : c ≠ '\n') (hr : c ≠ '\r') (cs : List Char) :
    linesOf (c :: cs) = consLine c (linesOf cs) :=
  linesOf.eq_5 c cs hn (fun _ hc _ ↦ hr hc) hr

/-- A character that ends no line belongs to the content of its line. -/
theorem lineContent_cons (hn : c ≠ '\n') (hr : c ≠ '\r') (line : List Char) :
    lineContent (c :: line) = c :: lineContent line := by
  obtain ⟨reversed, rfl⟩ : ∃ reversed : List Char, line = reversed.reverse :=
    ⟨line.reverse, line.reverse_reverse.symm⟩
  rw [lineContent, lineContent, List.reverse_cons, List.reverse_reverse]
  -- the terminator is at the other end of the line, where the character is too far away to count
  rcases reversed with _ | ⟨d, rest⟩
  · simp [hn, hr]
  · by_cases hd : d = '\n'
    · subst hd
      rcases rest with _ | ⟨e, rest⟩
      · simp [hr]
      · by_cases he : e = '\r'
        · simp [he]
        · simp [he]
    · by_cases hd' : d = '\r'
      · simp [hd']
      · simp [hd, hd']

theorem map_lineContent_consLine (hn : c ≠ '\n') (hr : c ≠ '\r') (lines : List (List Char)) :
    (consLine c lines).map lineContent = consLine c (lines.map lineContent) := by
  cases lines with
  | nil => exact congrArg (fun line ↦ [line]) (lineContent_cons hn hr [])
  | cons line lines =>
    rw [consLine, List.map_cons, List.map_cons, consLine, lineContent_cons hn hr]

/-- **Lines keep their content when their terminators are replaced**, and none is gained or lost. -/
theorem map_lineContent_linesOf_withLineFeeds (cs : List Char) :
    (linesOf (withLineFeeds cs)).map lineContent = (linesOf cs).map lineContent := by
  fun_induction linesOf cs with
  | case1 => rfl
  | case2 cs ih =>
    rw [withLineFeeds_cons (by decide), linesOf, List.map_cons, List.map_cons, ih]
  | case3 cs ih =>
    rw [withLineFeeds, linesOf, List.map_cons, List.map_cons, ih]
    rfl
  | case4 cs hcs ih =>
    rw [withLineFeeds.eq_3 cs hcs, linesOf, List.map_cons, List.map_cons, ih]
    rfl
  | case5 c cs hn _ hr ih =>
    rw [withLineFeeds_cons hr, linesOf_cons hn hr, map_lineContent_consLine hn hr, ih,
      map_lineContent_consLine hn hr]

example : withLineFeeds "a\r\n\rb\r\r\n".toList = "a\n\nb\n\n".toList := by decide

end ScopeGrammar
