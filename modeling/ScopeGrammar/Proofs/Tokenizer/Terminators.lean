import ScopeGrammar.Proofs.Text.Lines
import ScopeGrammar.Tokenizer.Session

/-!
# Terminators are not seen

A line is searched as its content and a line feed, whatever ended it in its document
(`LineText.eq_of_content_eq`). So lines of the same content are tokenized the same way, from the
same session and to the same session (`Session.tokenizeLine_congr`), and this goes on from line to
line. With it a text can have its terminators replaced before it is tokenized
(`Registry.tokenizeText_withLineFeeds`).

The lines that a session holds for later calls are not looked at while a line is tokenized, so that
sessions that differ in them come to the same (`Session.tokenizeLine_withLines`).
-/

namespace ScopeGrammar

/-- What is searched for a line is determined by its content. -/
theorem LineText.eq_of_content_eq {line line' : LineText} (h : line.content = line'.content) :
    line = line' := by
  obtain ⟨content, _, _, _, _, rfl, rfl, rfl, rfl⟩ := line
  obtain ⟨content', _, _, _, _, rfl, rfl, rfl, rfl⟩ := line'
  obtain rfl : content = content' := h
  rfl

namespace Session

variable (s : Session) (r : Registry) (fuel : Nat)

/-- Lines of the same content are tokenized the same way. -/
theorem tokenizeLine_congr {line line' : String}
    (h : lineContent line.toList = lineContent line'.toList) :
    s.tokenizeLine r line fuel = s.tokenizeLine r line' fuel := by
  have hline : LineText.ofLine line = .ofLine line' := LineText.eq_of_content_eq h
  rw [tokenizeLine, tokenizeLine, hline]

/-- A session with other lines for later calls. -/
def withLines (lines : Array String) : Session :=
  { s with lines := lines }

/-- The lines of later calls do not matter, and are kept. -/
theorem tokenizeLine_withLines (lines : Array String) (line : String) :
    (s.withLines lines).tokenizeLine r line fuel =
      { s.tokenizeLine r line fuel with
        session := (s.tokenizeLine r line fuel).session.withLines lines } := by
  rw [tokenizeLine, tokenizeLine]
  show (if s.lost then _ else _) = _
  split <;> rfl

/-- A session starts in the same way over other lines. -/
theorem ofLines_withLines (base : GrammarId) (lines lines' : List String) (E : Engine) :
    ofLines r base lines' E = (ofLines r base lines E).map (·.withLines lines'.toArray) := by
  rw [ofLines, ofLines]
  cases r.grammar base with
  | error fault => rfl
  | ok g =>
    cases r.injectionsFor base with
    | error fault => rfl
    | ok injections => rfl

/-- **Documents whose lines have the same contents are tokenized the same way.** -/
theorem tokenizeLines_congr (lines : Array String) {document document' : List String}
    (h : document.map (lineContent ·.toList) = document'.map (lineContent ·.toList)) :
    s.tokenizeLines r fuel document = (s.withLines lines).tokenizeLines r fuel document' := by
  induction document generalizing s r document' with
  | nil =>
    obtain rfl := List.map_eq_nil_iff.1 h.symm
    rfl
  | cons line document ih =>
    obtain ⟨line', document', rfl, hline, hdocument⟩ := List.map_eq_cons_iff.1 h.symm
    rw [tokenizeLines, tokenizeLines, tokenizeLine_withLines, tokenizeLine_congr s r fuel hline]
    dsimp only
    split
    · rfl
    · rw [ih _ _ hdocument.symm]

end Session

/-- **Line terminators do not matter.** A text is tokenized like the one with a line feed for each
of its terminators, with any registry: the tokens of the lines are the same, or the failure is, and
so are the patterns that are left filled in, and the log. -/
theorem Registry.tokenizeText_withLineFeeds (r : Registry) (name text : String) (fuel : Nat)
    (E : Engine) :
    r.tokenizeText name (.ofList (withLineFeeds text.toList)) fuel E =
      r.tokenizeText name text fuel E := by
  have hlines : (splitLines text).map (lineContent ·.toList) =
      (splitLines (.ofList (withLineFeeds text.toList))).map (lineContent ·.toList) := by
    have hcontents := map_lineContent_linesOf_withLineFeeds text.toList
    simpa [splitLines, Function.comp_def] using hcontents.symm
  rw [tokenizeText, tokenizeText]
  cases r.id? name with
  | none => rfl
  | some id =>
    dsimp only
    rw [Session.ofText, Session.ofText, Session.ofLines_withLines r id (splitLines text)]
    cases Session.ofLines r id (splitLines text) E with
    | error fault => rfl
    | ok s => exact (Session.tokenizeLines_congr s r fuel _ hlines).symm

end ScopeGrammar
