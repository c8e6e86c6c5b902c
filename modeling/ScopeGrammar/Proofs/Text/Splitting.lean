import Mathlib.Data.List.Chain
import ScopeGrammar.Proofs.Text.Lines

/-!
# The one way to split a text

What is expected of the lines of a text can be said without a splitter (`IsSplit`): together they
are the text, none is empty, all but the last end with exactly one terminator, none of the seams
between them goes through a carriage return with its line feed, and their content ends where
`contentEnd` says.

That leaves no choice (`isSplit_iff`). The proof goes through `Arranged`, which says the same from
the first line on: a row of lines that is arranged is what the splitter makes of the text they
spell, and what the splitter makes is arranged.
-/

namespace ScopeGrammar

/-- What ends a line. -/
inductive IsTerminator : List Char → Prop
  | lineFeed : IsTerminator ['\n']
  | both : IsTerminator ['\r', '\n']
  | carriageReturn : IsTerminator ['\r']

/-- Nothing in a text ends a line. -/
def IsUnbroken (cs : List Char) : Prop :=
  ∀ c ∈ cs, c ≠ '\r' ∧ c ≠ '\n'

/-- A line ends with a terminator and has no other. -/
def EndsWith (line terminator : List Char) : Prop :=
  IsTerminator terminator ∧ ∃ content, IsUnbroken content ∧ line = content ++ terminator

/-- Between a line and the next one a line feed is not torn from a carriage return. -/
def Untorn (line next : List Char) : Prop :=
  line.getLast? = some '\r' → next.head? ≠ some '\n'

/-- What is expected of the lines of a text. -/
structure IsSplit (text : String) (lines : List String) : Prop where
  join : String.join lines = text
  ne_empty : ∀ line ∈ lines, line ≠ ""
  terminated : ∀ line ∈ lines.dropLast, ∃ terminator, EndsWith line.toList terminator
  untorn : lines.IsChain fun line next ↦ Untorn line.toList next.toList
  /-- The content of a line ends where its terminator begins, or where the line ends. -/
  content : ∀ line ∈ lines, ∃ content rest,
    takeBytes? line.toList (contentEnd line) = some content ∧
    dropBytes? line.toList (contentEnd line) = some rest ∧
    IsUnbroken content ∧ (rest = [] ∨ EndsWith line.toList rest)

/-- Lines as they follow each other. Only the last one may do without a terminator. -/
inductive Arranged : List (List Char) → Prop
  | nil : Arranged []
  | last {content : List Char} : IsUnbroken content → content ≠ [] → Arranged [content]
  | cons {content terminator : List Char} {lines : List (List Char)} :
      IsUnbroken content → IsTerminator terminator →
      (terminator = ['\r'] → lines.flatten.head? ≠ some '\n') → Arranged lines →
      Arranged ((content ++ terminator) :: lines)

variable {c : Char} {content terminator rest line : List Char} {lines : List (List Char)}

theorem isUnbroken_nil : IsUnbroken [] :=
  nofun

/-- Text has no line break in it if its first character is none and the rest has none. -/
theorem isUnbroken_cons : IsUnbroken (c :: content) ↔ (c ≠ '\r' ∧ c ≠ '\n') ∧ IsUnbroken content :=
  List.forall_mem_cons

/-- A line break has at least one character. -/
theorem IsTerminator.ne_nil (h : IsTerminator terminator) : terminator ≠ [] := by
  cases h <;> exact List.cons_ne_nil _ _

/-- A line break that ends in a carriage return is that character alone. -/
theorem IsTerminator.getLast? (h : IsTerminator terminator)
    (hlast : terminator.getLast? = some '\r') : terminator = ['\r'] := by
  cases h with
  | lineFeed => cases hlast
  | both => cases hlast
  | carriageReturn => rfl

/-! ### The splitter -/

/-- What ends no line goes to the front of the first line. -/
theorem linesOf_append (h : IsUnbroken content) (cs : List Char) :
    linesOf (content ++ cs) = content.foldr consLine (linesOf cs) := by
  induction content with
  | nil => rfl
  | cons c content ih =>
    obtain ⟨hc, h⟩ := isUnbroken_cons.mp h
    rw [List.cons_append, linesOf_cons hc.2 hc.1, ih h, List.foldr_cons]

/-- Text without a line break is one line. -/
theorem foldr_consLine_nil (h : content ≠ []) : content.foldr consLine [] = [content] := by
  induction content with
  | nil => exact absurd rfl h
  | cons c content ih =>
    by_cases hnil : content = []
    · rw [hnil]
      rfl
    · rw [List.foldr_cons, ih hnil]
      rfl

/-- Text without a line break belongs to the line that follows it. -/
theorem foldr_consLine_cons :
    content.foldr consLine (line :: lines) = (content ++ line) :: lines := by
  induction content with
  | nil => rfl
  | cons c content ih =>
    rw [List.foldr_cons, ih]
    rfl

/-- A line break ends a line, unless it is a carriage return with a line feed behind it. -/
theorem linesOf_terminator (h : IsTerminator terminator) {cs : List Char}
    (hcs : terminator = ['\r'] → cs.head? ≠ some '\n') :
    linesOf (terminator ++ cs) = terminator :: linesOf cs := by
  cases h with
  | lineFeed => rfl
  | both => rfl
  | carriageReturn => exact linesOf.eq_4 cs fun cs' heq ↦ hcs rfl (by rw [heq]; rfl)

/-- **The splitter finds lines that are arranged.** -/
theorem linesOf_flatten (h : Arranged lines) : linesOf lines.flatten = lines := by
  induction h with
  | nil => rfl
  | @last content hcontent hne =>
    have hsplit := linesOf_append hcontent []
    rw [List.append_nil, linesOf, foldr_consLine_nil hne] at hsplit
    rw [List.flatten_singleton, hsplit]
  | cons hcontent hterminator hnext _ ih =>
    rw [List.flatten_cons, List.append_assoc, linesOf_append hcontent,
      linesOf_terminator hterminator hnext, ih, foldr_consLine_cons]

/-- Lines stay arranged when a character that breaks no line is put to their front. -/
theorem Arranged.consLine (h : Arranged lines) (hc : c ≠ '\r' ∧ c ≠ '\n') :
    Arranged (consLine c lines) := by
  cases h with
  | nil => exact .last (isUnbroken_cons.mpr ⟨hc, isUnbroken_nil⟩) (List.cons_ne_nil _ _)
  | last hcontent _ => exact .last (isUnbroken_cons.mpr ⟨hc, hcontent⟩) (List.cons_ne_nil _ _)
  | @cons content _ _ hcontent hterminator hnext hlines =>
    exact @Arranged.cons (c :: content) _ _ (isUnbroken_cons.mpr ⟨hc, hcontent⟩) hterminator hnext
      hlines

/-- **The lines that the splitter makes are arranged.** -/
theorem arranged_linesOf (cs : List Char) : Arranged (linesOf cs) := by
  fun_induction linesOf cs with
  | case1 => exact .nil
  | case2 cs ih => exact @Arranged.cons [] _ _ isUnbroken_nil .lineFeed (by simp) ih
  | case3 cs ih => exact @Arranged.cons [] _ _ isUnbroken_nil .both (by simp) ih
  | case4 cs hcs ih =>
    refine @Arranged.cons [] _ _ isUnbroken_nil .carriageReturn (fun _ hhead ↦ ?_) ih
    rw [flatten_linesOf] at hhead
    obtain ⟨cs', rfl⟩ := List.head?_eq_some_iff.mp hhead
    exact hcs cs' rfl
  | case5 c cs hn _ hr ih => exact ih.consLine ⟨hr, hn⟩

/-! ### Content -/

/-- The content of a line is what comes before its terminator. -/
theorem lineContent_append (hcontent : IsUnbroken content)
    (hrest : rest = [] ∨ IsTerminator rest) : lineContent (content ++ rest) = content := by
  induction content with
  | nil =>
    rcases hrest with rfl | hrest
    · rfl
    · cases hrest <;> rfl
  | cons c content ih =>
    obtain ⟨hc, hcontent⟩ := isUnbroken_cons.mp hcontent
    rw [List.cons_append, lineContent_cons hc.2 hc.1, ih hcontent]

/-! ### What is expected of each line -/

/-- A line has content and at most one terminator after it. -/
def HasContent (line : List Char) : Prop :=
  ∃ content rest, line = content ++ rest ∧ IsUnbroken content ∧ (rest = [] ∨ IsTerminator rest)

/-- Text begins as its first line does, if that is not empty. -/
theorem head?_flatten_of_ne_nil (h : line ≠ []) : (line :: lines).flatten.head? = line.head? := by
  rw [List.flatten_cons, List.head?_append_of_ne_nil _ h]

/-- No line is empty. -/
theorem Arranged.ne_nil (h : Arranged lines) : ∀ line ∈ lines, line ≠ [] := by
  induction h with
  | nil => exact nofun
  | last _ hne => exact List.forall_mem_singleton.mpr hne
  | cons _ hterminator _ _ ih =>
    exact List.forall_mem_cons.mpr ⟨List.append_ne_nil_of_right_ne_nil _ hterminator.ne_nil, ih⟩

/-- Lines that are arranged are what is expected: all but the last one end in a line break, no line
break is torn, and each has its content before it. -/
theorem Arranged.expected (h : Arranged lines) :
    (∀ line ∈ lines.dropLast, ∃ terminator, EndsWith line terminator) ∧ lines.IsChain Untorn ∧
      ∀ line ∈ lines, HasContent line := by
  induction h with
  | nil => exact ⟨nofun, .nil, nofun⟩
  | @last content hcontent _ =>
    exact ⟨nofun, .singleton _, List.forall_mem_singleton.mpr
      ⟨content, [], (List.append_nil _).symm, hcontent, .inl rfl⟩⟩
  | @cons content terminator lines hcontent hterminator hnext hlines ih =>
    obtain ⟨hterminated, huntorn, hall⟩ := ih
    refine ⟨fun line hline ↦ ?_, List.isChain_cons.mpr ⟨fun next hhead hlast ↦ ?_, huntorn⟩,
      List.forall_mem_cons.mpr ⟨⟨content, terminator, rfl, hcontent, .inr hterminator⟩, hall⟩⟩
    · cases lines with
      | nil => cases hline
      | cons next lines =>
        rw [List.dropLast_cons_cons, List.mem_cons] at hline
        rcases hline with rfl | hline
        · exact ⟨terminator, hterminator, content, hcontent, rfl⟩
        · exact hterminated line hline
    · obtain ⟨lines, rfl⟩ := List.head?_eq_some_iff.mp hhead
      rw [← head?_flatten_of_ne_nil (hlines.ne_nil next List.mem_cons_self)]
      rw [List.getLast?_append_of_ne_nil _ hterminator.ne_nil] at hlast
      exact hnext (hterminator.getLast? hlast)

/-- Lines that are as expected are arranged, line by line. -/
theorem arranged_of_expected (hne : ∀ line ∈ lines, line ≠ [])
    (hterminated : ∀ line ∈ lines.dropLast, ∃ terminator, EndsWith line terminator)
    (huntorn : lines.IsChain Untorn) (hall : ∀ line ∈ lines, HasContent line) :
    Arranged lines := by
  induction lines with
  | nil => exact .nil
  | cons line lines ih =>
    rw [List.forall_mem_cons] at hne hall
    cases lines with
    | nil =>
      obtain ⟨content, rest, rfl, hcontent, rfl | hrest⟩ := hall.1
      · rw [List.append_nil] at hne ⊢
        exact .last hcontent hne.1
      · exact .cons hcontent hrest (fun _ ↦ nofun) .nil
    | cons next lines =>
      rw [List.dropLast_cons_cons, List.forall_mem_cons] at hterminated
      obtain ⟨⟨terminator, hterminator, content, hcontent, rfl⟩, hterminated⟩ := hterminated
      rw [List.isChain_cons_cons] at huntorn
      refine .cons hcontent hterminator (fun hreturn ↦ ?_) (ih hne.2 hterminated huntorn.2 hall.2)
      rw [head?_flatten_of_ne_nil (hne.2 next List.mem_cons_self)]
      exact huntorn.1 (by rw [hreturn]; simp)

/-! ### The lines of a text -/

/-- What a text is cut into at a byte position is the text. -/
theorem append_of_bytes {cs before after : List Char} {n : Nat} (ht : takeBytes? cs n = some before)
    (hd : dropBytes? cs n = some after) : cs = before ++ after := by
  induction cs generalizing n before with
  | nil =>
    cases n with
    | zero =>
      cases ht
      cases hd
      rfl
    | succ n => cases ht
  | cons c cs ih =>
    cases n with
    | zero =>
      cases ht
      cases hd
      rfl
    | succ n =>
      rw [takeBytes?] at ht
      rw [dropBytes?] at hd
      split at ht
      · rename_i hle
        rw [if_pos hle] at hd
        obtain ⟨before', ht', rfl⟩ := Option.map_eq_some_iff.mp ht
        rw [List.cons_append, ← ih ht' hd]
      · cases ht

/-- Where the content of a line ends, there is its content on the one side and its terminator on the
other. -/
theorem hasContent_iff {line : String} :
    HasContent line.toList ↔ ∃ content rest,
      takeBytes? line.toList (contentEnd line) = some content ∧
      dropBytes? line.toList (contentEnd line) = some rest ∧
      IsUnbroken content ∧ (rest = [] ∨ EndsWith line.toList rest) := by
  constructor
  · rintro ⟨content, rest, hline, hcontent, hrest⟩
    rw [contentEnd, hline, lineContent_append hcontent hrest]
    exact ⟨content, rest, takeBytes?_byteLength content rest, dropBytes?_byteLength content rest,
      hcontent, hrest.imp_right fun h ↦ ⟨h, content, hcontent, rfl⟩⟩
  · rintro ⟨content, rest, htake, hdrop, hcontent, hrest⟩
    exact ⟨content, rest, append_of_bytes htake hdrop, hcontent, hrest.imp_right (·.1)⟩

/-- Lines are what is expected of their text if and only if they are arranged. -/
theorem isSplit_iff_arranged {text : String} {lines : List String} :
    IsSplit text lines ↔ String.join lines = text ∧ Arranged (lines.map String.toList) := by
  constructor
  · intro h
    refine ⟨h.join, arranged_of_expected ?_ ?_ ((List.isChain_map _).mpr h.untorn) ?_⟩
    · exact List.forall_mem_map.mpr fun line hline ↦
        mt String.toList_eq_nil_iff.mp (h.ne_empty line hline)
    · rw [← List.map_dropLast]
      exact List.forall_mem_map.mpr h.terminated
    · exact List.forall_mem_map.mpr fun line hline ↦ hasContent_iff.mpr (h.content line hline)
  · rintro ⟨hjoin, h⟩
    obtain ⟨hterminated, huntorn, hall⟩ := h.expected
    rw [← List.map_dropLast] at hterminated
    exact {
      join := hjoin
      ne_empty := fun line hline hnil ↦
        List.forall_mem_map.mp h.ne_nil line hline (String.toList_eq_nil_iff.mpr hnil)
      terminated := fun line hline ↦ hterminated _ (List.mem_map_of_mem hline)
      untorn := (List.isChain_map _).mp huntorn
      content := fun line hline ↦ hasContent_iff.mp (List.forall_mem_map.mp hall line hline) }

/-- Splitting a text is splitting its characters. -/
theorem map_toList_splitLines (text : String) :
    (splitLines text).map String.toList = linesOf text.toList := by
  rw [splitLines, List.map_map]
  exact List.map_id'' (fun cs ↦ String.toList_ofList) _

/-- The characters of a text are those of its parts, one part after the other. -/
theorem toList_join (lines : List String) :
    (String.join lines).toList = (lines.map String.toList).flatten := by
  rw [String.toList_join, List.flatMap_def]

/-- **What is expected of lines has one solution**: the lines that the text is split into. -/
theorem isSplit_iff (text : String) (lines : List String) :
    IsSplit text lines ↔ lines = splitLines text := by
  rw [isSplit_iff_arranged]
  constructor
  · rintro ⟨rfl, h⟩
    apply List.map_injective_iff.mpr fun _ _ ↦ String.toList_injective
    rw [map_toList_splitLines, toList_join, linesOf_flatten h]
  · rintro rfl
    refine ⟨String.toList_injective ?_, ?_⟩
    · rw [toList_join, map_toList_splitLines, flatten_linesOf]
    · rw [map_toList_splitLines]
      exact arranged_linesOf text.toList

/-- A carriage return alone ends a line, and so does one with its line feed. -/
example : splitLines "a\r\r\n\nb" = ["a\r", "\r\n", "\n", "b"] := by decide

end ScopeGrammar
