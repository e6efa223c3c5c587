import GoldenBench.Proofs.Diagnostic.Entries

/-!
# What a compiler wrote, and what is read of it

The lines of any text are a preamble without headers, and passages that each begin with a header and have no other
(`Layout`). Reading loses nothing of a passage but its blank lines and invents nothing: there is one diagnostic for
each passage. It does not matter to a passage what stands before it.

* `Layout.exists_lines`: every text is laid out so.
* `parse_append`: the diagnostics of two texts, one below the other.
* `parse_layout`: the diagnostics of a text by its layout.
-/

namespace GoldenBench.Diagnostic

variable {line : List Char}

/-! ## Layouts -/

/-- A line that begins with the name of a severity, and the name is a word of its own. -/
def IsHeader (line : List Char) : Prop :=
  ∃ (severity : Severity) (rest : List Char), line = severity.label.toList ++ rest ∧
    ∀ c ∈ rest.head?, Text.isWordChar c = false

theorem endsWord_iff (rest : List Char) : Text.endsWord rest = true ↔ ∀ c ∈ rest.head?, Text.isWordChar c = false := by
  cases rest with
  | nil => simp [Text.endsWord]
  | cons c rest => simp [Text.endsWord]

theorem header?_eq_none_iff : header? line = none ↔ ¬ IsHeader line := by
  rw [Option.eq_none_iff_forall_ne_some, IsHeader]
  constructor
  · rintro h ⟨severity, rest, hline, hword⟩
    exact h _ (header?_eq_some_iff.mpr ⟨rest, hline, (endsWord_iff rest).mpr hword, rfl⟩)
  · rintro h ⟨severity, message⟩ hheader
    obtain ⟨rest, hline, hends, -⟩ := header?_eq_some_iff.mp hheader
    exact h ⟨severity, rest, hline, (endsWord_iff rest).mp hends⟩

instance (line : List Char) : Decidable (IsHeader line) :=
  decidable_of_iff (¬ header? line = none) (by rw [header?_eq_none_iff, not_not])

/-- A header and the lines up to the next one. -/
structure Passage where
  /-- The severity that the header begins with the name of. -/
  severity : Severity
  /-- What follows the name on the header. -/
  rest : List Char
  /-- The name is a word of its own. -/
  word : ∀ c ∈ rest.head?, Text.isWordChar c = false
  /-- The lines up to the next header. -/
  body : List (List Char)
  /-- None of them is a header. -/
  plain : ∀ line ∈ body, ¬ IsHeader line

namespace Passage

/-- The header. -/
def header (passage : Passage) : List Char :=
  passage.severity.label.toList ++ passage.rest

/-- The lines of a passage. -/
def lines (passage : Passage) : List (List Char) :=
  passage.header :: passage.body

/-- The diagnostic of a passage: what follows an optional colon and white space on the header, and below it every other
line that is not blank, as it is. -/
def diagnostic (passage : Passage) : Diagnostic :=
  ⟨passage.severity, Text.joinLines ((Text.trimStart (afterColon passage.rest) ::
    passage.body.filter fun line => !Text.isAllBlank line).map String.ofList)⟩

theorem header?_header (passage : Passage) :
    header? passage.header = some (passage.severity, Text.trimStart (afterColon passage.rest)) :=
  header?_eq_some_iff.mpr ⟨passage.rest, rfl, (endsWord_iff _).mpr passage.word, rfl⟩

theorem header?_body (passage : Passage) : ∀ line ∈ passage.body, header? line = none := fun line hline =>
  header?_eq_none_iff.mpr (passage.plain line hline)

end Passage

/-- Lines, divided by their headers. -/
structure Layout where
  /-- The lines before the first header. -/
  preamble : List (List Char)
  /-- None of them is a header. -/
  plain : ∀ line ∈ preamble, ¬ IsHeader line
  /-- A passage for each header. -/
  passages : List Passage

namespace Layout

/-- All the lines. -/
def lines (layout : Layout) : List (List Char) :=
  layout.preamble ++ layout.passages.flatMap Passage.lines

/-- Lines can be divided by their headers. -/
theorem exists_lines (lines : List (List Char)) : ∃ layout : Layout, layout.lines = lines := by
  induction lines with
  | nil => exact ⟨⟨[], by simp, []⟩, rfl⟩
  | cons line lines ih =>
    obtain ⟨⟨preamble, plain, passages⟩, rfl⟩ := ih
    by_cases hheader : IsHeader line
    · -- what was the preamble of the rest belongs to this header
      obtain ⟨severity, rest, rfl, hword⟩ := hheader
      exact ⟨⟨[], by simp, ⟨severity, rest, hword, preamble, plain⟩ :: passages⟩, rfl⟩
    · exact ⟨⟨line :: preamble, List.forall_mem_cons.mpr ⟨hheader, plain⟩, passages⟩, rfl⟩

end Layout

/-! ## Reading a layout -/

theorem further_passages (passages : List Passage) : further (passages.flatMap Passage.lines) = [] := by
  cases passages with
  | nil => rfl
  | cons passage passages => exact further_cons_header (by rw [passage.header?_header]; rfl) _

/-- The entries on passages: one for each. -/
theorem entries_passages (passages : List Passage) :
    (entries (passages.flatMap Passage.lines)).map Entry.diagnostic = passages.map Passage.diagnostic := by
  induction passages with
  | nil => rfl
  | cons passage passages ih =>
    rw [List.flatMap_cons, Passage.lines, List.cons_append, entries, passage.header?_header]
    dsimp only
    rw [further_append_of_none passage.header?_body, further_passages, List.append_nil,
      entries_append_of_none passage.header?_body, List.map_cons, ih]
    rfl

/-- No line is set apart once there is a diagnostic that it can go on with. -/
theorem stray_foldl_add (lines : List (List Char)) (last : Pending) (pending : List Pending)
    (stray : List (List Char)) : (lines.foldl Found.add ⟨last :: pending, stray⟩).stray = stray := by
  induction lines generalizing last pending with
  | nil => rfl
  | cons line lines ih =>
    rw [List.foldl_cons, Found.add]
    cases header? line with
    | some found => exact ih ..
    | none =>
      by_cases hblank : Text.isAllBlank line = true
      · rw [if_pos hblank]
        exact ih ..
      · rw [if_neg hblank]
        exact ih ..

/-- Before the first header the lines that are not blank are set apart. -/
theorem stray_foldl_add_nil (lines : List (List Char)) (stray : List (List Char)) :
    (lines.foldl Found.add ⟨[], stray⟩).stray = (further lines).reverse ++ stray := by
  induction lines generalizing stray with
  | nil => rfl
  | cons line lines ih =>
    rw [List.foldl_cons, Found.add]
    cases hheader : header? line with
    | some found =>
      rw [further_cons_header (by rw [hheader]; rfl)]
      exact stray_foldl_add ..
    | none =>
      rw [further_cons hheader]
      by_cases hblank : Text.isAllBlank line = true
      · rw [if_pos hblank, if_pos hblank]
        exact ih stray
      · rw [if_neg hblank, if_neg hblank, List.reverse_cons, List.append_assoc]
        exact ih (line :: stray)

theorem strayLines_eq (text : String) : strayLines text = (further (Text.lines text.toList)).map String.ofList := by
  rw [strayLines, scan, stray_foldl_add_nil, List.append_nil, List.reverse_reverse]

/-! ## One text below another -/

/-- A header does not care for what stands before it. -/
theorem entries_append_header (h : IsHeader line) (before after : List (List Char)) :
    entries (before ++ line :: after) = entries before ++ entries (line :: after) := by
  have hheader : (header? line).isSome = true :=
    Option.isSome_iff_ne_none.mpr fun hnone => header?_eq_none_iff.mp hnone h
  induction before with
  | nil => rfl
  | cons first before ih =>
    have hfurther : further (before ++ line :: after) = further before := by
      obtain ⟨⟨preamble, plain, passages⟩, rfl⟩ := Layout.exists_lines before
      have hplain : ∀ line ∈ preamble, header? line = none := fun line hline =>
        header?_eq_none_iff.mpr (plain line hline)
      rw [Layout.lines, List.append_assoc, further_append_of_none hplain, further_append_of_none hplain,
        further_passages]
      cases passages with
      | nil => rw [List.flatMap_nil, List.nil_append, further_cons_header hheader]
      | cons passage passages =>
        rw [List.flatMap_cons, Passage.lines, List.append_assoc, List.cons_append,
          further_cons_header (by rw [passage.header?_header]; rfl)]
    rw [List.cons_append, entries, entries]
    cases header? first with
    | none => exact ih
    | some found =>
      dsimp only
      rw [hfurther, ih, List.cons_append]

/-- An empty line at the end changes nothing. -/
theorem entries_concat_nil (lines : List (List Char)) : entries (lines ++ [[]]) = entries lines := by
  have hfurther : ∀ lines, further (lines ++ [[]]) = further lines := by
    intro lines
    induction lines with
    | nil => rfl
    | cons line lines ih =>
      cases hheader : header? line with
      | some found =>
        rw [List.cons_append, further_cons_header (by rw [hheader]; rfl), further_cons_header (by rw [hheader]; rfl)]
      | none => rw [List.cons_append, further_cons hheader, further_cons hheader, ih]
  induction lines with
  | nil => rfl
  | cons line lines ih => rw [List.cons_append, entries, entries, ih, hfurther]

/-- The lines of a text that another one follows below. -/
theorem lines_append_text {upper : List Char} (lower : List Char) (h : upper.getLast? ≠ some '\r') :
    ∃ ending, (ending = [] ∨ ending = [[]]) ∧
      Text.lines (upper ++ '\n' :: lower) = (Text.lines upper ++ ending) ++ Text.lines lower := by
  obtain ⟨before, last, hsplit⟩ := Text.exists_splitOn upper
  have hpieces : ∀ piece ∈ before ++ [last], '\n' ∉ piece := fun piece hmem =>
    Text.newline_not_mem_of_mem_splitOn (hsplit ▸ hmem)
  have hupper : upper = before.flatMap (· ++ ['\n']) ++ last := by
    have hjoin : ['\n'].intercalate (upper.splitOn '\n') = upper := List.intercalate_splitOn '\n'
    rw [← hjoin, hsplit, Text.intercalate_append (by simp), List.intercalate_singleton]
  have hchomp : Text.chomp last = last := by
    rcases Text.chomp_cases last with hsame | hreturn
    · exact hsame
    · rw [hupper, hreturn, ← List.append_assoc] at h
      simp at h
  refine ⟨if last.isEmpty then [[]] else [], by split <;> simp, ?_⟩
  rw [Text.lines_of_splitOn hsplit, hupper, List.append_assoc,
    Text.lines_append fun line hline => hpieces line (List.mem_append_left _ hline),
    Text.lines_append_newline _ _ (hpieces last (by simp)), ← Text.chomp, hchomp]
  cases last with
  | nil => simp
  | cons c last => simp

/-- Where a header begins the lower of two texts, each is read as it is read alone. -/
theorem parse_append {upper lower : String} (hupper : upper.toList.getLast? ≠ some '\r')
    (hlower : IsHeader (Text.firstLine lower.toList)) :
    parse (upper ++ "\n" ++ lower) = parse upper ++ parse lower := by
  obtain ⟨ending, hending, hlines⟩ := lines_append_text lower.toList hupper
  have hentries : entries (Text.lines upper.toList ++ ending) = entries (Text.lines upper.toList) := by
    rcases hending with rfl | rfl
    · rw [List.append_nil]
    · exact entries_concat_nil _
  have hjoined : (upper ++ "\n" ++ lower).toList = upper.toList ++ '\n' :: lower.toList := by simp
  rw [parse_eq, parse_eq, parse_eq, hjoined, hlines, ← List.map_append]
  rw [Text.firstLine] at hlower
  cases hfirst : Text.lines lower.toList with
  | nil =>
    rw [hfirst] at hlower
    obtain ⟨severity, rest, hline, -⟩ := hlower
    cases severity <;> simp [Severity.label] at hline
  | cons first others =>
    rw [hfirst, List.headD_cons] at hlower
    rw [entries_append_header hlower, hentries]

/-! ## Nothing is lost and nothing is invented -/

/-- Every text has a layout. However it is laid out, there is one diagnostic for each passage, in order, with the
severity of its header, the rest of the header and the lines below it that are not blank; of the preamble nothing is
read, and those of its lines that are not blank are set apart. Where a header begins the lower of two texts, each of
them is read as it is read alone. -/
theorem parse_layout :
    (∀ text : String, ∃ layout : Layout, Text.lines text.toList = layout.lines) ∧
    (∀ (text : String) (layout : Layout), Text.lines text.toList = layout.lines →
      parse text = layout.passages.map Passage.diagnostic ∧
      strayLines text = (layout.preamble.filter fun line => !Text.isAllBlank line).map String.ofList) ∧
    ∀ upper lower : String, upper.toList.getLast? ≠ some '\r' → IsHeader (Text.firstLine lower.toList) →
      parse (upper ++ "\n" ++ lower) = parse upper ++ parse lower := by
  refine ⟨fun text => ?_, fun text layout hlines => ?_, fun upper lower => parse_append⟩
  · obtain ⟨layout, hlayout⟩ := Layout.exists_lines (Text.lines text.toList)
    exact ⟨layout, hlayout.symm⟩
  · have hplain : ∀ line ∈ layout.preamble, header? line = none := fun line hline =>
      header?_eq_none_iff.mpr (layout.plain line hline)
    constructor
    · rw [parse_eq, hlines, Layout.lines, entries_append_of_none hplain, entries_passages]
    · rw [strayLines_eq, hlines, Layout.lines, further_append_of_none hplain, further_passages, List.append_nil]

/-- An error that goes on over a blank line and a line that only looks like a header. -/
def passageOfError : Passage where
  severity := .error
  rest := ":\u2003a: b".toList
  word := (endsWord_iff _).mp (by decide)
  body := ["ERRORS".toList, " ".toList, "  INFO c".toList]
  plain := by decide

/-- A note that says nothing. -/
def passageOfNote : Passage where
  severity := .info
  rest := []
  word := (endsWord_iff _).mp (by decide)
  body := []
  plain := by decide

/-- Noise, an error that goes on, a blank line, and a note that says nothing. -/
theorem parse_layout_of_messages :
    Text.lines "noise\nERROR:\u2003a: b\nERRORS\n \n  INFO c\nINFO".toList =
      Layout.lines ⟨["noise".toList], by decide, [passageOfError, passageOfNote]⟩ ∧
    parse "noise\nERROR:\u2003a: b\nERRORS\n \n  INFO c\nINFO" = [⟨.error, "a: b\nERRORS\n  INFO c"⟩, ⟨.info, ""⟩] ∧
    strayLines "noise\nERROR:\u2003a: b\nERRORS\n \n  INFO c\nINFO" = ["noise"] ∧
    "noise\nERROR:\u2003a: b\nERRORS\n \n  INFO c\n".toList.getLast? ≠ some '\r' ∧
    IsHeader (Text.firstLine "INFO".toList) ∧
    parse ("noise\nERROR:\u2003a: b\nERRORS\n \n  INFO c\n" ++ "\n" ++ "INFO") =
      parse "noise\nERROR:\u2003a: b\nERRORS\n \n  INFO c\n" ++ parse "INFO" := by
  have hlines : Text.lines "noise\nERROR:\u2003a: b\nERRORS\n \n  INFO c\nINFO".toList =
      Layout.lines ⟨["noise".toList], by decide, [passageOfError, passageOfNote]⟩ := by decide
  have hreturn : "noise\nERROR:\u2003a: b\nERRORS\n \n  INFO c\n".toList.getLast? ≠ some '\r' := by decide
  have hheader : IsHeader (Text.firstLine "INFO".toList) := by decide
  obtain ⟨hparse, hstray⟩ := parse_layout.2.1 _ _ hlines
  refine ⟨hlines, hparse.trans ?_, hstray.trans ?_, hreturn, hheader, parse_layout.2.2 _ _ hreturn hheader⟩
  · decide
  · decide

end GoldenBench.Diagnostic
