import GoldenBench.Proofs.Diagnostic.Entries
import Mathlib.Data.List.DropRight

/-!
# Diagnostics that are shown can be read again

An entry is shown as a header and further lines that begin with spaces (`Entry.shown`). Of these only the first is a
header, whatever the message is like, so no diagnostic is split and none is merged with another. What was read from a
text without carriage returns comes back as it was, but for the two spaces before its further lines.

* `severities_shown`: an entry is shown with one header.
* `entries_flatMap_shown`: the entries on the lines that entries are shown as.
* `parse_format`: severities come back for all diagnostics, and messages for those that were read.
-/

namespace GoldenBench.Diagnostic

variable {line : List Char} {lines : List (List Char)} {entry : Entry} {shownEntries : List Entry}

/-- The header of an entry. -/
def headerLine (severity : Severity) (first : List Char) : List Char :=
  severity.label.toList ++ ": ".toList ++ first

/-- A further line, as it is shown. -/
def indentLine (line : List Char) : List Char :=
  ' ' :: ' ' :: line

/-- The lines that an entry is shown as. -/
def Entry.shown (entry : Entry) : List (List Char) :=
  headerLine entry.severity entry.first :: entry.further.map indentLine

/-- The entry that a diagnostic is shown as. -/
def toEntry (diagnostic : Diagnostic) : Entry :=
  ⟨diagnostic.severity, (Text.lines diagnostic.message.toList).headD [], (Text.lines diagnostic.message.toList).drop 1⟩

theorem formatChars_plain (diagnostics : List Diagnostic) :
    formatChars false diagnostics =
      ['\n'].intercalate (diagnostics.flatMap fun diagnostic => diagnostic.toEntry.shown) :=
  Text.dropFinalNewline_flatMap _

theorem header?_headerLine (severity : Severity) (first : List Char) :
    header? (headerLine severity first) = some (severity, Text.trimStart first) := by
  refine header?_eq_some_iff.mpr ⟨": ".toList ++ first, List.append_assoc .., rfl, ?_⟩
  exact (List.dropWhile_cons_of_pos (by decide)).symm

theorem header?_indentLine (line : List Char) : header? (indentLine line) = none :=
  header?_space_cons (' ' :: line)

/-! ## Severities -/

/-- Only the first line that an entry is shown as is a header. -/
theorem severities_shown (entry : Entry) : entry.shown.filterMap severity? = [entry.severity] := by
  have hheader : severity? (headerLine entry.severity entry.first) = some entry.severity := by
    rw [severity?, header?_headerLine]
    rfl
  have hindent : severity? ∘ indentLine = fun _ => none := funext fun line => by
    rw [Function.comp, severity?, header?_indentLine]
    rfl
  rw [Entry.shown, List.filterMap_cons_some hheader, List.filterMap_map, hindent]
  simp

/-- Showing an entry brings no line end into its lines. -/
theorem not_mem_of_mem_shown {c : Char} (hc : c = '\n' ∨ c = '\r')
    (h : ∀ line ∈ entry.first :: entry.further, c ∉ line) : ∀ line ∈ entry.shown, c ∉ line := by
  intro line hline
  rcases List.mem_cons.mp hline with rfl | hline
  · have hfirst := h entry.first List.mem_cons_self
    have hlabel : c ∉ entry.severity.label.toList ++ ": ".toList := by
      rcases hc with rfl | rfl <;> cases entry.severity <;> decide
    exact fun hmem => (List.mem_append.mp hmem).elim hlabel hfirst
  · obtain ⟨line, hmem, rfl⟩ := List.mem_map.mp hline
    have hspace : c ≠ ' ' := by
      rcases hc with rfl | rfl <;> decide
    simpa [indentLine, hspace] using h line (List.mem_cons_of_mem _ hmem)

theorem ne_nil_of_mem_shown (h : line ∈ entry.shown) : line ≠ [] := by
  rcases List.mem_cons.mp h with rfl | h
  · simp [headerLine]
  · obtain ⟨line, -, rfl⟩ := List.mem_map.mp h
    simp [indentLine]

theorem newline_not_mem_toEntry (diagnostic : Diagnostic) :
    ∀ line ∈ diagnostic.toEntry.first :: diagnostic.toEntry.further, '\n' ∉ line := by
  have hlines : ∀ line ∈ Text.lines diagnostic.message.toList, '\n' ∉ line := fun _ =>
    Text.newline_not_mem_of_mem_lines
  intro line hline
  unfold toEntry at hline
  revert hlines hline
  cases Text.lines diagnostic.message.toList with
  | nil =>
    intro _ hline
    obtain rfl : line = [] := by simpa using hline
    simp
  | cons first further => exact fun hlines hline => hlines line hline

/-- Every diagnostic comes back with its severity. -/
theorem map_severity_parse_format (diagnostics : List Diagnostic) :
    (parse (format false diagnostics)).map (·.severity) = diagnostics.map (·.severity) := by
  by_cases hnone : diagnostics = []
  · subst hnone
    rfl
  · have hlines : ∀ line ∈ diagnostics.flatMap fun diagnostic => diagnostic.toEntry.shown, '\n' ∉ line := by
      intro line hline
      obtain ⟨diagnostic, -, hline⟩ := List.mem_flatMap.mp hline
      exact not_mem_of_mem_shown (.inl rfl) (newline_not_mem_toEntry diagnostic) line hline
    have hne : (diagnostics.flatMap fun diagnostic => diagnostic.toEntry.shown) ≠ [] := by
      obtain ⟨diagnostic, others, rfl⟩ := List.exists_cons_of_ne_nil hnone
      simp [Entry.shown]
    rw [map_severity_parse, format, String.toList_ofList, formatChars_plain,
      List.splitOn_intercalate '\n' hlines hne, List.filterMap_flatMap]
    simp only [severities_shown]
    exact List.map_eq_flatMap.symm

/-! ## Messages -/

/-- What is true of an entry that was read from lines without line ends of their own. -/
structure Entry.IsRead (entry : Entry) : Prop where
  /-- No white space stands before the message. -/
  trimmed : Text.trimStart entry.first = entry.first
  /-- No line has a line end of its own. -/
  unbroken : ∀ line ∈ entry.first :: entry.further, '\n' ∉ line ∧ '\r' ∉ line
  /-- The lines that go on with it are not blank. -/
  inked : ∀ line ∈ entry.further, Text.isAllBlank line = false

theorem subset_of_header? {severity : Severity} {first : List Char} (h : header? line = some (severity, first)) :
    first ⊆ line := by
  obtain ⟨rest, rfl, -, rfl⟩ := header?_eq_some_iff.mp h
  have hcolon : afterColon rest ⊆ rest := by
    unfold afterColon
    split
    · exact List.subset_cons_self _ _
    · exact List.Subset.refl _
  exact fun c hc => List.mem_append_right _ (hcolon ((List.dropWhile_suffix _).subset hc))

theorem isRead_of_mem_entries (h : ∀ line ∈ lines, '\n' ∉ line ∧ '\r' ∉ line) :
    ∀ entry ∈ entries lines, entry.IsRead := by
  induction lines with
  | nil => simp [entries]
  | cons line lines ih =>
    have hlines : ∀ line ∈ lines, '\n' ∉ line ∧ '\r' ∉ line := fun line hline => h line (List.mem_cons_of_mem _ hline)
    cases hheader : header? line with
    | none =>
      rw [entries_cons_of_none hheader]
      exact ih hlines
    | some found =>
      obtain ⟨severity, first⟩ := found
      have hsubset := subset_of_header? hheader
      obtain ⟨rest, -, -, hfirst⟩ := header?_eq_some_iff.mp hheader
      simp only [entries, hheader, List.forall_mem_cons]
      refine ⟨⟨?_, List.forall_mem_cons.mpr ⟨?_, fun line hline => ?_⟩, fun line hline => ?_⟩, ih hlines⟩
      · rw [hfirst]
        exact List.dropWhile_idempotent _ _
      · exact ⟨fun hmem => (h line List.mem_cons_self).1 (hsubset hmem),
          fun hmem => (h line List.mem_cons_self).2 (hsubset hmem)⟩
      · exact hlines line ((List.takeWhile_prefix _).subset (List.mem_of_mem_filter hline))
      · simpa using (List.mem_filter.mp hline).2

/-- An entry that was read is shown by its own lines. -/
theorem toEntry_diagnostic (h : entry.IsRead) : entry.diagnostic.toEntry = entry := by
  obtain ⟨severity, first, further⟩ := entry
  have hmessage :
      (Entry.diagnostic ⟨severity, first, further⟩).message.toList = ['\n'].intercalate (first :: further) := by
    rw [Entry.diagnostic, Text.joinLines_map_ofList, String.toList_ofList]
  rw [toEntry, hmessage]
  by_cases hempty : further = [] ∧ first = []
  · obtain ⟨rfl, rfl⟩ := hempty
    rfl
  · have hlines : Text.lines (['\n'].intercalate (first :: further)) = first :: further := by
      refine Text.lines_intercalate h.unbroken fun last hlast hnil => ?_
      subst hnil
      cases further with
      | nil => exact hempty ⟨rfl, by simpa using hlast⟩
      | cons second others =>
        rw [List.getLast?_cons_cons] at hlast
        exact absurd (h.inked [] (List.mem_of_mem_getLast? hlast)) (by decide)
    rw [hlines]
    rfl

/-- The entry with its further lines two spaces further in. -/
def Entry.indented (entry : Entry) : Entry :=
  { entry with further := entry.further.map indentLine }

theorem further_append_of_inked (h : ∀ line ∈ lines, header? line = none ∧ Text.isAllBlank line = false)
    (more : List (List Char)) : further (lines ++ more) = lines ++ further more := by
  have hinked : (lines.filter fun line => !Text.isAllBlank line) = lines :=
    List.filter_eq_self.mpr fun line hline => by rw [(h line hline).2]; rfl
  rw [further_append_of_none fun line hline => (h line hline).1, hinked]

theorem further_flatMap_shown (shownEntries : List Entry) : further (shownEntries.flatMap Entry.shown) = [] := by
  cases shownEntries with
  | nil => rfl
  | cons entry others => exact further_cons_header (by rw [header?_headerLine]; rfl) _

/-- The entries on the lines that entries are shown as are these entries, further in. -/
theorem entries_flatMap_shown (h : ∀ entry ∈ shownEntries, entry.IsRead) :
    entries (shownEntries.flatMap Entry.shown) = shownEntries.map Entry.indented := by
  induction shownEntries with
  | nil => rfl
  | cons entry others ih =>
    have hread := h entry List.mem_cons_self
    have hindented : ∀ line ∈ entry.further.map indentLine, header? line = none ∧ Text.isAllBlank line = false := by
      intro line hline
      obtain ⟨line, hmem, rfl⟩ := List.mem_map.mp hline
      refine ⟨header?_indentLine line, ?_⟩
      have hinked := hread.inked line hmem
      simp only [Text.isAllBlank, indentLine, List.all_cons] at hinked ⊢
      rw [hinked]
      decide
    rw [List.flatMap_cons, Entry.shown, List.cons_append, entries, header?_headerLine]
    simp only []
    rw [further_append_of_inked hindented, further_flatMap_shown, List.append_nil,
      entries_append_of_none fun line hline => (hindented line hline).1,
      ih fun entry hmem => h entry (List.mem_cons_of_mem _ hmem), hread.trimmed]
    rfl

/-- The diagnostic with every line of its message after the first two spaces further in. -/
def indentFurther (diagnostic : Diagnostic) : Diagnostic :=
  match diagnostic.message.toList.splitOn '\n' with
  | [] => diagnostic
  | first :: further =>
    { diagnostic with message := String.ofList (['\n'].intercalate (first :: further.map (' ' :: ' ' :: ·))) }

theorem diagnostic_indented (h : entry.IsRead) : entry.indented.diagnostic = entry.diagnostic.indentFurther := by
  have hsplit : entry.diagnostic.message.toList.splitOn '\n' = entry.first :: entry.further := by
    rw [Entry.diagnostic, Text.joinLines_map_ofList, String.toList_ofList]
    exact List.splitOn_intercalate '\n' (fun line hline => (h.unbroken line hline).1) (by simp)
  rw [indentFurther, hsplit, Entry.diagnostic, Text.joinLines_map_ofList]
  rfl

theorem lines_flatMap_shown (h : ∀ entry ∈ shownEntries, entry.IsRead) :
    Text.lines (['\n'].intercalate (shownEntries.flatMap Entry.shown)) = shownEntries.flatMap Entry.shown := by
  refine Text.lines_intercalate (fun line hline => ?_) fun last hlast => ?_
  · obtain ⟨entry, hmem, hline⟩ := List.mem_flatMap.mp hline
    have hunbroken := (h entry hmem).unbroken
    exact ⟨not_mem_of_mem_shown (.inl rfl) (fun line hline => (hunbroken line hline).1) line hline,
      not_mem_of_mem_shown (.inr rfl) (fun line hline => (hunbroken line hline).2) line hline⟩
  · obtain ⟨entry, -, hline⟩ := List.mem_flatMap.mp (List.mem_of_mem_getLast? hlast)
    exact ne_nil_of_mem_shown hline

/-- What was read from a text without carriage returns comes back with its further lines two spaces further in. -/
theorem parse_format_parse {text : String} (h : '\r' ∉ text.toList) :
    parse (format false (parse text)) = (parse text).map indentFurther := by
  have hlines : ∀ line ∈ Text.lines text.toList, '\n' ∉ line ∧ '\r' ∉ line := fun line hline =>
    ⟨Text.newline_not_mem_of_mem_lines hline, fun hmem => h (Text.mem_of_mem_linesFrom hline hmem)⟩
  have hread := isRead_of_mem_entries hlines
  rw [parse_eq text]
  generalize entries (Text.lines text.toList) = found at hread
  have hshown : (found.map Entry.diagnostic).flatMap (fun diagnostic => diagnostic.toEntry.shown) =
      found.flatMap Entry.shown := by
    rw [List.flatMap_map]
    exact List.flatMap_congr fun entry hmem => by rw [toEntry_diagnostic (hread entry hmem)]
  rw [parse_eq, format, String.toList_ofList, formatChars_plain, hshown, lines_flatMap_shown hread,
    entries_flatMap_shown hread, List.map_map, List.map_map]
  exact List.map_congr_left fun entry hmem => diagnostic_indented (hread entry hmem)

/-- Diagnostics that are shown without colour are read again as they are counted: one for each, with its severity,
whatever their messages hold. Those that were read from a text without carriage returns come back as they were, but
for two spaces before each line of a message after the first. -/
theorem parse_format :
    (∀ diagnostics : List Diagnostic,
      (parse (format false diagnostics)).length = diagnostics.length ∧
      (parse (format false diagnostics)).map (·.severity) = diagnostics.map (·.severity)) ∧
    ∀ text : String, '\r' ∉ text.toList →
      parse (format false (parse text)) = (parse text).map indentFurther := by
  refine ⟨fun diagnostics => ?_, fun text => parse_format_parse⟩
  have hseverities := map_severity_parse_format diagnostics
  exact ⟨by simpa using congrArg List.length hseverities, hseverities⟩

/-- A message that looks like a header, a message without a first line, and blank lines in between. -/
theorem parse_format_of_lines :
    '\r' ∉ "INFO note\nERROR:\n  :a\n\n b\nWARNING : ERROR: c".toList ∧
    parse "INFO note\nERROR:\n  :a\n\n b\nWARNING : ERROR: c" =
      [⟨.info, "note"⟩, ⟨.error, "\n  :a\n b"⟩, ⟨.warning, ": ERROR: c"⟩] ∧
    parse (format false (parse "INFO note\nERROR:\n  :a\n\n b\nWARNING : ERROR: c")) =
      [⟨.info, "note"⟩, ⟨.error, "\n    :a\n   b"⟩, ⟨.warning, ": ERROR: c"⟩] := by
  have hplain : '\r' ∉ "INFO note\nERROR:\n  :a\n\n b\nWARNING : ERROR: c".toList := by decide +kernel
  have hparse : parse "INFO note\nERROR:\n  :a\n\n b\nWARNING : ERROR: c" =
      [⟨.info, "note"⟩, ⟨.error, "\n  :a\n b"⟩, ⟨.warning, ": ERROR: c"⟩] := by decide +kernel
  refine ⟨hplain, hparse, (parse_format.2 _ hplain).trans ?_⟩
  rw [hparse]
  decide +kernel

end GoldenBench.Diagnostic
