import GoldenBench.Diagnostic
import GoldenBench.Proofs.Text.Lines

/-!
# The diagnostics on lines

Reading goes line by line and keeps what it has found so far. What it finds is described here by the lines alone: every
header starts an entry, and the lines up to the next header that are not blank go on with it (`entries`).

* `header?_eq_some_iff`: which lines are headers, and what they say.
* `parse_eq`: the diagnostics in a text are the entries of its lines.
* `map_severity_parse`: there is one of them for each header, and a carriage return at the end of a line does not
  matter.
-/

namespace GoldenBench.Diagnostic

variable {line message rest : List Char} {lines more : List (List Char)} {severity : Severity}

/-! ## Headers -/

/-- What follows an optional colon. -/
def afterColon : List Char → List Char
  | ':' :: rest => rest
  | rest => rest

/-- A line begins with the name of at most one severity. -/
theorem eq_of_label_prefix {other : Severity} (h : severity.label.toList <+: line) (h' : other.label.toList <+: line) :
    severity = other := by
  have hlabels : ∀ a b : Severity, a.label.toList <+: b.label.toList → a = b := by
    intro a b
    cases a <;> cases b <;> decide
  rcases List.prefix_or_prefix_of_prefix h h' with hlabel | hlabel
  · exact hlabels severity other hlabel
  · exact (hlabels other severity hlabel).symm

theorem exists_of_header? (h : header? line = some (severity, message)) :
    ∃ rest, line = severity.label.toList ++ rest ∧ Text.endsWord rest = true ∧
      message = Text.trimStart (afterColon rest) := by
  obtain ⟨found, -, hfound⟩ := List.exists_of_findSome?_eq_some h
  dsimp only at hfound
  split at hfound
  · rename_i hstart
    cases hfound
    obtain ⟨hlabel, hends⟩ := Bool.and_eq_true_iff.mp hstart
    obtain ⟨rest, rfl⟩ := List.isPrefixOf_iff_prefix.mp hlabel
    rw [List.drop_left] at hends ⊢
    exact ⟨rest, rfl, hends, rfl⟩
  · cases hfound

/-- A header begins with the name of a severity, as a word; behind an optional colon and white space comes the
message. -/
theorem header?_eq_some_iff :
    header? line = some (severity, message) ↔
      ∃ rest, line = severity.label.toList ++ rest ∧ Text.endsWord rest = true ∧
        message = Text.trimStart (afterColon rest) := by
  refine ⟨exists_of_header?, ?_⟩
  rintro ⟨rest, rfl, hends, rfl⟩
  have hsome : (header? (severity.label.toList ++ rest)).isSome = true := by
    refine List.findSome?_isSome_iff.mpr ⟨severity, by cases severity <;> decide, ?_⟩
    have hlabel : severity.label.toList.isPrefixOf (severity.label.toList ++ rest) = true :=
      List.isPrefixOf_iff_prefix.mpr (List.prefix_append _ _)
    simp [hlabel, hends]
  obtain ⟨⟨found, message⟩, hfound⟩ := Option.isSome_iff_exists.mp hsome
  obtain ⟨rest', hline, -, rfl⟩ := exists_of_header? hfound
  obtain rfl := eq_of_label_prefix (List.prefix_append _ rest) ⟨rest', hline.symm⟩
  rw [hfound, List.append_cancel_left hline]

/-- A line that begins with a space is no header. -/
theorem header?_space_cons (line : List Char) : header? (' ' :: line) = none := by
  refine Option.eq_none_iff_forall_ne_some.mpr fun ⟨severity, message⟩ h => ?_
  obtain ⟨rest, hline, -⟩ := exists_of_header? h
  have hhead := congrArg List.head? hline
  cases severity <;> simp [Severity.label] at hhead

/-- The severity that a line announces, if it is a header. -/
def severity? (line : List Char) : Option Severity :=
  (header? line).map (·.1)

theorem severity?_eq_some_iff :
    severity? line = some severity ↔ ∃ rest, line = severity.label.toList ++ rest ∧ Text.endsWord rest = true := by
  simp [severity?, header?_eq_some_iff]

theorem endsWord_append_return (rest : List Char) : Text.endsWord (rest ++ ['\r']) = Text.endsWord rest := by
  cases rest with
  | nil => decide
  | cons c rest => rfl

/-- A carriage return at the end of a line does not matter. -/
theorem severity?_append_return (line : List Char) : severity? (line ++ ['\r']) = severity? line := by
  ext severity
  rw [severity?_eq_some_iff, severity?_eq_some_iff]
  constructor
  · rintro ⟨rest, hline, hends⟩
    rcases List.eq_nil_or_concat rest with rfl | ⟨rest, c, rfl⟩
    · rw [List.append_nil] at hline
      have hlast := congrArg List.getLast? hline
      cases severity <;> simp [Severity.label] at hlast
    · rw [List.concat_eq_append, ← List.append_assoc] at hline
      obtain ⟨rfl, hc⟩ := List.append_inj' hline rfl
      cases hc
      rw [List.concat_eq_append, endsWord_append_return] at hends
      exact ⟨rest, rfl, hends⟩
  · rintro ⟨rest, rfl, hends⟩
    exact ⟨rest ++ ['\r'], List.append_assoc .., (endsWord_append_return rest).trans hends⟩

theorem severity?_chomp (line : List Char) : severity? (Text.chomp line) = severity? line := by
  rcases Text.chomp_cases line with h | h
  · rw [h]
  · rw [← severity?_append_return, ← h]

/-! ## Entries -/

/-- A diagnostic by its lines. -/
structure Entry where
  /-- How serious it is. -/
  severity : Severity
  /-- What its header says. -/
  first : List Char
  /-- The lines that go on with it. -/
  further : List (List Char)

/-- The diagnostic of an entry. -/
def Entry.diagnostic (entry : Entry) : Diagnostic :=
  ⟨entry.severity, Text.joinLines ((entry.first :: entry.further).map String.ofList)⟩

/-- The lines that go on with the diagnostic before them: up to the next header, those that are not blank. -/
def further (lines : List (List Char)) : List (List Char) :=
  (lines.takeWhile fun line => (header? line).isNone).filter fun line => !Text.isAllBlank line

/-- The entries on lines: one for each header. -/
def entries : List (List Char) → List Entry
  | [] => []
  | line :: lines =>
    match header? line with
    | some (severity, first) => ⟨severity, first, further lines⟩ :: entries lines
    | none => entries lines

theorem further_cons_header (h : (header? line).isSome = true) (lines : List (List Char)) :
    further (line :: lines) = [] := by
  simp [further, Option.isSome_iff_ne_none.mp h]

theorem further_cons (h : header? line = none) (lines : List (List Char)) :
    further (line :: lines) = if Text.isAllBlank line then further lines else line :: further lines := by
  by_cases hblank : Text.isAllBlank line = true <;> simp [further, h, hblank]

theorem entries_cons_of_none (h : header? line = none) (lines : List (List Char)) :
    entries (line :: lines) = entries lines := by
  rw [entries, h]

/-- Of lines without a header those that are not blank go on with the diagnostic before them. -/
theorem further_append_of_none (h : ∀ line ∈ lines, header? line = none) (more : List (List Char)) :
    further (lines ++ more) = (lines.filter fun line => !Text.isAllBlank line) ++ further more := by
  induction lines with
  | nil => rfl
  | cons line lines ih =>
    have hrest := ih fun line hline => h line (List.mem_cons_of_mem _ hline)
    rw [List.cons_append, further_cons (h line List.mem_cons_self), hrest]
    by_cases hblank : Text.isAllBlank line = true <;> simp [hblank]

theorem entries_append_of_none (h : ∀ line ∈ lines, header? line = none) (more : List (List Char)) :
    entries (lines ++ more) = entries more := by
  induction lines with
  | nil => rfl
  | cons line lines ih =>
    rw [List.cons_append, entries_cons_of_none (h line List.mem_cons_self),
      ih fun line hline => h line (List.mem_cons_of_mem _ hline)]

/-- Lines read behind a diagnostic go on with it up to the next header, and hold more diagnostics from there on. -/
theorem finish_foldl_add (lines : List (List Char)) (last : Pending) (pending : List Pending)
    (stray : List (List Char)) :
    (lines.foldl Found.add ⟨last :: pending, stray⟩).pending.reverse.map Pending.finish =
      pending.reverse.map Pending.finish ++
        Pending.finish ⟨last.severity, (further lines).reverse ++ last.lines⟩ ::
        (entries lines).map Entry.diagnostic := by
  induction lines generalizing last pending stray with
  | nil => simp [further, entries]
  | cons line lines ih =>
    rw [List.foldl_cons, Found.add]
    cases hheader : header? line with
    | some found =>
      obtain ⟨severity, first⟩ := found
      rw [ih, further_cons_header (by simp [hheader]), entries, hheader]
      simp [Pending.finish, Entry.diagnostic]
    | none =>
      rw [further_cons hheader, entries_cons_of_none hheader]
      by_cases hblank : Text.isAllBlank line = true
      · rw [if_pos hblank, if_pos hblank, ih]
      · rw [if_neg hblank, if_neg hblank, ih]
        simp

/-- Lines read before the first diagnostic are set apart. -/
theorem finish_foldl_add_nil (lines : List (List Char)) (stray : List (List Char)) :
    (lines.foldl Found.add ⟨[], stray⟩).pending.reverse.map Pending.finish = (entries lines).map Entry.diagnostic := by
  induction lines generalizing stray with
  | nil => rfl
  | cons line lines ih =>
    rw [List.foldl_cons, Found.add]
    cases hheader : header? line with
    | some found =>
      obtain ⟨severity, first⟩ := found
      rw [finish_foldl_add, entries, hheader]
      simp [Pending.finish, Entry.diagnostic]
    | none =>
      rw [entries_cons_of_none hheader]
      by_cases hblank : Text.isAllBlank line = true
      · rw [if_pos hblank, ih]
      · rw [if_neg hblank, ih]

/-- The diagnostics in a text are the entries on its lines. -/
theorem parse_eq (text : String) : parse text = (entries (Text.lines text.toList)).map Entry.diagnostic :=
  finish_foldl_add_nil (Text.lines text.toList) []

/-! ## Severities -/

theorem map_severity_entries (lines : List (List Char)) :
    (entries lines).map (·.severity) = lines.filterMap severity? := by
  induction lines with
  | nil => rfl
  | cons line lines ih =>
    cases hheader : header? line with
    | some found => simp [entries, severity?, hheader, ih]
    | none => simp [entries, severity?, hheader, ih]

/-- There is one diagnostic for each header, and a carriage return at the end of a line does not matter. -/
theorem map_severity_parse (text : String) :
    (parse text).map (·.severity) = (text.toList.splitOn '\n').filterMap severity? := by
  obtain ⟨before, last, hsplit⟩ := Text.exists_splitOn text.toList
  have hchomp : severity? ∘ Text.chomp = severity? := funext severity?_chomp
  have hmap : (fun diagnostic : Diagnostic => diagnostic.severity) ∘ Entry.diagnostic = Entry.severity := rfl
  rw [parse_eq, List.map_map, hmap, map_severity_entries, Text.lines_of_splitOn hsplit, hsplit, List.filterMap_append,
    List.filterMap_append, List.filterMap_map, hchomp]
  congr 1
  by_cases hempty : last = []
  · subst hempty
    rfl
  · simp [hempty]

end GoldenBench.Diagnostic
