import GoldenBench.Report.Layout
import GoldenBench.Proofs.Text.Lines

/-!
# How reports read

Below its first line a report shows its paragraphs: the reason, the detail and the notes, one text after another,
each with a line feed behind it (`Report.paragraphs`, `stack`). Several indenting writers put them there in pieces,
but all that matters is the text they make (`below_eq`).

* `chars_append_newline`: a report and one more line feed are the first line, a line feed, and the indented paragraphs.
  What follows about lines and ends is read off this equation.
* `text_layout`: the lines of a report without colours, and how its paragraphs are read back from them.
* `text_endsLine_iff`: a report ends with a line feed just if its last paragraph is empty or ends with one.
-/

namespace GoldenBench

namespace Text

variable {text line : List Char}

/-! ## Lines of an indented text -/

/-- A line with two spaces before it, unless it is empty. -/
def indentLine (line : List Char) : List Char :=
  if line = [] then [] else ' ' :: ' ' :: line

theorem indentFrom_false_of_not_mem (h : '\n' ∉ line) : indentFrom false line = line := by
  induction line with
  | nil => rfl
  | cons c line ih =>
    rw [List.mem_cons, not_or] at h
    simp [indentFrom, Ne.symm h.1, ih h.2]

theorem indent_of_not_mem (h : '\n' ∉ line) : indent line = indentLine line := by
  cases line with
  | nil => rfl
  | cons c line =>
    rw [List.mem_cons, not_or] at h
    simp [indent, indentFrom, indentLine, Ne.symm h.1, indentFrom_false_of_not_mem h.2]

theorem indent_append_newline (text rest : List Char) :
    indent (text ++ '\n' :: rest) = indent text ++ '\n' :: indent rest := by
  simp [indent, indentFrom_append, indentFrom]

theorem indent_intercalate {pieces : List (List Char)} (h : ∀ line ∈ pieces, '\n' ∉ line) :
    indent (['\n'].intercalate pieces) = ['\n'].intercalate (pieces.map indentLine) := by
  induction pieces with
  | nil => rfl
  | cons line pieces ih =>
    have hline := indent_of_not_mem (h line List.mem_cons_self)
    cases pieces with
    | nil => simpa using hline
    | cons next pieces =>
      have hrest := ih fun line hmem => h line (List.mem_cons_of_mem _ hmem)
      calc indent (['\n'].intercalate (line :: next :: pieces))
          = indent (line ++ '\n' :: ['\n'].intercalate (next :: pieces)) := by simp [List.intercalate_cons_cons]
        _ = indentLine line ++ '\n' :: ['\n'].intercalate ((next :: pieces).map indentLine) := by
          rw [indent_append_newline, hline, hrest]
        _ = ['\n'].intercalate ((line :: next :: pieces).map indentLine) := by simp [List.intercalate_cons_cons]

/-- Indentation works on each line alone. -/
theorem splitOn_indent (text : List Char) : (indent text).splitOn '\n' = (text.splitOn '\n').map indentLine := by
  have hlines : ∀ line ∈ text.splitOn '\n', '\n' ∉ line := fun line h => newline_not_mem_of_mem_splitOn h
  have hindented : ∀ line ∈ (text.splitOn '\n').map indentLine, '\n' ∉ line := by
    refine List.forall_mem_map.mpr fun line h => ?_
    unfold indentLine
    split
    · simp
    · simpa using hlines line h
  calc (indent text).splitOn '\n'
      = (indent (['\n'].intercalate (text.splitOn '\n'))).splitOn '\n' := by rw [List.intercalate_splitOn]
    _ = (['\n'].intercalate ((text.splitOn '\n').map indentLine)).splitOn '\n' := by rw [indent_intercalate hlines]
    _ = (text.splitOn '\n').map indentLine := List.splitOn_intercalate '\n' hindented (by simp)

/-- The lines of an indented text are empty or begin with two spaces. -/
theorem eq_nil_or_prefix_of_mem_splitOn_indent (h : line ∈ (indent text).splitOn '\n') :
    line = [] ∨ [' ', ' '] <+: line := by
  rw [splitOn_indent] at h
  obtain ⟨line, -, rfl⟩ := List.mem_map.mp h
  unfold indentLine
  split
  · exact .inl rfl
  · exact .inr ⟨line, rfl⟩

/-- A text is what its indented lines are without the two spaces. -/
theorem intercalate_drop_indent (text : List Char) :
    ['\n'].intercalate (((indent text).splitOn '\n').map (·.drop 2)) = text := by
  have hdrop : (fun line : List Char => line.drop 2) ∘ indentLine = id := funext fun line => by
    unfold Function.comp indentLine
    split
    · rename_i hnil
      rw [hnil]
      rfl
    · rfl
  rw [splitOn_indent, List.map_map, hdrop, List.map_id, List.intercalate_splitOn]

theorem splitOn_append_newline (text rest : List Char) :
    (text ++ '\n' :: rest).splitOn '\n' = text.splitOn '\n' ++ rest.splitOn '\n' :=
  List.splitOnP_append_cons text rest (beq_self_eq_true '\n')

theorem splitOn_of_not_mem (h : '\n' ∉ line) : line.splitOn '\n' = [line] := by
  have hline : ∀ piece ∈ [line], '\n' ∉ piece := by simpa using h
  simpa using List.splitOn_intercalate '\n' hline (by simp)

/-! ## Ends of texts -/

/-- A text ends with a line feed. -/
def EndsLine (text : List Char) : Prop :=
  text.getLast? = some '\n'

instance (text : List Char) : Decidable (EndsLine text) :=
  inferInstanceAs (Decidable (text.getLast? = some '\n'))

theorem endsLine_append_cons (before : List Char) (c : Char) (rest : List Char) :
    EndsLine (before ++ c :: rest) ↔ EndsLine (c :: rest) := by
  simp [EndsLine, List.getLast?_append, List.getLast?_cons]

theorem endsLine_cons (c : Char) (rest : List Char) :
    EndsLine (c :: rest) ↔ rest = [] ∧ c = '\n' ∨ EndsLine rest := by
  cases rest with
  | nil => simp [EndsLine]
  | cons d rest => simp [EndsLine, List.getLast?_cons]

theorem startsLine_iff (text : List Char) : startsLine true text = true ↔ text = [] ∨ EndsLine text := by
  cases text with
  | nil => simp [startsLine]
  | cons c text => simp [startsLine, EndsLine, List.getLast?_cons]

/-- Indentation comes before characters, never behind the last one. -/
theorem getLast?_indentFrom (atStart : Bool) (text : List Char) :
    (indentFrom atStart text).getLast? = text.getLast? := by
  induction text generalizing atStart with
  | nil => rfl
  | cons c text ih =>
    unfold indentFrom
    split
    · simp_all [List.getLast?_cons]
    · split <;> simp_all [List.getLast?_cons]

theorem endsLine_indent (text : List Char) : EndsLine (indent text) ↔ EndsLine text := by
  rw [EndsLine, indent, getLast?_indentFrom]
  rfl

theorem indent_eq_nil (text : List Char) : indent text = [] ↔ text = [] := by
  rw [← List.getLast?_eq_none_iff, indent, getLast?_indentFrom, List.getLast?_eq_none_iff]

/-! ## Texts one below the other -/

/-- Texts one below the other, each with a line feed behind it. -/
def stack (texts : List String) : List Char :=
  texts.flatMap fun text => text.toList ++ ['\n']

theorem stack_append (texts texts' : List String) : stack (texts ++ texts') = stack texts ++ stack texts' :=
  List.flatMap_append

theorem stack_singleton (text : String) : stack [text] = text.toList ++ ['\n'] :=
  List.flatMap_singleton _ _

/-- Texts one below the other end with a line feed, if there are any. -/
theorem endsLine_stack (texts : List String) : stack texts = [] ∨ EndsLine (stack texts) := by
  rcases List.eq_nil_or_concat texts with rfl | ⟨before, last, rfl⟩
  · exact .inl rfl
  · right
    simp [List.concat_eq_append, stack_append, stack_singleton, EndsLine]

theorem indent_stack_append (texts : List String) (rest : List Char) :
    indent (stack texts ++ rest) = indent (stack texts) ++ indent rest := by
  rw [indent, indentFrom_append, (startsLine_iff _).mpr (endsLine_stack texts)]
  rfl

theorem indent_stack_concat (before : List String) (last : String) :
    indent (stack (before ++ [last])) = indent (stack before ++ last.toList) ++ ['\n'] := by
  rw [stack_append, stack_singleton, ← List.append_assoc, indent_append_newline]
  rfl

end Text

open Text

/-! ## Paragraphs -/

namespace Outcome

/-- The status of an outcome in plain words. -/
def word : Outcome → String
  | .passed => "passed"
  | .created path => "created " ++ path.text
  | .failed .. => "FAILED"
  | .skipped _ => "SKIPPED"

/-- What an outcome has to say below its status. -/
def paragraphs : Outcome → List String
  | .passed => []
  | .created _ => []
  | .skipped reason => ["Reason: " ++ reason]
  | .failed reason detail => ("Reason: " ++ reason) :: detail.toList

theorem status_false (outcome : Outcome) : outcome.status false = outcome.word.toList := by
  cases outcome <;> simp [status, word, Ansi.paintChars]

theorem flatten_explanation (outcome : Outcome) : outcome.explanation.flatten = stack outcome.paragraphs := by
  cases outcome with
  | passed => rfl
  | created path => rfl
  | failed reason detail => cases detail <;> simp [explanation, paragraphs, stack]
  | skipped reason => simp [explanation, paragraphs, stack]

end Outcome

namespace Report

variable {report : Report} {color : Bool}

/-- What a report shows below its first line. -/
def paragraphs (report : Report) : List String :=
  report.outcome.paragraphs ++ report.notes

theorem flatMap_indentEach (notes : List String) :
    (notes.flatMap fun note => indentEach true [note.toList, ['\n']]) = indent (stack notes) := by
  induction notes with
  | nil => rfl
  | cons note notes ih =>
    rw [List.flatMap_cons, ih, indentEach_eq, ← List.singleton_append (l := notes), stack_append, indent_stack_append]
    simp [stack, indent]

/-- What the writers have put below the first line is one indented text. -/
theorem below_eq (report : Report) : report.below = indent (stack report.paragraphs) := by
  rw [below, indentEach_eq, Outcome.flatten_explanation, flatMap_indentEach, paragraphs, stack_append,
    indent_stack_append]
  rfl

/-- Only the line feed at the very end is left out. -/
theorem chars_append_newline (report : Report) (color : Bool) :
    report.chars color ++ ['\n'] = report.heading color ++ '\n' :: indent (stack report.paragraphs) := by
  rw [chars, below_eq]
  rcases List.eq_nil_or_concat report.paragraphs with hnil | ⟨before, last, hlast⟩
  · rw [hnil]
    exact congrArg (· ++ ['\n']) (dropFinalNewline_append _)
  · rw [hlast, List.concat_eq_append, indent_stack_concat, ← List.cons_append, ← List.append_assoc,
      dropFinalNewline_append]

theorem toList_text (report : Report) (color : Bool) : (report.text color).toList = report.chars color :=
  String.toList_ofList

/-! ## The lines of a report -/

theorem heading_false (report : Report) :
    report.heading false = (report.name ++ " " ++ report.outcome.word).toList := by
  simp [heading, Outcome.status_false]

theorem newline_not_mem_heading (hname : '\n' ∉ report.name.toList)
    (hpath : ∀ path, report.outcome = .created path → '\n' ∉ path.text.toList) : '\n' ∉ report.heading false := by
  have hword : '\n' ∉ report.outcome.word.toList := by
    cases houtcome : report.outcome with
    | passed => decide
    | created path => simpa [Outcome.word] using hpath path houtcome
    | failed reason detail => simp [Outcome.word]
    | skipped reason => simp [Outcome.word]
  rw [heading_false]
  simpa using ⟨hname, hword⟩

/-- The first line of a report is the name and the status. Every later line is empty or begins with two spaces. With
these taken off, what follows the first line of the report and one more line feed is the paragraphs. -/
theorem text_layout (report : Report) (hname : '\n' ∉ report.name.toList)
    (hpath : ∀ path, report.outcome = .created path → '\n' ∉ path.text.toList) :
    ((report.text false).toList.splitOn '\n').head? = some (report.name ++ " " ++ report.outcome.word).toList ∧
      (∀ line ∈ ((report.text false).toList.splitOn '\n').tail, line = [] ∨ [' ', ' '] <+: line) ∧
      ['\n'].intercalate (((report.text false ++ "\n").toList.splitOn '\n').tail.map (·.drop 2)) =
        stack report.paragraphs := by
  have hlines : (report.chars false ++ ['\n']).splitOn '\n' =
      report.heading false :: (indent (stack report.paragraphs)).splitOn '\n' := by
    rw [chars_append_newline, splitOn_append_newline, splitOn_of_not_mem (newline_not_mem_heading hname hpath)]
    rfl
  -- one more line feed only adds an empty line at the end
  have hmore : (report.chars false ++ ['\n']).splitOn '\n' = (report.chars false).splitOn '\n' ++ [[]] :=
    splitOn_append_newline _ _
  obtain ⟨first, later, hsplit⟩ := List.exists_cons_of_ne_nil (List.splitOn_ne_nil '\n' (report.chars false))
  have hcons : first :: (later ++ [[]]) = report.heading false :: (indent (stack report.paragraphs)).splitOn '\n' := by
    rw [← hlines, hmore, hsplit]
    rfl
  obtain ⟨hfirst, hlater⟩ := List.cons.inj hcons
  refine ⟨?_, ?_, ?_⟩
  · rw [toList_text, hsplit, ← heading_false, hfirst]
    rfl
  · intro line hline
    rw [toList_text, hsplit, List.tail_cons] at hline
    exact eq_nil_or_prefix_of_mem_splitOn_indent (hlater ▸ List.mem_append_left _ hline)
  · rw [String.toList_append, toList_text]
    exact (congrArg (fun lines => ['\n'].intercalate (lines.tail.map (·.drop 2))) hlines).trans
      (intercalate_drop_indent _)

/-- A failure with a detail of several lines, some empty and one indented already, and with notes. -/
def talkative : Report :=
  ⟨"dev/compiler/if", .failed "output differs" (some "one\n\n  two\n"), ["WARNING: unused\nhere", ""]⟩

/-- The layout of a failure. -/
theorem text_layout_of_failure :
    talkative.text false =
      "dev/compiler/if FAILED\n  Reason: output differs\n  one\n\n    two\n\n  WARNING: unused\n  here\n" ∧
    '\n' ∉ talkative.name.toList ∧ (∀ path, talkative.outcome = .created path → '\n' ∉ path.text.toList) ∧
    ((talkative.text false).toList.splitOn '\n').head? = some "dev/compiler/if FAILED".toList ∧
    (∀ line ∈ ((talkative.text false).toList.splitOn '\n').tail, line = [] ∨ [' ', ' '] <+: line) ∧
    ['\n'].intercalate (((talkative.text false ++ "\n").toList.splitOn '\n').tail.map (·.drop 2)) =
      "Reason: output differs\none\n\n  two\n\nWARNING: unused\nhere\n\n".toList := by
  have hname : '\n' ∉ talkative.name.toList := by decide
  have hpath : ∀ path, talkative.outcome = .created path → '\n' ∉ path.text.toList := fun path h => nomatch h
  obtain ⟨hfirst, hlater, hback⟩ := text_layout talkative hname hpath
  exact ⟨rfl, hname, hpath, hfirst, hlater, hback⟩

/-! ## The end of a report -/

theorem not_endsLine_heading (hpath : ∀ path, report.outcome = .created path → ¬ EndsLine path.text.toList) :
    ¬ EndsLine (report.heading color) := by
  have hstatus : ¬ EndsLine (report.outcome.status color) := by
    cases houtcome : report.outcome with
    | passed => exact (by decide : ∀ color, ¬ EndsLine (Ansi.paintChars color .green "passed".toList)) color
    | created path => simpa [Outcome.status, endsLine_append_cons, endsLine_cons] using hpath path houtcome
    | failed reason detail => exact (by decide : ∀ color, ¬ EndsLine (Ansi.paintChars color .red "FAILED".toList)) color
    | skipped reason => exact (by decide : ∀ color, ¬ EndsLine (Ansi.paintChars color .yellow "SKIPPED".toList)) color
  simpa [heading, endsLine_append_cons, endsLine_cons] using hstatus

theorem chars_of_paragraphs_eq_nil (h : report.paragraphs = []) : report.chars color = report.heading color := by
  have hchars := chars_append_newline report color
  rw [h] at hchars
  exact List.append_cancel_right hchars

theorem chars_of_paragraphs_eq_concat {before : List String} {last : String}
    (h : report.paragraphs = before ++ [last]) :
    report.chars color = report.heading color ++ '\n' :: indent (stack before ++ last.toList) := by
  have hchars := chars_append_newline report color
  rw [h, indent_stack_concat, ← List.cons_append, ← List.append_assoc] at hchars
  exact List.append_cancel_right hchars

/-- A report ends with a line feed just if its last paragraph is empty or ends with one. -/
theorem text_endsLine_iff (report : Report) (color : Bool)
    (hpath : ∀ path, report.outcome = .created path → ¬ EndsLine path.text.toList) :
    EndsLine (report.text color).toList ↔
      ∃ last ∈ report.paragraphs.getLast?, last = "" ∨ EndsLine last.toList := by
  rw [toList_text]
  rcases List.eq_nil_or_concat report.paragraphs with hnil | ⟨before, last, hlast⟩
  · simpa [hnil, chars_of_paragraphs_eq_nil hnil] using not_endsLine_heading hpath
  · rw [List.concat_eq_append] at hlast
    have hend : EndsLine (report.chars color) ↔
        stack before ++ last.toList = [] ∨ EndsLine (stack before ++ last.toList) := by
      simp [chars_of_paragraphs_eq_concat hlast, endsLine_append_cons, endsLine_cons, indent_eq_nil, endsLine_indent]
    rw [hend]
    by_cases hempty : last = ""
    · simpa [hlast, hempty] using endsLine_stack before
    · obtain ⟨c, rest, hcons⟩ := List.exists_cons_of_ne_nil (mt String.toList_eq_nil_iff.mp hempty)
      simp [hlast, hempty, hcons, endsLine_append_cons]

/-- The difference of two modules, each a text that ends with a line feed. -/
def differing : Report :=
  ⟨"dev/compiler/a", .failed "output differs from fixtures/a.wat in 1 places" (some "(module\n)\n"), []⟩

/-- The report of a difference that ends with a line feed ends with one too. -/
theorem text_endsLine_of_difference :
    (∀ path, differing.outcome = .created path → ¬ EndsLine path.text.toList) ∧
    EndsLine (differing.text false).toList := by
  have hpath : ∀ path, differing.outcome = .created path → ¬ EndsLine path.text.toList := fun path h => nomatch h
  exact ⟨hpath, (text_endsLine_iff differing false hpath).mpr ⟨"(module\n)\n", rfl, .inr (by decide)⟩⟩

/-- Not every report ends inside a line. -/
theorem not_always_inside_line :
    ¬ ∀ (report : Report) (color : Bool), ¬ EndsLine report.name.toList →
      (∀ path, report.outcome = .created path → ¬ EndsLine path.text.toList) →
      ¬ EndsLine (report.text color).toList := by
  intro h
  exact h differing false (by decide) (fun path hpath => nomatch hpath) rfl

end Report

end GoldenBench
