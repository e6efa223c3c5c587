import GoldenBench.Diagnostic
import GoldenBench.Directive
import GoldenBench.Proofs.Canonical

/-!
# Line endings

A text whose lines end with a carriage return and a line feed (`Text.crlf`) is treated like the text whose lines end
with the line feed alone.

* `Text.lines_crlfChars`: both have the same lines, so what is read line by line is the same.
* `Canonical.ofChars_crlfChars`: the canonical form of the one is that of the other with its line endings.
* `Text.crlf_equivariant`: canonical forms, diagnostics and directives.
-/

namespace GoldenBench

variable {text body tail : List Char}

namespace Text

/-- A text with a carriage return before each line feed. -/
def crlfChars (text : List Char) : List Char :=
  text.flatMap fun c => if c = '\n' then ['\r', '\n'] else [c]

/-- A text with a carriage return before each line feed. -/
def crlf (text : String) : String :=
  String.ofList (crlfChars text.toList)

theorem crlfChars_newline_cons (text : List Char) : crlfChars ('\n' :: text) = '\r' :: '\n' :: crlfChars text := rfl

theorem crlfChars_cons {c : Char} (h : c ≠ '\n') (text : List Char) : crlfChars (c :: text) = c :: crlfChars text := by
  simp [crlfChars, h]

theorem crlfChars_append (text more : List Char) : crlfChars (text ++ more) = crlfChars text ++ crlfChars more :=
  List.flatMap_append

theorem crlfChars_of_not_mem (h : '\n' ∉ text) : crlfChars text = text := by
  induction text with
  | nil => rfl
  | cons c text ih =>
    rw [List.mem_cons, not_or] at h
    rw [crlfChars_cons (Ne.symm h.1), ih h.2]

theorem getLast?_crlfChars (text : List Char) : (crlfChars text).getLast? = text.getLast? := by
  rcases List.eq_nil_or_concat text with rfl | ⟨before, c, rfl⟩
  · rfl
  · rw [List.concat_eq_append, crlfChars_append, List.getLast?_concat]
    by_cases hc : c = '\n'
    · simp [hc, crlfChars]
    · simp [hc, crlfChars]

/-- Both texts end with the same character. -/
theorem exists_concat_of_crlfChars {c : Char} {more : List Char} (h : crlfChars text = more ++ [c]) :
    ∃ before, text = before ++ [c] :=
  List.getLast?_eq_some_iff.mp (by rw [← getLast?_crlfChars, h, List.getLast?_concat])

theorem linesFrom_crlfChars (h : '\r' ∉ text) {held : List Char} (hheld : held.head? ≠ some '\r') :
    linesFrom held (crlfChars text) = linesFrom held text := by
  induction text generalizing held with
  | nil => rfl
  | cons c text ih =>
    rw [List.mem_cons, not_or] at h
    by_cases hc : c = '\n'
    · -- the carriage return that was put in is the one that a line feed takes with it
      have hclose : closeLine held = held.reverse := by
        unfold closeLine
        split
        · simp at hheld
        · rfl
      subst hc
      rw [crlfChars_newline_cons, linesFrom, if_neg (by decide), linesFrom, if_pos rfl, ih h.2 (by simp), linesFrom,
        if_pos rfl, hclose]
      rfl
    · rw [crlfChars_cons hc, linesFrom, if_neg hc, linesFrom, if_neg hc, ih h.2 (by simpa using Ne.symm h.1)]

/-- The lines are the same. -/
theorem lines_crlfChars (h : '\r' ∉ text) : lines (crlfChars text) = lines text :=
  linesFrom_crlfChars h (by simp)

end Text

open Text (crlf crlfChars)

/-! ## Canonical texts -/

namespace Canonical

theorem startsExport_crlfChars (text : List Char) : startsExport (crlfChars text) = startsExport text := by
  by_cases hmem : '\n' ∈ text
  · obtain ⟨line, rest, rfl, hline⟩ := List.eq_append_cons_of_mem hmem
    have hreturn : startsExport (line ++ '\r' :: '\n' :: crlfChars rest) = startsExport line :=
      startsExport_append_cons (by decide) (by decide)
    rw [Text.crlfChars_append, Text.crlfChars_newline_cons, Text.crlfChars_of_not_mem hline, hreturn,
      startsExport_append_newline]
  · rw [Text.crlfChars_of_not_mem hmem]

theorem exportTail?_crlfChars (atStart : Bool) (text : List Char) :
    exportTail? atStart (crlfChars text) = (exportTail? atStart text).map crlfChars := by
  induction text generalizing atStart with
  | nil => rfl
  | cons c text ih =>
    have hstart := startsExport_crlfChars (c :: text)
    by_cases hc : c = '\n'
    · subst hc
      have hnone : startsExport ('\n' :: text) = false := startsExport_append_newline [] text
      rw [Text.crlfChars_newline_cons] at hstart ⊢
      simp [exportTail?, hstart, hnone, ih]
    · have hbeq : (c == '\n') = false := beq_eq_false_iff_ne.mpr hc
      rw [Text.crlfChars_cons hc] at hstart ⊢
      cases hfound : atStart && startsExport (c :: text) with
      | true => simp [exportTail?, hstart, hfound, Text.crlfChars_cons hc]
      | false => simp [exportTail?, hstart, hfound, hbeq, ih]

theorem Closes.crlfChars (h : Closes body text) (hreturn : '\r' ∉ text) :
    Closes (crlfChars body) (crlfChars text) := by
  obtain ⟨ending, hending, rfl⟩ := h
  have hplain : '\r' ∉ ending := fun hmem => hreturn (List.mem_append_right _ (List.mem_cons_of_mem _ hmem))
  rw [Text.crlfChars_append, Text.crlfChars_cons (by decide)]
  simp only [List.mem_cons, List.not_mem_nil, or_false] at hending
  rcases hending with rfl | rfl | rfl | rfl
  · exact ⟨[], by simp, rfl⟩
  · exact ⟨['\r', '\n'], by simp, rfl⟩
  · simp at hplain
  · simp at hplain

/-- A carriage return before each line feed closes no text that was open. -/
theorem exists_closes_of_crlfChars (h : Closes body (crlfChars text)) (hreturn : '\r' ∉ text) :
    ∃ body, Closes body text := by
  obtain ⟨ending, hending, htext⟩ := h
  simp only [List.mem_cons, List.not_mem_nil, or_false] at hending
  rcases hending with rfl | rfl | rfl | rfl
  · obtain ⟨before, rfl⟩ := Text.exists_concat_of_crlfChars htext
    exact ⟨before, [], by simp, rfl⟩
  · -- a line feed has a carriage return before it, not a parenthesis
    rw [List.append_cons] at htext
    obtain ⟨before, rfl⟩ := Text.exists_concat_of_crlfChars htext
    rw [Text.crlfChars_append, ← List.append_cons] at htext
    have hending := (List.append_inj' htext rfl).2
    simp [crlfChars] at hending
  · rw [List.append_cons] at htext
    obtain ⟨before, rfl⟩ := Text.exists_concat_of_crlfChars htext
    simp at hreturn
  · have hlast : crlfChars text = (body ++ [')', '\r']) ++ ['\n'] := by simpa using htext
    obtain ⟨line, rfl⟩ := Text.exists_concat_of_crlfChars hlast
    rw [Text.crlfChars_append, List.append_cons] at htext
    obtain ⟨before, rfl⟩ := Text.exists_concat_of_crlfChars (List.append_cancel_right htext)
    exact ⟨before, ['\n'], by simp, by simp⟩

theorem Closes.ne (h : Closes body text) : body ≠ text := by
  obtain ⟨ending, -, rfl⟩ := h
  intro heq
  simp at heq

theorem dropClosing_crlfChars (hreturn : '\r' ∉ text) :
    dropClosing (crlfChars text) = crlfChars (dropClosing text) := by
  rcases dropClosing_cases text with hcloses | hopen
  · exact dropClosing_of_closes (hcloses.crlfChars hreturn)
  · rw [hopen]
    refine (dropClosing_cases (crlfChars text)).resolve_left fun hcloses => ?_
    obtain ⟨body, hbody⟩ := exists_closes_of_crlfChars hcloses hreturn
    exact hbody.ne ((dropClosing_of_closes hbody).symm.trans hopen)

/-- The canonical form keeps its line endings. -/
theorem ofChars_crlfChars (hreturn : '\r' ∉ text) : ofChars (crlfChars text) = crlfChars (ofChars text) := by
  unfold ofChars
  rw [startsExport_crlfChars, exportTail?_crlfChars]
  split
  · rfl
  · cases htail : exportTail? true text with
    | none => rfl
    | some tail =>
      exact dropClosing_crlfChars fun hmem => hreturn ((suffix_of_exportTail? htail).subset hmem)

end Canonical

/-! ## What is read line by line -/

/-- It does not matter which way the lines of a text end: the canonical form is the same but for its line endings, the
same diagnostics are found in it, and the same directive, or the same fault, on its first line. -/
theorem Text.crlf_equivariant (text : String) (h : '\r' ∉ text.toList) :
    Canonical.ofText (crlf text) = crlf (Canonical.ofText text) ∧
    Diagnostic.parse (crlf text) = Diagnostic.parse text ∧
    Directive.options (crlf text).toList = Directive.options text.toList := by
  have hlines : lines (crlf text).toList = lines text.toList := by
    rw [crlf, String.toList_ofList, lines_crlfChars h]
  refine ⟨?_, ?_, ?_⟩
  · rw [Canonical.ofText, Canonical.ofText, crlf, crlf, String.toList_ofList, String.toList_ofList,
      Canonical.ofChars_crlfChars h]
  · rw [Diagnostic.parse, Diagnostic.parse, Diagnostic.scan, Diagnostic.scan, hlines]
  · have hfirst : firstLine (crlf text).toList = firstLine text.toList := by
      rw [firstLine, firstLine, hlines]
    rw [Directive.options, Directive.options, Directive.ofSource?, Directive.ofSource?, Directive.payload?,
      Directive.payload?, hfirst]

/-- A carriage return is added to the lines that are left, and to none of a message. -/
theorem Text.crlf_equivariant_of_lines :
    '\r' ∉ "//![\nERROR: a\n (export f)\n)\n".toList ∧
    crlf "//![\nERROR: a\n (export f)\n)\n" = "//![\r\nERROR: a\r\n (export f)\r\n)\r\n" ∧
    Canonical.ofText "//![\r\nERROR: a\r\n (export f)\r\n)\r\n" = " (export f)\r\n" ∧
    Diagnostic.parse "//![\r\nERROR: a\r\n (export f)\r\n)\r\n" = [⟨.error, "a\n (export f)\n)"⟩] ∧
    Directive.options "//![\r\nERROR: a\r\n (export f)\r\n)\r\n".toList =
      Directive.options "//![\nERROR: a\n (export f)\n)\n".toList := by
  have hplain : '\r' ∉ "//![\nERROR: a\n (export f)\n)\n".toList := by decide +kernel
  have hcrlf : crlf "//![\nERROR: a\n (export f)\n)\n" = "//![\r\nERROR: a\r\n (export f)\r\n)\r\n" := by
    decide +kernel
  obtain ⟨hcanonical, hdiagnostics, hdirective⟩ := crlf_equivariant _ hplain
  rw [hcrlf] at hcanonical hdiagnostics hdirective
  refine ⟨hplain, hcrlf, hcanonical.trans ?_, hdiagnostics.trans ?_, hdirective⟩
  · decide +kernel
  · decide +kernel

end GoldenBench
