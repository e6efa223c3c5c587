import GoldenBench.Proofs.Canonical
import GoldenBench.Proofs.Text.Lines

/-!
# Canonical forms are export surfaces

The canonical form is described by the lines of a text, without the search: it begins at the first line that begins an
export (`IsExportLine`), and one parenthesis that closes the text is taken off (`Closes`). What stands before that line
has no influence.

* `startsExport_iff`: which lines begin an export.
* `exportTail?_append`: the search passes over lines that do not.
* `ofText_surface`: the canonical form of every text, and that it does not depend on the preamble.
-/

namespace GoldenBench.Canonical

variable {text tail body line p : List Char} {before after : List (List Char)}

/-- A line that begins, after spaces and tabs, with an export. -/
def IsExportLine (line : List Char) : Prop :=
  ∃ gap rest, (∀ c ∈ gap, c = ' ' ∨ c = '\t') ∧ line = gap ++ "(export".toList ++ rest

theorem startsExport_iff (line : List Char) : startsExport line = true ↔ IsExportLine line := by
  have hgap : ∀ c, isGap c = true ↔ c = ' ' ∨ c = '\t' := fun c => by simp [isGap]
  rw [startsExport, List.isPrefixOf_iff_prefix]
  constructor
  · rintro ⟨rest, hrest⟩
    refine ⟨line.takeWhile isGap, rest, fun c hc => (hgap c).mp (List.all_eq_true.mp List.all_takeWhile c hc), ?_⟩
    calc line = line.takeWhile isGap ++ line.dropWhile isGap := List.takeWhile_append_dropWhile.symm
      _ = line.takeWhile isGap ++ (opening ++ rest) := by rw [hrest]
      _ = line.takeWhile isGap ++ opening ++ rest := (List.append_assoc ..).symm
  · rintro ⟨gap, rest, hblank, rfl⟩
    have hdrop : (gap ++ opening ++ rest).dropWhile isGap = opening ++ rest := by
      rw [List.append_assoc, List.dropWhile_append_of_pos fun c hc => (hgap c).mpr (hblank c hc)]
      rfl
    exact ⟨rest, hdrop.symm⟩

/-! ## The search over lines -/

theorem exportTail?_false_append (h : '\n' ∉ line) (rest : List Char) :
    exportTail? false (line ++ '\n' :: rest) = exportTail? true rest := by
  induction line with
  | nil => rfl
  | cons c line ih =>
    rw [List.mem_cons, not_or] at h
    have hc : (c == '\n') = false := beq_eq_false_iff_ne.mpr (Ne.symm h.1)
    rw [List.cons_append, exportTail?, Bool.false_and, if_neg (by decide), hc, ih h.2]

theorem exportTail?_true_eq (h : startsExport text = false) : exportTail? true text = exportTail? false text := by
  cases text with
  | nil => rfl
  | cons c text => simp [exportTail?, h]

/-- The search passes over a line that begins no export. -/
theorem exportTail?_append_newline (h : '\n' ∉ line) (hline : startsExport line = false) (rest : List Char) :
    exportTail? true (line ++ '\n' :: rest) = exportTail? true rest := by
  have hstart : startsExport (line ++ '\n' :: rest) = false := (startsExport_append_newline line rest).trans hline
  rw [exportTail?_true_eq hstart, exportTail?_false_append h]

/-- The search passes over lines that begin no export. -/
theorem exportTail?_append (h : ∀ line ∈ before, '\n' ∉ line ∧ startsExport line = false) (rest : List Char) :
    exportTail? true (before.flatMap (· ++ ['\n']) ++ rest) = exportTail? true rest := by
  induction before with
  | nil => rfl
  | cons line before ih =>
    obtain ⟨hnewline, hline⟩ := h line List.mem_cons_self
    rw [List.flatMap_cons, List.append_assoc, List.append_assoc, List.singleton_append,
      exportTail?_append_newline hnewline hline, ih fun line hmem => h line (List.mem_cons_of_mem _ hmem)]

theorem exportTail?_of_startsExport (h : startsExport tail = true) : exportTail? true tail = some tail := by
  cases tail with
  | nil => cases h
  | cons c tail => rw [exportTail?, h]; rfl

/-- What is left of a preamble and an export surface is the surface, closed. -/
theorem ofChars_append (hne : before ≠ []) (h : ∀ line ∈ before, '\n' ∉ line ∧ startsExport line = false)
    (htail : startsExport tail = true) : ofChars (before.flatMap (· ++ ['\n']) ++ tail) = dropClosing tail := by
  have hstart : startsExport (before.flatMap (· ++ ['\n']) ++ tail) = false := by
    obtain ⟨line, before, rfl⟩ := List.exists_cons_of_ne_nil hne
    obtain ⟨-, hline⟩ := h line List.mem_cons_self
    rw [List.flatMap_cons, List.append_assoc, List.append_assoc, List.singleton_append, startsExport_append_newline,
      hline]
  rw [ofChars, hstart, exportTail?_append h, exportTail?_of_startsExport htail]
  rfl

/-! ## Every text -/

/-- The first export line of a text, where it is not the first line of all. -/
structure FirstExport (text : List Char) (before : List (List Char)) (line : List Char)
    (after : List (List Char)) : Prop where
  /-- The lines of the text. -/
  lines : text.splitOn '\n' = before ++ line :: after
  /-- There is a line before it. -/
  preceded : before ≠ []
  /-- None of the lines before it begins an export. -/
  first : ∀ line ∈ before, ¬ IsExportLine line
  /-- It begins an export. -/
  exports : IsExportLine line

/-- Lines before an export: they are ended, and none of them begins one. -/
structure IsPreamble (p : List Char) : Prop where
  /-- A line feed ends the last of them. -/
  ended : p.getLast? = some '\n'
  /-- None of them begins an export. -/
  none_exports : ∀ line ∈ p.splitOn '\n', ¬ IsExportLine line

theorem not_isExportLine_iff (line : List Char) : ¬ IsExportLine line ↔ startsExport line = false := by
  rw [← startsExport_iff, Bool.not_eq_true]

theorem FirstExport.ofChars_eq (h : FirstExport text before line after) :
    ofChars text = dropClosing (['\n'].intercalate (line :: after)) := by
  have htext : text = before.flatMap (· ++ ['\n']) ++ ['\n'].intercalate (line :: after) := by
    rw [← Text.intercalate_append (by simp), ← h.lines, List.intercalate_splitOn]
  have hlines : ∀ line ∈ before, '\n' ∉ line ∧ startsExport line = false := fun line hmem =>
    ⟨Text.newline_not_mem_of_mem_splitOn (h.lines ▸ List.mem_append_left _ hmem),
      (not_isExportLine_iff line).mp (h.first line hmem)⟩
  have htail : startsExport (['\n'].intercalate (line :: after)) = true :=
    (startsExport_intercalate line after).trans ((startsExport_iff line).mpr h.exports)
  rw [htext, ofChars_append h.preceded hlines htail]

/-- If some line begins an export, but not the first one, there is a first one that does. -/
theorem exists_firstExport (hstart : startsExport text = false) (hmem : line ∈ text.splitOn '\n')
    (hline : startsExport line = true) : ∃ before line after, FirstExport text before line after := by
  obtain ⟨found, hfound⟩ := Option.isSome_iff_exists.mp (List.find?_isSome.mpr ⟨line, hmem, hline⟩)
  obtain ⟨hexports, before, after, hlines, hbefore⟩ := List.find?_eq_some_iff_append.mp hfound
  refine ⟨before, found, after, hlines, ?_, fun line hmem => ?_, (startsExport_iff found).mp hexports⟩
  · rintro rfl
    rw [startsExport_of_splitOn hlines, hexports] at hstart
    cases hstart
  · exact (not_isExportLine_iff line).mpr (by simpa using hbefore line hmem)

theorem ofChars_eq_self (h : ∀ before line after, ¬ FirstExport text before line after) : ofChars text = text := by
  rw [ofChars_eq_self_iff, exportTail?_eq_none_iff, or_iff_not_imp_left, Bool.not_eq_true]
  intro hstart line hmem
  by_contra hline
  obtain ⟨before, line, after, hfirst⟩ := exists_firstExport hstart hmem ((Bool.not_eq_false _).mp hline)
  exact h before line after hfirst

/-- The first line behind a preamble is the first export line, if it is one. -/
theorem IsPreamble.firstExport {surface : List Char} (h : IsPreamble p)
    (hsurface : surface.splitOn '\n' = line :: after) (hline : IsExportLine line) :
    ∃ before, FirstExport (p ++ surface) before line after := by
  obtain ⟨lines, rfl⟩ := List.getLast?_eq_some_iff.mp h.ended
  have hlines : (lines ++ ['\n']).splitOn '\n' = lines.splitOn '\n' ++ [[]] := List.splitOn_append_cons_self lines []
  refine ⟨lines.splitOn '\n', ?_, List.splitOn_ne_nil '\n' lines, fun line hmem => ?_, hline⟩
  · rw [List.append_assoc, List.singleton_append, List.splitOn_append_cons_self, hsurface]
  · exact h.none_exports line (hlines ▸ List.mem_append_left _ hmem)

theorem IsPreamble.ofChars_append {surface : List Char} (h : IsPreamble p)
    (hline : ∃ line ∈ (surface.splitOn '\n').head?, IsExportLine line) :
    ofChars (p ++ surface) = dropClosing surface := by
  obtain ⟨line, hhead, hline⟩ := hline
  obtain ⟨after, hsurface⟩ := List.head?_eq_some_iff.mp hhead
  obtain ⟨before, hfirst⟩ := h.firstExport hsurface hline
  rw [hfirst.ofChars_eq, ← hsurface, List.intercalate_splitOn]

/-- The canonical form is what begins at the first export line, unless that is the first line of all, and has one
closing parenthesis less, if it ends with one and at most a line ending after it. Any other text is its own canonical
form. So two preambles before the same surface have the same canonical form. -/
theorem ofText_surface :
    (∀ (text : String) before line after, FirstExport text.toList before line after →
      let tail := ['\n'].intercalate (line :: after)
      (∀ body, Closes body tail → ofText text = String.ofList body) ∧
      ((∀ body, ¬ Closes body tail) → ofText text = String.ofList tail)) ∧
    (∀ text : String, (∀ before line after, ¬ FirstExport text.toList before line after) → ofText text = text) ∧
    ∀ p q surface : String, IsPreamble p.toList → IsPreamble q.toList →
      (∃ line ∈ (surface.toList.splitOn '\n').head?, IsExportLine line) →
      ofText (p ++ surface) = ofText (q ++ surface) := by
  refine ⟨fun text before line after hfirst => ⟨fun body hcloses => ?_, fun hopen => ?_⟩, fun text hnone => ?_,
    fun p q surface hp hq hline => ?_⟩
  · rw [ofText, hfirst.ofChars_eq, dropClosing_of_closes hcloses]
  · rw [ofText, hfirst.ofChars_eq, (dropClosing_cases _).resolve_left (hopen _)]
  · rw [ofText, ofChars_eq_self hnone, String.ofList_toList]
  · rw [ofText, ofText, String.toList_append, String.toList_append, hp.ofChars_append hline, hq.ofChars_append hline]

/-- Of two parentheses at the end one goes; a text that is a surface already keeps both; and an export in a comment
belongs to the preamble. -/
theorem ofText_surface_of_module :
    FirstExport "(module\n (export f\n))\n".toList ["(module".toList] " (export f".toList ["))".toList, []] ∧
    Closes " (export f\n)".toList (['\n'].intercalate [" (export f".toList, "))".toList, []]) ∧
    ofText "(module\n (export f\n))\n" = " (export f\n)" ∧
    (∀ before line after, ¬ FirstExport "(export f\n))\n".toList before line after) ∧
    ofText "(export f\n))\n" = "(export f\n))\n" ∧
    IsPreamble "(module\n".toList ∧ IsPreamble "\n;; (export\n".toList ∧
    ofText ("(module\n" ++ " (export f\n))\n") = ofText ("\n;; (export\n" ++ " (export f\n))\n") := by
  have hfirst : FirstExport "(module\n (export f\n))\n".toList ["(module".toList] " (export f".toList
      ["))".toList, []] :=
    { lines := by decide +kernel
      preceded := by decide
      first := by
        simp only [not_isExportLine_iff]
        decide +kernel
      exports := (startsExport_iff _).mp (by decide +kernel) }
  have hcloses : Closes " (export f\n)".toList (['\n'].intercalate [" (export f".toList, "))".toList, []]) :=
    ⟨['\n'], by decide, by decide +kernel⟩
  have hsurface : IsExportLine "(export f".toList := (startsExport_iff _).mp (by decide +kernel)
  have hnone : ∀ before line after, ¬ FirstExport "(export f\n))\n".toList before line after := by
    intro before line after h
    obtain ⟨start, before, rfl⟩ := List.exists_cons_of_ne_nil h.preceded
    have hstart : "(export f\n))\n".toList.splitOn '\n' = ["(export f".toList, "))".toList, []] := by decide +kernel
    have hlines := h.lines.symm.trans hstart
    exact h.first start List.mem_cons_self ((List.cons.inj hlines).1 ▸ hsurface)
  have hmodule : IsPreamble "(module\n".toList :=
    ⟨by decide +kernel, by simp only [not_isExportLine_iff]; decide +kernel⟩
  have hcomment : IsPreamble "\n;; (export\n".toList :=
    ⟨by decide +kernel, by simp only [not_isExportLine_iff]; decide +kernel⟩
  refine ⟨hfirst, hcloses, ?_, hnone, ofText_surface.2.1 _ hnone, hmodule, hcomment, ?_⟩
  · exact (ofText_surface.1 _ _ _ _ hfirst).1 _ hcloses
  · refine ofText_surface.2.2 _ _ " (export f\n))\n" hmodule hcomment ⟨" (export f".toList, by decide +kernel, ?_⟩
    exact (startsExport_iff _).mp (by decide +kernel)

end GoldenBench.Canonical
