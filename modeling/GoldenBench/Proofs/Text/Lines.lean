import GoldenBench.Text.Lines
import Mathlib.Data.List.Basic

/-!
# Lines and the line feeds between them

A text is what stands between its line feeds, put together again (`List.intercalate_splitOn`). The lines that
`Text.lines` gives are the same pieces, with the carriage return at the end of each but the last taken off (`chomp`),
and without an empty piece at the end.

* `lines_of_splitOn`: the lines of any text by its pieces.
* `lines_intercalate`: pieces are the lines of the text that they make.
* `dropFinalNewline_flatMap`: so are lines that are written one after another.
-/

namespace GoldenBench.Text

variable {text line last : List Char} {before after pieces : List (List Char)}

/-- What stands between line feeds has none. -/
theorem newline_not_mem_of_mem_splitOn (h : line ∈ text.splitOn '\n') : '\n' ∉ line := by
  induction text generalizing line with
  | nil =>
    obtain rfl := List.mem_singleton.mp h
    simp
  | cons c text ih =>
    rw [List.splitOn_cons_eq_if_modifyHead] at h
    split at h
    · rcases List.mem_cons.mp h with rfl | h
      · simp
      · exact ih h
    · rename_i hc
      obtain ⟨first, others, hsplit⟩ := List.exists_cons_of_ne_nil (List.splitOn_ne_nil '\n' text)
      rw [hsplit, List.modifyHead_cons] at h
      rcases List.mem_cons.mp h with rfl | h
      · have hfirst := ih (hsplit ▸ List.mem_cons_self)
        exact fun hmem => (List.mem_cons.mp hmem).elim (fun heq => hc (beq_iff_eq.mpr heq.symm)) hfirst
      · exact ih (hsplit ▸ List.mem_cons_of_mem _ h)

theorem exists_splitOn (text : List Char) : ∃ before last, text.splitOn '\n' = before ++ [last] := by
  rcases List.eq_nil_or_concat (text.splitOn '\n') with hnil | ⟨before, last, h⟩
  · exact absurd hnil (List.splitOn_ne_nil '\n' text)
  · exact ⟨before, last, h.trans List.concat_eq_append⟩

/-- Pieces, each of the first ones with the line feed that ends it. -/
theorem intercalate_append (h : after ≠ []) :
    ['\n'].intercalate (before ++ after) = before.flatMap (· ++ ['\n']) ++ ['\n'].intercalate after := by
  induction before with
  | nil => rfl
  | cons line before ih =>
    rw [List.cons_append, List.intercalate_cons_of_ne_nil (by simp [h]), ih, List.flatMap_cons,
      List.append_assoc (line ++ ['\n'])]

/-- A line without the carriage return that belongs to its ending. -/
def chomp (line : List Char) : List Char :=
  closeLine line.reverse

theorem chomp_of_not_mem (h : '\r' ∉ line) : chomp line = line := by
  unfold chomp closeLine
  split
  · rename_i held hreverse
    have hmem : '\r' ∈ line.reverse := hreverse ▸ List.mem_cons_self
    exact absurd (List.mem_reverse.mp hmem) h
  · exact List.reverse_reverse line

/-- At most one carriage return is taken off. -/
theorem chomp_cases (line : List Char) : chomp line = line ∨ line = chomp line ++ ['\r'] := by
  unfold chomp closeLine
  split
  · rename_i held hreverse
    right
    rw [← List.reverse_reverse line, hreverse, List.reverse_cons]
  · exact .inl (List.reverse_reverse line)

theorem subset_closeLine (held : List Char) : closeLine held ⊆ held := by
  unfold closeLine
  split
  · exact fun c hc => List.mem_cons_of_mem _ (List.mem_reverse.mp hc)
  · exact fun c hc => List.mem_reverse.mp hc

/-- Everything on a line is in the text. -/
theorem mem_of_mem_linesFrom {held text line : List Char} (h : line ∈ linesFrom held text) :
    line ⊆ held ++ text := by
  fun_induction linesFrom held text with
  | case1 held hempty => cases h
  | case2 held hempty =>
    obtain rfl := List.mem_singleton.mp h
    simp
  | case3 held rest ih =>
    rcases List.mem_cons.mp h with rfl | h
    · exact fun c hc => List.mem_append_left _ (subset_closeLine held hc)
    · intro c hc
      have hrest : c ∈ rest := by simpa using ih h hc
      simp [hrest]
  | case4 held c rest hc ih =>
    intro e he
    have hmem := ih h he
    simp only [List.mem_append, List.mem_cons] at hmem ⊢
    tauto

theorem chomp_subset (line : List Char) : chomp line ⊆ line := fun _ hc =>
  List.mem_reverse.mp (subset_closeLine line.reverse hc)

/-- Lines and their line feeds come off the front of a text. -/
theorem lines_append (h : ∀ line ∈ before, '\n' ∉ line) (rest : List Char) :
    lines (before.flatMap (· ++ ['\n']) ++ rest) = before.map chomp ++ lines rest := by
  induction before with
  | nil => rfl
  | cons line before ih =>
    rw [List.flatMap_cons, List.append_assoc, List.append_assoc, List.singleton_append,
      lines_append_newline _ _ (h line List.mem_cons_self), ih fun line hline => h line (List.mem_cons_of_mem _ hline)]
    rfl

theorem linesFrom_of_not_mem (h : '\n' ∉ line) (held : List Char) :
    linesFrom held line = if (held.reverse ++ line).isEmpty then [] else [held.reverse ++ line] := by
  induction line generalizing held with
  | nil => simp [linesFrom]
  | cons c line ih =>
    rw [List.mem_cons, not_or] at h
    simp [linesFrom, Ne.symm h.1, ih h.2]

/-- The lines of a text are what stands between its line feeds, without carriage returns before them, and without an
empty piece at the end. -/
theorem lines_of_splitOn (h : text.splitOn '\n' = before ++ [last]) :
    lines text = before.map chomp ++ if last.isEmpty then [] else [last] := by
  have htext : ['\n'].intercalate (text.splitOn '\n') = text := List.intercalate_splitOn '\n'
  rw [h, intercalate_append (by simp), List.intercalate_singleton] at htext
  have hpiece : ∀ line ∈ before ++ [last], '\n' ∉ line := fun line hline => newline_not_mem_of_mem_splitOn (h ▸ hline)
  rw [← htext, lines_append fun line hline => hpiece line (List.mem_append_left _ hline), lines,
    linesFrom_of_not_mem (hpiece last (by simp))]
  rfl

theorem newline_not_mem_of_mem_lines (h : line ∈ lines text) : '\n' ∉ line := by
  obtain ⟨before, last, hsplit⟩ := exists_splitOn text
  have hpiece : ∀ piece ∈ before ++ [last], '\n' ∉ piece := fun piece hmem =>
    newline_not_mem_of_mem_splitOn (hsplit ▸ hmem)
  rw [lines_of_splitOn hsplit] at h
  rcases List.mem_append.mp h with h | h
  · obtain ⟨piece, hmem, rfl⟩ := List.mem_map.mp h
    exact fun hnewline => hpiece piece (List.mem_append_left _ hmem) (chomp_subset piece hnewline)
  · split at h
    · cases h
    · obtain rfl := List.mem_singleton.mp h
      exact hpiece line (by simp)

/-- The first line of a text without line feeds is the whole text. -/
theorem firstLine_of_not_mem (h : '\n' ∉ line) : firstLine line = line := by
  rw [firstLine, lines, linesFrom_of_not_mem h]
  cases line with
  | nil => rfl
  | cons c line => rfl

theorem firstLine_append_newline (h : '\n' ∉ line) (rest : List Char) :
    firstLine (line ++ '\n' :: rest) = chomp line := by
  rw [firstLine, lines_append_newline line rest h]
  rfl

/-- Pieces without line ends of their own are the lines of the text that they make, unless the last one is empty. -/
theorem lines_intercalate (h : ∀ line ∈ pieces, '\n' ∉ line ∧ '\r' ∉ line)
    (hlast : ∀ last ∈ pieces.getLast?, last ≠ []) : lines (['\n'].intercalate pieces) = pieces := by
  rcases List.eq_nil_or_concat pieces with rfl | ⟨before, last, rfl⟩
  · rfl
  · rw [List.concat_eq_append] at h hlast ⊢
    have hsplit := List.splitOn_intercalate '\n' (fun line hline => (h line hline).1) (by simp : before ++ [last] ≠ [])
    have hchomp : before.map chomp = before.map id :=
      List.map_congr_left fun line hline => chomp_of_not_mem (h line (List.mem_append_left _ hline)).2
    rw [lines_of_splitOn hsplit, hchomp, List.map_id]
    simp [hlast last (by simp)]

/-- Lines, each with its line feed, but for the last. -/
theorem dropFinalNewline_flatMap (pieces : List (List Char)) :
    dropFinalNewline (pieces.flatMap (· ++ ['\n'])) = ['\n'].intercalate pieces := by
  rcases List.eq_nil_or_concat pieces with rfl | ⟨before, last, rfl⟩
  · rfl
  · rw [List.concat_eq_append, intercalate_append (by simp), List.intercalate_singleton, List.flatMap_append,
      List.flatMap_singleton, ← List.append_assoc, dropFinalNewline_append]

/-- The text of joined lines. -/
theorem joinLines_map_ofList (pieces : List (List Char)) :
    joinLines (pieces.map String.ofList) = String.ofList (['\n'].intercalate pieces) := by
  have hids : String.toList ∘ String.ofList = id := funext fun _ => String.toList_ofList
  apply String.toList_inj.mp
  rw [joinLines, String.toList_intercalate, List.map_map, hids, List.map_id]
  exact String.toList_ofList.symm

end GoldenBench.Text
