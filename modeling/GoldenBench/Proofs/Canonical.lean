import GoldenBench.Canonical
import Mathlib.Data.List.Basic

/-!
# Canonical forms are canonical

Whether a text begins with an export is seen before the first character that is no part of the opening
(`startsExport_append_cons`). The closing parenthesis that is cut off is such a character, so that the canonical form
still begins with the export that it was cut at; and so is a line ending, so that the search for an export is a search
among the lines.

* `ofChars_ofChars`: the canonical form of a canonical form is the form itself.
* `exportTail?_eq_none_iff`: no export is found just if no line begins with one.
* `ofText_idempotent`: the canonical form is canonical, and which texts are.
-/

namespace GoldenBench.Canonical

variable {text rest : List Char}

theorem startsExport_of_exportTail? {atStart : Bool} {tail : List Char} (h : exportTail? atStart text = some tail) :
    startsExport tail = true := by
  fun_induction exportTail? atStart text with
  | case1 => cases h
  | case2 atStart c rest hstarts =>
    cases h
    exact (Bool.and_eq_true_iff.mp hstarts).2
  | case3 atStart c rest hstarts ih => exact ih h

/-- A text is another one and a closing parenthesis, with at most a line ending after it. -/
def Closes (body text : List Char) : Prop :=
  ∃ ending ∈ [[], ['\n'], ['\r'], ['\r', '\n']], text = body ++ ')' :: ending

theorem dropClosing_of_closes {body : List Char} (h : Closes body text) : dropClosing text = body := by
  obtain ⟨ending, hending, rfl⟩ := h
  simp only [List.mem_cons, List.not_mem_nil, or_false] at hending
  rcases hending with rfl | rfl | rfl | rfl <;> simp [dropClosing]

theorem dropClosing_cases (text : List Char) : Closes (dropClosing text) text ∨ dropClosing text = text := by
  have hreverse : text = text.reverse.reverse := text.reverse_reverse.symm
  rw [dropClosing]
  split
  · rename_i rest h
    exact .inl ⟨[], by simp, by rw [hreverse, h]; simp⟩
  · rename_i rest h
    exact .inl ⟨['\n'], by simp, by rw [hreverse, h]; simp⟩
  · rename_i rest h
    exact .inl ⟨['\r'], by simp, by rw [hreverse, h]; simp⟩
  · rename_i rest h
    exact .inl ⟨['\r', '\n'], by simp, by rw [hreverse, h]; simp⟩
  · exact .inr rfl

/-- At most one closing parenthesis and a line ending are cut off. -/
theorem dropClosing_spec (text : List Char) :
    dropClosing text = text ∨ ∃ rest, text = dropClosing text ++ ')' :: rest := by
  rcases dropClosing_cases text with ⟨ending, -, h⟩ | h
  · exact .inr ⟨ending, h⟩
  · exact .inl h

/-- What begins a text stands before any character that is not in it. -/
theorem prefix_of_prefix_append {start : List Char} {stop : Char} (hstart : stop ∉ start)
    (h : start <+: text ++ stop :: rest) : start <+: text := by
  rcases List.prefix_or_prefix_of_prefix h (List.prefix_append text _) with h' | ⟨more, rfl⟩
  · exact h'
  · cases more with
    | nil => simp
    | cons c more =>
      obtain ⟨rfl, -⟩ := List.cons_prefix_cons.mp ((List.prefix_append_right_inj text).mp h)
      exact absurd (List.mem_append_right text List.mem_cons_self) hstart

/-- Whether a text begins with an export does not depend on what comes behind a character like `)`. -/
theorem startsExport_append_cons {stop : Char} (hgap : isGap stop = false) (hopening : stop ∉ opening) :
    startsExport (text ++ stop :: rest) = startsExport text := by
  have hdrop : (text ++ stop :: rest).dropWhile isGap = text.dropWhile isGap ++ stop :: rest := by
    rw [List.dropWhile_append]
    split
    · rename_i hempty
      rw [List.isEmpty_iff.mp hempty, List.dropWhile_cons_of_neg (by simp [hgap]), List.nil_append]
    · rfl
  rw [startsExport, hdrop, startsExport, Bool.eq_iff_iff, List.isPrefixOf_iff_prefix, List.isPrefixOf_iff_prefix]
  exact ⟨prefix_of_prefix_append hopening, fun h => h.trans (List.prefix_append _ _)⟩

theorem startsExport_dropClosing (h : startsExport text = true) : startsExport (dropClosing text) = true := by
  rcases dropClosing_spec text with heq | ⟨rest, heq⟩
  · rwa [heq]
  · rw [heq] at h
    rwa [startsExport_append_cons (by decide) (by decide)] at h

/-- The canonical form of a canonical form is the form itself. -/
theorem ofChars_ofChars (text : List Char) : ofChars (ofChars text) = ofChars text := by
  by_cases hstarts : startsExport text = true
  · have hself : ofChars text = text := if_pos hstarts
    rw [hself, hself]
  · cases htail : exportTail? true text with
    | none =>
      have hself : ofChars text = text := by rw [ofChars, if_neg hstarts, htail]
      rw [hself, hself]
    | some tail =>
      have hcut : ofChars text = dropClosing tail := by rw [ofChars, if_neg hstarts, htail]
      rw [hcut]
      exact if_pos (startsExport_dropClosing (startsExport_of_exportTail? htail))

theorem ofText_ofText (text : String) : ofText (ofText text) = ofText text := by
  rw [ofText, ofText, String.toList_ofList, ofChars_ofChars]

/-! ## Which texts are canonical -/

/-- The lines that begin in a text, which is read from the start of a line (`atStart`) or from inside one. -/
def linesFrom (atStart : Bool) (text : List Char) : List (List Char) :=
  if atStart then text.splitOn '\n' else (text.splitOn '\n').tail

theorem startsExport_append_newline (line rest : List Char) :
    startsExport (line ++ '\n' :: rest) = startsExport line :=
  startsExport_append_cons (by decide) (by decide)

/-- Lines begin with an export just if the first of them does. -/
theorem startsExport_intercalate (first : List Char) (others : List (List Char)) :
    startsExport (['\n'].intercalate (first :: others)) = startsExport first := by
  cases others with
  | nil => rw [List.intercalate_singleton]
  | cons second others =>
    rw [List.intercalate_cons_cons, List.append_assoc, List.singleton_append, startsExport_append_newline]

/-- A text begins with an export just if its first line does. -/
theorem startsExport_of_splitOn {first : List Char} {others : List (List Char)}
    (h : text.splitOn '\n' = first :: others) : startsExport text = startsExport first := by
  have htext : ['\n'].intercalate (first :: others) = text := h ▸ List.intercalate_splitOn '\n'
  rw [← htext, startsExport_intercalate]

/-- No export is found just if no line begins with one. -/
theorem exportTail?_eq_none_iff (atStart : Bool) (text : List Char) :
    exportTail? atStart text = none ↔ ∀ line ∈ linesFrom atStart text, startsExport line = false := by
  have hempty : startsExport [] = false := rfl
  induction text generalizing atStart with
  | nil => cases atStart <;> simp [exportTail?, linesFrom, hempty]
  | cons c rest ih =>
    obtain ⟨first, others, hrest⟩ := List.exists_cons_of_ne_nil (List.splitOn_ne_nil '\n' rest)
    cases hc : c == '\n' with
    -- a line ending closes an empty first line, and any other character lengthens the first line
    | true =>
      have hlines : (c :: rest).splitOn '\n' = [] :: first :: others := by
        rw [List.splitOn_cons_eq_if_modifyHead, if_pos hc, hrest]
      have hstart : startsExport (c :: rest) = false := startsExport_of_splitOn hlines
      have hnext := ih true
      cases atStart <;> simp [exportTail?, linesFrom, hc, hlines, hstart, hempty, hnext, hrest]
    | false =>
      have hlines : (c :: rest).splitOn '\n' = (c :: first) :: others := by
        rw [List.splitOn_cons_eq_if_modifyHead, if_neg (by simp [hc]), hrest, List.modifyHead_cons]
      have hstart : startsExport (c :: rest) = startsExport (c :: first) := startsExport_of_splitOn hlines
      have hnext := ih false
      cases atStart <;> cases hfirst : startsExport (c :: first) <;>
        simp [exportTail?, linesFrom, hc, hlines, hstart, hfirst, hnext, hrest]

/-- What is found is a part of the text. -/
theorem suffix_of_exportTail? {atStart : Bool} {tail : List Char} (h : exportTail? atStart text = some tail) :
    tail <:+ text := by
  fun_induction exportTail? atStart text with
  | case1 => cases h
  | case2 atStart c rest hstarts =>
    cases h
    exact List.suffix_rfl
  | case3 atStart c rest hstarts ih => exact (ih h).trans (List.suffix_cons c rest)

theorem length_dropClosing_le (text : List Char) : (dropClosing text).length ≤ text.length := by
  rcases dropClosing_spec text with heq | ⟨rest, heq⟩
  · exact Nat.le_of_eq (congrArg List.length heq)
  · have hlength := congrArg List.length heq
    rw [List.length_append] at hlength
    omega

/-- A text that is cut gets shorter. -/
theorem length_ofChars_lt {tail : List Char} (hstarts : startsExport text = false)
    (htail : exportTail? true text = some tail) : (ofChars text).length < text.length := by
  have hcut : ofChars text = dropClosing tail := by rw [ofChars, hstarts, htail]; rfl
  have hne : tail ≠ text := by
    rintro rfl
    simp [startsExport_of_exportTail? htail] at hstarts
  have hlength := (suffix_of_exportTail? htail).length_le
  have hshorter : tail.length ≠ text.length := fun h => hne ((suffix_of_exportTail? htail).eq_of_length h)
  have hdrop := length_dropClosing_le tail
  rw [hcut]
  omega

theorem ofChars_eq_self_iff (text : List Char) :
    ofChars text = text ↔ startsExport text = true ∨ exportTail? true text = none := by
  cases hstarts : startsExport text with
  | true => simp [ofChars, hstarts]
  | false =>
    cases htail : exportTail? true text with
    | none => simp [ofChars, hstarts, htail]
    | some tail =>
      have hne : ofChars text ≠ text := fun h => Nat.ne_of_lt (length_ofChars_lt hstarts htail) (congrArg List.length h)
      simp [hne]

/-- The canonical form of a text is canonical: bringing it into that form again changes nothing. The texts that are
their own canonical form are those that begin with an export and those in which no line begins with one. -/
theorem ofText_idempotent :
    (∀ text : String, ofText (ofText text) = ofText text) ∧
      ∀ text : String, ofText text = text ↔
        startsExport text.toList = true ∨ ∀ line ∈ text.toList.splitOn '\n', startsExport line = false := by
  refine ⟨ofText_ofText, fun text => ?_⟩
  rw [← String.toList_inj, ofText, String.toList_ofList, ofChars_eq_self_iff, exportTail?_eq_none_iff]
  rfl

end GoldenBench.Canonical
