import GoldenBench.Diagnostic
import GoldenBench.Proofs.Canonical
import GoldenBench.Proofs.Diff.Compare
import GoldenBench.Proofs.Text.Lines

/-!
# Colour can be taken off

A text is colourless if no sequence can begin in it. The sequences that painting adds are exactly those that
`Ansi.remove` takes off, whatever comes behind them (`Ansi.Shows`), so a colourless text comes back.

* `Diff.remove_render`: a coloured difference without its sequences is the plain one.
* `Diagnostic.remove_format`: so are coloured diagnostics.
-/

namespace GoldenBench

namespace Ansi

variable {shown shown' text text' rest digits : List Char}

/-- What follows a sequence of which the first character was read: `[`, digits, and `m`. -/
def afterSequence? : List Char → Option (List Char)
  | '[' :: text =>
    match text.takeWhile Char.isDigit, text.dropWhile Char.isDigit with
    | _ :: _, 'm' :: rest => some rest
    | _, _ => none
  | _ => none

theorem length_afterSequence? (h : afterSequence? text = some rest) : rest.length < text.length := by
  unfold afterSequence? at h
  split at h
  · rename_i text
    split at h
    · rename_i digit digits rest' hdigits hrest
      cases h
      have hlength := congrArg List.length (List.takeWhile_append_dropWhile (p := Char.isDigit) (l := text))
      rw [hrest, List.length_append, List.length_cons] at hlength
      rw [List.length_cons]
      omega
    · cases h
  · cases h

/-- A text without its sequences. -/
def removeChars : List Char → List Char
  | [] => []
  | c :: text =>
    if c = escape then
      match _hafter : afterSequence? text with
      | some rest => removeChars rest
      | none => c :: removeChars text
    else c :: removeChars text
termination_by text => text.length
decreasing_by
  · have := length_afterSequence? _hafter
    rw [List.length_cons]
    omega
  · simp
  · simp

/-- A text without its sequences. -/
def remove (text : String) : String :=
  String.ofList (removeChars text.toList)

/-- No sequence can begin in a text. -/
def Colourless (text : String) : Prop :=
  escape ∉ text.toList

instance (text : String) : Decidable (Colourless text) :=
  inferInstanceAs (Decidable (escape ∉ text.toList))

/-- What is shown of a text is the text once the sequences are removed, whatever comes behind it. -/
def Shows (shown text : List Char) : Prop :=
  ∀ rest, removeChars (shown ++ rest) = text ++ removeChars rest

theorem Shows.removeChars_eq (h : Shows shown text) : removeChars shown = text := by
  have hend := h []
  rwa [List.append_nil, removeChars, List.append_nil] at hend

theorem Shows.append (h : Shows shown text) (h' : Shows shown' text') : Shows (shown ++ shown') (text ++ text') := by
  intro rest
  rw [List.append_assoc, h, h', List.append_assoc]

theorem shows_flatMap {α : Type} {shown text : α → List Char} {items : List α}
    (h : ∀ item ∈ items, Shows (shown item) (text item)) : Shows (items.flatMap shown) (items.flatMap text) := by
  induction items with
  | nil => exact fun rest => rfl
  | cons item items ih =>
    rw [List.flatMap_cons, List.flatMap_cons]
    exact (h item List.mem_cons_self).append (ih fun item hitem => h item (List.mem_cons_of_mem _ hitem))

theorem shows_self (h : escape ∉ text) : Shows text text := by
  intro rest
  induction text with
  | nil => rfl
  | cons c text ih =>
    rw [List.mem_cons, not_or] at h
    rw [List.cons_append, removeChars, if_neg (Ne.symm h.1), ih h.2]
    rfl

theorem afterSequence?_digits (hdigits : ∀ c ∈ digits, c.isDigit = true) (hne : digits ≠ []) (rest : List Char) :
    afterSequence? ('[' :: (digits ++ 'm' :: rest)) = some rest := by
  obtain ⟨digit, others, rfl⟩ := List.exists_cons_of_ne_nil hne
  rw [afterSequence?, List.takeWhile_append_of_pos hdigits, List.dropWhile_append_of_pos hdigits,
    List.dropWhile_cons_of_neg (by decide)]
  rfl

/-- A sequence shows nothing. -/
theorem shows_sequence (hdigits : ∀ c ∈ digits, c.isDigit = true) (hne : digits ≠ []) :
    Shows (escape :: '[' :: (digits ++ ['m'])) [] := by
  intro rest
  have hafter := afterSequence?_digits hdigits hne rest
  rw [List.cons_append, List.cons_append, List.append_assoc, List.singleton_append, removeChars, if_pos rfl]
  split
  · rename_i rest' h
    cases hafter.symm.trans h
    rfl
  · rename_i h
    cases hafter.symm.trans h

theorem shows_turnOn (color : Color) : Shows (turnOn color) [] := by
  refine shows_sequence (List.all_eq_true.mp ?_) ?_
  · cases color <;> decide
  · cases color <;> decide

theorem shows_reset : Shows reset [] :=
  @shows_sequence ['0'] (List.all_eq_true.mp (by decide)) (by decide)

/-- A colourless text in a colour shows itself. -/
theorem shows_paintChars (h : escape ∉ text) (enabled : Bool) (color : Color) :
    Shows (paintChars enabled color text) text := by
  unfold paintChars
  split
  · have hshown := ((shows_turnOn color).append (shows_self h)).append shows_reset
    rwa [List.nil_append, List.append_nil] at hshown
  · exact shows_self h

theorem remove_ofList (h : Shows shown text) : remove (String.ofList shown) = String.ofList text := by
  rw [remove, String.toList_ofList, h.removeChars_eq]

/-- Nothing is removed from a colourless text. -/
theorem remove_colourless {text : String} (h : Colourless text) : remove text = text := by
  rw [remove, (shows_self h).removeChars_eq, String.ofList_toList]

end Ansi

open Ansi (Colourless escape)

/-! ## Differences -/

namespace Diff

theorem render_plain (segment : Segment) : segment.render false = segment.chars := by
  unfold Segment.render
  cases segment.kind <;> rfl

/-- A coloured difference between colourless texts without its sequences is the plain one. -/
theorem remove_render {diff : Diff} (h : ∀ segment ∈ diff.segments, escape ∉ segment.chars) :
    Ansi.remove (diff.render true) = diff.render false := by
  refine Ansi.remove_ofList (Ansi.shows_flatMap fun segment hsegment => ?_)
  rw [render_plain]
  unfold Segment.render
  cases segment.kind with
  | unchanged => exact Ansi.shows_self (h segment hsegment)
  | added => exact Ansi.shows_paintChars (h segment hsegment) true .green
  | removed => exact Ansi.shows_paintChars (h segment hsegment) true .red

theorem subset_without {kind : Kind} {segment : Segment} {segments : List Segment} (h : segment ∈ segments)
    (hkind : segment.kind ≠ kind) : segment.chars ⊆ without kind segments :=
  fun _ hc => List.mem_flatMap.mpr ⟨segment, List.mem_filter.mpr ⟨h, by simpa using hkind⟩, hc⟩

/-- Everything in a difference is in one of the texts. -/
theorem mem_of_mem_compare {expected actual : String} {segment : Segment}
    (h : segment ∈ (compare expected actual).segments) {c : Char} (hc : c ∈ segment.chars) :
    c ∈ expected.toList ∨ c ∈ actual.toList := by
  obtain ⟨edits, hscript, hsegments, -⟩ := exists_script expected.toList actual.toList
  by_cases hadded : segment.kind = .added
  · have hkind : segment.kind ≠ .removed := by
      rw [hadded]
      decide
    have hmem := subset_without h hkind hc
    rw [compare, hsegments, without_group, hscript.target] at hmem
    exact .inr hmem
  · have hmem := subset_without h hadded hc
    rw [compare, hsegments, without_group, hscript.source] at hmem
    exact .inl hmem

theorem remove_render_compare {expected actual : String} (hexpected : Colourless expected)
    (hactual : Colourless actual) :
    Ansi.remove ((compare expected actual).render true) = (compare expected actual).render false :=
  remove_render fun _ hsegment hescape => (mem_of_mem_compare hsegment hescape).elim hexpected hactual

end Diff

/-! ## Diagnostics -/

namespace Diagnostic

theorem shows_intercalate {shown text : List (List Char)} (h : List.Forall₂ Ansi.Shows shown text) :
    Ansi.Shows (['\n'].intercalate shown) (['\n'].intercalate text) := by
  induction h with
  | nil => exact fun rest => rfl
  | cons hline hrest ih =>
    cases hrest with
    | nil => simpa using hline
    | cons hnext hrest =>
      rw [List.intercalate_cons_cons, List.intercalate_cons_cons]
      exact (hline.append (Ansi.shows_self (by decide))).append ih

theorem shows_formatLines {diagnostic : Diagnostic} (h : Colourless diagnostic.message) :
    List.Forall₂ Ansi.Shows (diagnostic.formatLines true) (diagnostic.formatLines false) := by
  have hline : ∀ line ∈ Text.lines diagnostic.message.toList, escape ∉ line := fun line hline hescape =>
    h (by simpa using Text.mem_of_mem_linesFrom hline hescape)
  refine .cons ?_ (List.forall₂_same.mpr fun line hline' => ?_)
  · refine (Ansi.Shows.append ?_ (Ansi.shows_self (by decide))).append (Ansi.shows_self ?_)
    · exact Ansi.shows_paintChars (by cases diagnostic.severity <;> decide) true _
    · cases hlines : Text.lines diagnostic.message.toList with
      | nil => simp
      | cons line lines => exact hline line (by simp [hlines])
  · obtain ⟨line, hmem, rfl⟩ := List.mem_map.mp hline'
    refine Ansi.shows_self ?_
    have hescape := hline line (List.mem_of_mem_drop hmem)
    simpa [show escape ≠ ' ' by decide] using hescape

/-- Coloured diagnostics with colourless messages are the plain ones without their sequences. -/
theorem remove_format {diagnostics : List Diagnostic} (h : ∀ diagnostic ∈ diagnostics, Colourless diagnostic.message) :
    Ansi.remove (format true diagnostics) = format false diagnostics := by
  refine Ansi.remove_ofList ?_
  rw [formatChars, formatChars, unlines, unlines, Text.dropFinalNewline_flatMap, Text.dropFinalNewline_flatMap]
  refine shows_intercalate ?_
  induction diagnostics with
  | nil => exact .nil
  | cons diagnostic diagnostics ih =>
    rw [List.flatMap_cons, List.flatMap_cons]
    exact List.rel_append (shows_formatLines (h diagnostic List.mem_cons_self))
      (ih fun diagnostic hmem => h diagnostic (List.mem_cons_of_mem _ hmem))

end Diagnostic

/-! ## Canonical texts -/

namespace Canonical

theorem subset_dropClosing (text : List Char) : dropClosing text ⊆ text := by
  rcases dropClosing_spec text with h | ⟨rest, h⟩
  · rw [h]
    exact List.Subset.refl _
  · intro c hc
    rw [h]
    exact List.mem_append_left _ hc

theorem subset_ofChars (text : List Char) : ofChars text ⊆ text := by
  unfold ofChars
  split
  · exact List.Subset.refl _
  · cases htail : exportTail? true text with
    | none => exact List.Subset.refl _
    | some tail => exact fun c hc => (suffix_of_exportTail? htail).subset (subset_dropClosing tail hc)

theorem colourless_ofText {text : String} (h : Colourless text) : Colourless (ofText text) := by
  intro hescape
  rw [ofText, String.toList_ofList] at hescape
  exact h (subset_ofChars text.toList hescape)

end Canonical

end GoldenBench
