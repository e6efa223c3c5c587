import GoldenBench.Proofs.Colour.Removal

/-!
# Texts can be recovered from a coloured difference

In colour a change stands between a sequence that tells its kind and the one that resets colours, and everything else
is unchanged. Between colourless texts no other sequence comes up, so a coloured difference reads back as the edits
it was made of (`Reads`), whatever the difference looks like: fine or coarse, one segment or many.

* `recover` gives both texts back, and `recover_render_compare` says so.
* `compare_lossless`: coloured differences that look alike are of the same texts.
-/

namespace GoldenBench.Diff

open Ansi (Colourless escape)

variable {shown shown' text rest : List Char} {edits edits' : List Edit} {segments : List Segment}

/-- The kind of what follows the sequence that a text begins with. -/
def announced (shown : List Char) : Kind :=
  if (Ansi.turnOn .green).isPrefixOf shown then .added
  else if (Ansi.turnOn .red).isPrefixOf shown then .removed
  else .unchanged

/-- The edits that a coloured text shows, of which the first are of a kind. -/
def readFrom (kind : Kind) : List Char → List Edit
  | [] => []
  | c :: shown =>
    if c = escape then
      match _hafter : Ansi.afterSequence? shown with
      | some rest => readFrom (announced (c :: shown)) rest
      | none => (kind, c) :: readFrom kind shown
    else (kind, c) :: readFrom kind shown
termination_by shown => shown.length
decreasing_by
  · have := Ansi.length_afterSequence? _hafter
    rw [List.length_cons]
    omega
  · simp
  · simp

/-- The expected and the actual text of a difference that is shown in colour. -/
def recover (shown : String) : String × String :=
  let edits := readFrom .unchanged shown.toList
  (String.ofList (charsWithout .added edits), String.ofList (charsWithout .removed edits))

/-! ## Reading what is shown -/

/-- A sequence decides the kind of what follows it. -/
theorem readFrom_sequence (h : Ansi.afterSequence? shown = some rest) (kind : Kind) :
    readFrom kind (escape :: shown) = readFrom (announced (escape :: shown)) rest := by
  rw [readFrom, if_pos rfl]
  split
  · rename_i rest' hafter
    cases h.symm.trans hafter
    rfl
  · rename_i hafter
    cases h.symm.trans hafter

theorem readFrom_green (kind : Kind) (rest : List Char) :
    readFrom kind (Ansi.turnOn .green ++ rest) = readFrom .added rest :=
  readFrom_sequence rfl kind

theorem readFrom_red (kind : Kind) (rest : List Char) :
    readFrom kind (Ansi.turnOn .red ++ rest) = readFrom .removed rest :=
  readFrom_sequence rfl kind

theorem readFrom_reset (kind : Kind) (rest : List Char) :
    readFrom kind (Ansi.reset ++ rest) = readFrom .unchanged rest :=
  readFrom_sequence rfl kind

/-- A colourless text is all of one kind. -/
theorem readFrom_append (h : escape ∉ text) (kind : Kind) (rest : List Char) :
    readFrom kind (text ++ rest) = mark kind text ++ readFrom kind rest := by
  induction text with
  | nil => rfl
  | cons c text ih =>
    rw [List.mem_cons, not_or] at h
    rw [List.cons_append, readFrom, if_neg (Ne.symm h.1), ih h.2]
    rfl

/-- What is shown of edits reads back as these edits, whatever comes behind it. -/
def Reads (shown : List Char) (edits : List Edit) : Prop :=
  ∀ rest, readFrom .unchanged (shown ++ rest) = edits ++ readFrom .unchanged rest

theorem Reads.append (h : Reads shown edits) (h' : Reads shown' edits') :
    Reads (shown ++ shown') (edits ++ edits') := by
  intro rest
  rw [List.append_assoc, h, h', List.append_assoc]

/-- A colourless text reads back as its characters, of the kind that its colour tells. -/
theorem reads_paintChars {color : Ansi.Color} {kind : Kind} (h : escape ∉ text)
    (hcolor : ∀ rest, readFrom .unchanged (Ansi.turnOn color ++ rest) = readFrom kind rest) :
    Reads (Ansi.paintChars true color text) (mark kind text) := by
  intro rest
  cases text with
  | nil => rfl
  | cons c text =>
    have hshown : Ansi.paintChars true color (c :: text) ++ rest =
        Ansi.turnOn color ++ ((c :: text) ++ (Ansi.reset ++ rest)) := by
      simp [Ansi.paintChars]
    rw [hshown, hcolor, readFrom_append h, readFrom_reset]

theorem reads_segment {segment : Segment} (h : escape ∉ segment.chars) :
    Reads (segment.render true) (mark segment.kind segment.chars) := by
  obtain ⟨kind, chars⟩ := segment
  cases kind with
  | unchanged => exact readFrom_append h .unchanged
  | added => exact reads_paintChars h (readFrom_green .unchanged)
  | removed => exact reads_paintChars h (readFrom_red .unchanged)

/-- The characters of segments, each with the kind of its segment. -/
def ungroup (segments : List Segment) : List Edit :=
  segments.flatMap fun segment => mark segment.kind segment.chars

theorem reads_segments (h : ∀ segment ∈ segments, escape ∉ segment.chars) :
    Reads (segments.flatMap (Segment.render true)) (ungroup segments) := by
  induction segments with
  | nil => exact fun rest => rfl
  | cons segment segments ih =>
    exact (reads_segment (h segment List.mem_cons_self)).append
      (ih fun segment hsegment => h segment (List.mem_cons_of_mem _ hsegment))

theorem charsWithout_ungroup (kind : Kind) (segments : List Segment) :
    charsWithout kind (ungroup segments) = without kind segments := by
  induction segments with
  | nil => rfl
  | cons segment segments ih =>
    have hcons : ungroup (segment :: segments) = mark segment.kind segment.chars ++ ungroup segments :=
      List.flatMap_cons
    rw [hcons, charsWithout_append, charsWithout_mark, ih]
    by_cases hkind : segment.kind = kind <;> simp [without, hkind]

/-! ## Both texts -/

/-- A coloured difference of colourless segments gives back the texts that its segments make. -/
theorem recover_render {diff : Diff} (h : ∀ segment ∈ diff.segments, escape ∉ segment.chars) :
    recover (diff.render true) = (String.ofList diff.expected, String.ofList diff.actual) := by
  have hread := reads_segments h []
  rw [List.append_nil, readFrom, List.append_nil] at hread
  have hshown : (diff.render true).toList = diff.segments.flatMap (Segment.render true) := String.toList_ofList
  simp only [recover, hshown, hread, charsWithout_ungroup]
  rfl

theorem recover_render_compare {expected actual : String} (hexpected : Colourless expected)
    (hactual : Colourless actual) : recover ((compare expected actual).render true) = (expected, actual) := by
  obtain ⟨edits, hscript, hsegments, -⟩ := exists_script expected.toList actual.toList
  have hcolourless : ∀ segment ∈ (compare expected actual).segments, escape ∉ segment.chars :=
    fun segment hsegment hescape => (mem_of_mem_compare hsegment hescape).elim hexpected hactual
  rw [recover_render hcolourless, Diff.expected, Diff.actual, compare, hsegments, without_group, without_group,
    hscript.source, hscript.target, String.ofList_toList, String.ofList_toList]

/-- A coloured difference loses nothing: both texts can be recovered from it, and so two coloured differences of
colourless texts that look alike are of the same expected and the same actual text. -/
theorem compare_lossless :
    (∀ expected actual : String, Colourless expected → Colourless actual →
      recover ((compare expected actual).render true) = (expected, actual)) ∧
    ∀ expected actual expected' actual' : String, Colourless expected → Colourless actual →
      Colourless expected' → Colourless actual' →
      (compare expected actual).render true = (compare expected' actual').render true →
      expected = expected' ∧ actual = actual' := by
  refine ⟨fun _ _ => recover_render_compare, fun e a e' a' he ha he' ha' hshown => ?_⟩
  have hpair : (e, a) = (e', a') := by
    rw [← recover_render_compare he ha, hshown, recover_render_compare he' ha']
  exact Prod.mk.inj hpair

/-- Two texts with a replacement between common ends come back from its colours. -/
theorem compare_lossless_of_replacement :
    (compare "abcd" "axyd").render true = "a\x1b[31mbc\x1b[0m\x1b[32mxy\x1b[0md" ∧
    Colourless "abcd" ∧ Colourless "axyd" ∧
    recover "a\x1b[31mbc\x1b[0m\x1b[32mxy\x1b[0md" = ("abcd", "axyd") ∧
    ∀ expected actual : String, Colourless expected → Colourless actual →
      (compare expected actual).render true = "a\x1b[31mbc\x1b[0m\x1b[32mxy\x1b[0md" →
      expected = "abcd" ∧ actual = "axyd" := by
  have hshown : (compare "abcd" "axyd").render true = "a\x1b[31mbc\x1b[0m\x1b[32mxy\x1b[0md" := by decide +kernel
  have hexpected : Colourless "abcd" := by decide
  have hactual : Colourless "axyd" := by decide
  refine ⟨hshown, hexpected, hactual, ?_, fun expected actual he ha hsame => ?_⟩
  · rw [← hshown]
    exact compare_lossless.1 "abcd" "axyd" hexpected hactual
  · exact compare_lossless.2 expected actual "abcd" "axyd" he ha hexpected hactual (hsame.trans hshown.symm)

end GoldenBench.Diff
