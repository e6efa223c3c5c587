import GoldenBench.Diff.Basic
import Mathlib.Data.List.Sublists
import Mathlib.Order.Bounds.Basic

/-!
# Edit scripts

A list of edits rewrites the text that it leaves out what was added of into the one that it leaves out what was
removed of (`Rewrites`); it costs as much as it adds and removes (`cost`). How much the cheapest script costs
follows from the longest common subsequence:

* `without_group`: grouping edits into segments changes none of the texts.
* `commonLength_isGreatest`: `commonLength` is the length of a longest common subsequence.
* `Rewrites.distance_le`, `exists_rewrites_cost`: no script costs less than `distance`, and one costs just that.
* `distance_append_append`: what two texts have in common at their ends does not count.
-/

namespace GoldenBench.Diff

variable {a b s t : List Char} {edits more : List Edit} {kind : Kind}

/-- The characters of edits that are not of a kind. -/
def charsWithout (kind : Kind) (edits : List Edit) : List Char :=
  (edits.filter (·.1 ≠ kind)).map (·.2)

/-- The number of characters that edits add and remove. -/
def cost (edits : List Edit) : Nat :=
  (charsWithout .unchanged edits).length

/-- The edits lead from one text to another. -/
structure Rewrites (edits : List Edit) (a b : List Char) : Prop where
  /-- Without what was added they are the one text. -/
  source : charsWithout .added edits = a
  /-- Without what was removed they are the other. -/
  target : charsWithout .removed edits = b

/-! ## Grouping -/

@[simp] theorem charsWithout_nil (kind : Kind) : charsWithout kind [] = [] := rfl

theorem charsWithout_cons (kind : Kind) (edit : Edit) (edits : List Edit) :
    charsWithout kind (edit :: edits) =
      if edit.1 = kind then charsWithout kind edits else edit.2 :: charsWithout kind edits := by
  by_cases h : edit.1 = kind <;> simp [charsWithout, h]

@[simp] theorem charsWithout_append (kind : Kind) (edits more : List Edit) :
    charsWithout kind (edits ++ more) = charsWithout kind edits ++ charsWithout kind more := by
  simp [charsWithout]

theorem charsWithout_mark (kind k : Kind) (text : List Char) :
    charsWithout kind (mark k text) = if k = kind then [] else text := by
  by_cases h : k = kind <;> simp [charsWithout, mark, List.filter_map, Function.comp_def, h]

theorem without_attach (kind : Kind) (edit : Edit) (segments : List Segment) :
    without kind (attach edit segments) =
      (if edit.1 = kind then [] else [edit.2]) ++ without kind segments := by
  cases segments with
  | nil => by_cases h : edit.1 = kind <;> simp [attach, without, h]
  | cons segment rest =>
    by_cases hs : segment.kind = edit.1
    · by_cases h : edit.1 = kind <;> simp [attach, without, hs, h]
    · by_cases h : edit.1 = kind
      · rw [attach, if_neg hs, if_pos h]
        simp [without, h]
      · rw [attach, if_neg hs, if_neg h]
        simp [without, h]

/-- Grouping edits into segments changes none of the texts. -/
theorem without_group (kind : Kind) (edits : List Edit) :
    without kind (group edits) = charsWithout kind edits := by
  induction edits with
  | nil => rfl
  | cons edit edits ih =>
    rw [group, List.foldr_cons, without_attach, ← group, ih, charsWithout_cons]
    split <;> rfl

/-- A segment has the characters of at least one edit. -/
theorem chars_ne_nil_of_mem_group {segment : Segment} (h : segment ∈ group edits) : segment.chars ≠ [] := by
  induction edits generalizing segment with
  | nil => simp [group] at h
  | cons edit edits ih =>
    rw [group, List.foldr_cons, ← group] at h
    revert h ih
    cases group edits with
    | nil =>
      intro _ h
      simp only [attach, List.mem_singleton] at h
      simp [h]
    | cons first rest =>
      intro ih h
      simp only [attach] at h
      split at h
      · rcases List.mem_cons.mp h with rfl | h
        · simp
        · exact ih (List.mem_cons_of_mem _ h)
      · rcases List.mem_cons.mp h with rfl | h
        · simp
        · exact ih h

/-- A text, all of one kind, as segments: none if it is empty. -/
def piece (kind : Kind) (text : List Char) : List Segment :=
  if text.isEmpty then [] else [⟨kind, text⟩]

theorem attach_of_ne {edit : Edit} {segments : List Segment} (h : ∀ segment ∈ segments.head?, segment.kind ≠ edit.1) :
    attach edit segments = ⟨edit.1, [edit.2]⟩ :: segments := by
  cases segments with
  | nil => rfl
  | cons segment rest => simp [attach, h segment (by simp)]

theorem kind_of_mem_head?_attach {edit : Edit} {segment : Segment} {segments : List Segment}
    (h : segment ∈ (attach edit segments).head?) : segment.kind = edit.1 := by
  cases segments with
  | nil =>
    cases h
    rfl
  | cons first rest =>
    simp only [attach] at h
    split at h
    · cases h
      rfl
    · cases h
      rfl

/-! ## Longest common subsequences -/

/-- The length of a longest common subsequence of two texts. -/
def commonLength (a b : List Char) : Nat :=
  ((a.sublists.filter fun s => s.isSublist b).map List.length).foldr max 0

theorem le_foldr_max {n : Nat} {ns : List Nat} (h : n ∈ ns) : n ≤ ns.foldr max 0 := by
  induction ns with
  | nil => simp at h
  | cons m ns ih =>
    rcases List.mem_cons.mp h with rfl | h
    · exact Nat.le_max_left ..
    · exact Nat.le_trans (ih h) (Nat.le_max_right ..)

theorem foldr_max_mem {ns : List Nat} (h : ns ≠ []) : ns.foldr max 0 ∈ ns := by
  induction ns with
  | nil => exact absurd rfl h
  | cons n ns ih =>
    rw [List.foldr_cons]
    by_cases hns : ns = []
    · simp [hns]
    · rcases Nat.le_total n (ns.foldr max 0) with hle | hle
      · rw [Nat.max_eq_right hle]
        exact List.mem_cons_of_mem _ (ih hns)
      · rw [Nat.max_eq_left hle]
        exact List.mem_cons_self

theorem commonLength_isGreatest (a b : List Char) :
    IsGreatest {n | ∃ s : List Char, s.Sublist a ∧ s.Sublist b ∧ s.length = n} (commonLength a b) := by
  have mem : ∀ s : List Char, s ∈ a.sublists.filter (fun s => s.isSublist b) ↔ s.Sublist a ∧ s.Sublist b := fun s => by
    rw [List.mem_filter, List.mem_sublists, List.isSublist_iff_sublist]
  refine ⟨?_, fun n ⟨s, ha, hb, hn⟩ => le_foldr_max (List.mem_map.mpr ⟨s, (mem s).mpr ⟨ha, hb⟩, hn⟩)⟩
  have hne : (a.sublists.filter fun s => s.isSublist b).map List.length ≠ [] :=
    List.ne_nil_of_mem (List.mem_map_of_mem ((mem []).mpr ⟨List.nil_sublist a, List.nil_sublist b⟩))
  obtain ⟨s, hs, hn⟩ := List.mem_map.mp (foldr_max_mem hne)
  exact ⟨s, ((mem s).mp hs).1, ((mem s).mp hs).2, hn⟩

theorem length_le_commonLength (ha : s.Sublist a) (hb : s.Sublist b) : s.length ≤ commonLength a b :=
  (commonLength_isGreatest a b).2 ⟨s, ha, hb, rfl⟩

theorem exists_common (a b : List Char) : ∃ s : List Char, s.Sublist a ∧ s.Sublist b ∧ s.length = commonLength a b :=
  (commonLength_isGreatest a b).1

theorem commonLength_nil (a : List Char) : commonLength a [] = 0 := by
  obtain ⟨s, -, hs, hl⟩ := exists_common a []
  rw [← hl, List.sublist_nil.mp hs, List.length_nil]

theorem commonLength_cons (c : Char) (a b : List Char) :
    commonLength (c :: a) (c :: b) = commonLength a b + 1 := by
  apply Nat.le_antisymm
  · obtain ⟨s, ha, hb, hs⟩ := exists_common (c :: a) (c :: b)
    have := length_le_commonLength ha.tail hb.tail
    simp only [List.length_tail, List.tail_cons] at this
    omega
  · obtain ⟨s, ha, hb, hs⟩ := exists_common a b
    rw [← hs]
    exact length_le_commonLength (ha.cons_cons c) (hb.cons_cons c)

theorem commonLength_append_left (p a b : List Char) :
    commonLength (p ++ a) (p ++ b) = p.length + commonLength a b := by
  induction p with
  | nil => simp
  | cons c p ih =>
    rw [List.cons_append, List.cons_append, commonLength_cons, ih, List.length_cons]
    omega

theorem commonLength_reverse_le (a b : List Char) : commonLength a b ≤ commonLength a.reverse b.reverse := by
  obtain ⟨s, ha, hb, hs⟩ := exists_common a b
  rw [← hs, ← List.length_reverse]
  exact length_le_commonLength ha.reverse hb.reverse

theorem commonLength_reverse (a b : List Char) : commonLength a.reverse b.reverse = commonLength a b :=
  Nat.le_antisymm (by simpa using commonLength_reverse_le a.reverse b.reverse) (commonLength_reverse_le a b)

theorem commonLength_append_right (a b s : List Char) :
    commonLength (a ++ s) (b ++ s) = commonLength a b + s.length := by
  rw [← commonLength_reverse, List.reverse_append, List.reverse_append, commonLength_append_left,
    commonLength_reverse, List.length_reverse]
  omega

/-! ## The cost of a cheapest script -/

/-- The cost of a cheapest script from one text to another. -/
def distance (a b : List Char) : Nat :=
  a.length + b.length - 2 * commonLength a b

/-- What two texts have in common at their ends does not count. -/
theorem distance_append_append (p a b s : List Char) :
    distance (p ++ a ++ s) (p ++ b ++ s) = distance a b := by
  simp only [distance, commonLength_append_right, commonLength_append_left, List.length_append]
  omega

theorem distance_self (a : List Char) : distance a a = 0 := by
  have := length_le_commonLength (List.Sublist.refl a) (List.Sublist.refl a)
  simp only [distance]
  omega

/-- The characters that edits keep. -/
def keptChars (edits : List Edit) : List Char :=
  (edits.filter (·.1 = .unchanged)).map (·.2)

theorem keptChars_sublist (h : kind ≠ .unchanged) (edits : List Edit) :
    (keptChars edits).Sublist (charsWithout kind edits) := by
  refine List.Sublist.map _ (List.monotone_filter_right edits fun edit he => ?_)
  simp only [decide_eq_true_eq] at he
  simpa [he] using Ne.symm h

theorem length_sides (edits : List Edit) :
    (charsWithout .added edits).length + (charsWithout .removed edits).length =
      cost edits + 2 * (keptChars edits).length := by
  induction edits with
  | nil => rfl
  | cons edit edits ih =>
    obtain ⟨kind, c⟩ := edit
    cases kind <;> simp [cost, keptChars, charsWithout_cons] at ih ⊢ <;> omega

/-- No script costs less than the distance. -/
theorem Rewrites.distance_le (h : Rewrites edits a b) : distance a b ≤ cost edits := by
  have hl := length_sides edits
  have hk := length_le_commonLength (keptChars_sublist (show Kind.added ≠ .unchanged by decide) edits)
    (keptChars_sublist (show Kind.removed ≠ .unchanged by decide) edits)
  rw [h.source, h.target] at hl hk
  simp only [distance]
  omega

theorem Rewrites.append {a' b' : List Char} (h : Rewrites edits a b) (h' : Rewrites more a' b') :
    Rewrites (edits ++ more) (a ++ a') (b ++ b') :=
  ⟨by rw [charsWithout_append, h.source, h'.source], by rw [charsWithout_append, h.target, h'.target]⟩

theorem rewrites_mark_unchanged (text : List Char) : Rewrites (mark .unchanged text) text text :=
  ⟨by simp [charsWithout_mark], by simp [charsWithout_mark]⟩

theorem rewrites_mark_removed (text : List Char) : Rewrites (mark .removed text) text [] :=
  ⟨by simp [charsWithout_mark], by simp [charsWithout_mark]⟩

theorem rewrites_mark_added (text : List Char) : Rewrites (mark .added text) [] text :=
  ⟨by simp [charsWithout_mark], by simp [charsWithout_mark]⟩

theorem cost_append (edits more : List Edit) : cost (edits ++ more) = cost edits + cost more := by
  simp [cost]

theorem cost_mark (kind : Kind) (text : List Char) :
    cost (mark kind text) = if kind = .unchanged then 0 else text.length := by
  rw [cost, charsWithout_mark]
  split <;> simp

/-- A common subsequence is what some script keeps. -/
theorem exists_rewrites_of_common (ha : s.Sublist a) (hb : s.Sublist b) :
    ∃ edits, Rewrites edits a b ∧ cost edits + 2 * s.length = a.length + b.length := by
  induction ha generalizing b with
  | slnil => exact ⟨mark .added b, rewrites_mark_added b, by simp [cost_mark]⟩
  | cons c _ ih =>
    obtain ⟨edits, h, hc⟩ := ih hb
    refine ⟨mark .removed [c] ++ edits, (rewrites_mark_removed [c]).append h, ?_⟩
    simp only [cost_append, cost_mark, reduceCtorEq, ↓reduceIte, List.length_cons, List.length_nil]
    omega
  | @cons_cons s a c _ ih =>
    obtain ⟨front, back, rfl, hc, hs⟩ := List.cons_sublist_iff.mp hb
    obtain ⟨before, after, rfl⟩ := List.append_of_mem hc
    obtain ⟨edits, h, he⟩ := ih (hs.trans (List.sublist_append_right after back))
    refine ⟨mark .added before ++ mark .unchanged [c] ++ edits, ?_, ?_⟩
    · simpa using ((rewrites_mark_added before).append (rewrites_mark_unchanged [c])).append h
    · simp only [cost_append, cost_mark, reduceCtorEq, ↓reduceIte, List.length_cons, List.length_append] at he ⊢
      omega

/-- Some script costs as much as the distance. -/
theorem exists_rewrites_cost (a b : List Char) : ∃ edits, Rewrites edits a b ∧ cost edits = distance a b := by
  obtain ⟨s, ha, hb, hs⟩ := exists_common a b
  obtain ⟨edits, h, hc⟩ := exists_rewrites_of_common ha hb
  exact ⟨edits, h, by simp only [distance]; omega⟩

end GoldenBench.Diff
