import GoldenBench.Proofs.Diff.Compare

/-!
# The shape of a difference

* `middle_orderly`: between the common ends no removal comes right after an addition.
* `CommonStart.changes_first`, `CommonEnd.changes_last`: what is between them begins and ends with a change.
* `compare_shape`: the segments of a difference are not empty, and what lies between two unchanged ones is a removal,
  an addition, or a removal and then an addition. The first and the last changes are where the common ends meet them.
-/

namespace GoldenBench.Diff

variable {a b p s x y : List Char} {edits : List Edit}

/-- Between the common ends no removal comes right after an addition. -/
theorem middle_orderly (x y : List Char) : Orderly (middle x y) := by
  have hcoarse : Orderly (replaceAll x y) := by
    refine (orderly_mark .removed x).append (orderly_mark .added y) fun hadded => ?_
    exact absurd hadded (not_endsWith_mark (by decide) x)
  obtain ⟨-, edits, hs, -, -, horder⟩ | ⟨-, hs⟩ := script_spec x.toArray y.toArray
  · rw [middle, hs]
    exact horder
  · rw [middle, hs]
    exact hcoarse

/-- A script that begins with a kept character is for texts that both begin with it. -/
theorem Rewrites.head_kept {c : Char} (h : Rewrites ((.unchanged, c) :: edits) x y) : [c] <+: x ∧ [c] <+: y := by
  obtain ⟨rfl, rfl⟩ := h
  rw [charsWithout_cons, charsWithout_cons]
  exact ⟨⟨_, rfl⟩, ⟨_, rfl⟩⟩

/-- A script that ends with a kept character is for texts that both end with it. -/
theorem Rewrites.last_kept {c : Char} (h : Rewrites (edits ++ [(.unchanged, c)]) x y) : [c] <:+ x ∧ [c] <:+ y := by
  obtain ⟨rfl, rfl⟩ := h
  rw [charsWithout_append, charsWithout_append]
  exact ⟨⟨_, rfl⟩, ⟨_, rfl⟩⟩

/-- Between the common ends a script begins with a change. -/
theorem CommonStart.changes_first (hp : CommonStart p (p ++ x ++ s) (p ++ y ++ s)) (h : Rewrites edits x y) :
    ∀ edit ∈ edits.head?, edit.1 ≠ .unchanged := by
  rintro ⟨kind, c⟩ he rfl
  obtain ⟨rest, rfl⟩ := List.head?_eq_some_iff.mp he
  obtain ⟨hx, hy⟩ := h.head_kept
  have longer : ∀ {z : List Char}, [c] <+: z → p ++ [c] <+: p ++ z ++ s := fun hz => by
    rw [List.append_assoc]
    exact (List.prefix_append_right_inj p).mpr (hz.trans (List.prefix_append _ s))
  have := (hp.longest _ (longer hx) (longer hy)).length_le
  rw [List.length_append, List.length_singleton] at this
  omega

/-- Between the common ends a script ends with a change. -/
theorem CommonEnd.changes_last (hs : CommonEnd s (x ++ s) (y ++ s)) (h : Rewrites edits x y) :
    ∀ edit ∈ edits.getLast?, edit.1 ≠ .unchanged := by
  rintro ⟨kind, c⟩ he rfl
  obtain ⟨rest, rfl⟩ := List.getLast?_eq_some_iff.mp he
  obtain ⟨hx, hy⟩ := h.last_kept
  have longer : ∀ {z : List Char}, [c] <:+ z → [c] ++ s <:+ z ++ s :=
    fun ⟨z, hz⟩ => ⟨z, by rw [← List.append_assoc, hz]⟩
  have := (hs.longest _ (longer hx) (longer hy)).length_le
  rw [List.length_append, List.length_singleton] at this
  omega

/-- The segments of a difference are not empty; neighbours are of different kinds, and no removal comes right after an
addition; so changed segments next to each other are a removal, an addition, or a removal and then an addition. The
difference of different texts is what they have in common at their start, unless that is empty, then segments that
begin and end with a change, and then what the rest has in common at the end, unless that is empty. -/
theorem compare_shape (expected actual : String) :
    let segments := (compare expected actual).segments
    (∀ segment ∈ segments, segment.text ≠ "") ∧
    (segments.IsChain fun first second =>
      first.kind ≠ second.kind ∧ ¬ (first.kind = .added ∧ second.kind = .removed)) ∧
    (∀ stretch, stretch <:+: segments → stretch ≠ [] → (∀ segment ∈ stretch, segment.kind ≠ .unchanged) →
      stretch.map (·.kind) = [.removed] ∨ stretch.map (·.kind) = [.added] ∨
        stretch.map (·.kind) = [.removed, .added]) ∧
    (expected ≠ actual → ∃ p x y s changes, expected.toList = p ++ x ++ s ∧ actual.toList = p ++ y ++ s ∧
      CommonStart p expected.toList actual.toList ∧ CommonEnd s (x ++ s) (y ++ s) ∧
      segments = piece .unchanged p ++ changes ++ piece .unchanged s ∧ changes ≠ [] ∧
      (∀ segment ∈ changes.head?, segment.kind ≠ .unchanged) ∧
      ∀ segment ∈ changes.getLast?, segment.kind ≠ .unchanged) := by
  intro segments
  obtain ⟨p, x, y, s, he, ha, hp, hs, hsegs⟩ := exists_parts expected.toList actual.toList
  have hsegs : segments = group (mark .unchanged p ++ middle x y ++ mark .unchanged s) := hsegs
  have hchain := ((middle_orderly x y).between p s).group
  rw [← hsegs] at hchain
  refine ⟨fun segment hmem htext => ?_, ?_, fun stretch hinfix hnone hchanged => ?_, fun hne => ?_⟩
  · rw [hsegs] at hmem
    exact chars_ne_nil_of_mem_group hmem (String.ofList_eq_empty_iff.mp htext)
  · exact hchain.imp fun _ _ h => ⟨h.1, fun hk => h.2 hk.1 hk.2⟩
  · have hstretch := List.IsChain.infix hchain hinfix
    exact kinds_of_changed hstretch hnone hchanged
  · obtain ⟨hmid, -, -⟩ := middle_spec x y
    have hfirst := CommonStart.changes_first (he ▸ ha ▸ hp) hmid
    have hlast := hs.changes_last hmid
    have hnone : middle x y ≠ [] := by
      intro hnil
      rw [hnil] at hmid
      obtain ⟨rfl, rfl⟩ := hmid
      exact hne (String.toList_inj.mp (he.trans ha.symm))
    refine ⟨p, x, y, s, group (middle x y), he, ha, hp, hs, ?_, ?_, ?_, ?_⟩
    · rw [hsegs, group_between hnone hfirst hlast]
    · exact group_ne_nil hnone
    · intro segment hmem hk
      obtain ⟨edit, he, hkind⟩ := exists_head_of_group hmem
      exact hfirst edit he (hkind.trans hk)
    · intro segment hmem hk
      obtain ⟨edit, he, hkind⟩ := exists_last_of_group hmem
      exact hlast edit he (hkind.trans hk)

/-- One stretch of changes between a common start and a common end. -/
theorem compare_shape_of_replacement :
    "abcd" ≠ "axyd" ∧
    (compare "abcd" "axyd").segments =
      [⟨.unchanged, ['a']⟩, ⟨.removed, ['b', 'c']⟩, ⟨.added, ['x', 'y']⟩, ⟨.unchanged, ['d']⟩] ∧
    ∃ p x y s changes, "abcd".toList = p ++ x ++ s ∧ "axyd".toList = p ++ y ++ s ∧
      CommonStart p "abcd".toList "axyd".toList ∧ CommonEnd s (x ++ s) (y ++ s) ∧
      (compare "abcd" "axyd").segments = piece .unchanged p ++ changes ++ piece .unchanged s ∧ changes ≠ [] ∧
      (∀ segment ∈ changes.head?, segment.kind ≠ .unchanged) ∧
      ∀ segment ∈ changes.getLast?, segment.kind ≠ .unchanged := by
  have hne : "abcd" ≠ "axyd" := by decide
  exact ⟨hne, by decide +kernel, (compare_shape "abcd" "axyd").2.2.2 hne⟩

end GoldenBench.Diff
