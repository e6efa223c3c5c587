import GoldenBench.Diff.Compare
import GoldenBench.Proofs.Diff.Backtrack

/-!
# Differences are right and as small as can be

A difference is put together from the common start of two texts (`CommonStart`), a script for what is left between
the ends (`middle`), and the common end of what the start leaves over (`CommonEnd`).

* `compare_rebuilds`: both texts can be read off a difference, and it has no change just if they are equal.
* `compare_cheapest`: up to the limit a difference changes as few characters as any script must; beyond it, it is one
  removal and one addition between the common ends.
-/

namespace GoldenBench.Diff

variable {a b p s x y : List Char} {edits : List Edit} {kind : Kind}

/-! ## Common ends -/

/-- The longest text that two texts both begin with. -/
structure CommonStart (p a b : List Char) : Prop where
  /-- The one begins with it. -/
  left : p <+: a
  /-- The other begins with it. -/
  right : p <+: b
  /-- Everything that both begin with begins it. -/
  longest : ∀ q, q <+: a → q <+: b → q <+: p

/-- The longest text that two texts both end with. -/
structure CommonEnd (s a b : List Char) : Prop where
  /-- The one ends with it. -/
  left : s <:+ a
  /-- The other ends with it. -/
  right : s <:+ b
  /-- Everything that both end with ends it. -/
  longest : ∀ q, q <:+ a → q <:+ b → q <:+ s

theorem CommonStart.cons (c : Char) (h : CommonStart p a b) : CommonStart (c :: p) (c :: a) (c :: b) where
  left := List.cons_prefix_cons.mpr ⟨rfl, h.left⟩
  right := List.cons_prefix_cons.mpr ⟨rfl, h.right⟩
  longest q ha hb := by
    cases q with
    | nil => exact List.nil_prefix
    | cons e q =>
      obtain ⟨he, ha⟩ := List.cons_prefix_cons.mp ha
      exact List.cons_prefix_cons.mpr ⟨he, h.longest q ha (List.cons_prefix_cons.mp hb).2⟩

theorem commonStart_nil (h : ∀ c, ¬ ([c] <+: a ∧ [c] <+: b)) : CommonStart [] a b where
  left := List.nil_prefix
  right := List.nil_prefix
  longest q ha hb := by
    cases q with
    | nil => exact List.nil_prefix
    | cons c q =>
      have hc : [c] <+: c :: q := ⟨q, rfl⟩
      exact absurd ⟨hc.trans ha, hc.trans hb⟩ (h c)

/-- `agreement` is the length of the longest common start. -/
theorem agreement_spec (a b : List Char) :
    CommonStart (a.take (agreement a b)) a b ∧ b.take (agreement a b) = a.take (agreement a b) := by
  fun_induction agreement a b with
  | case1 a c b ih => exact ⟨ih.1.cons c, by rw [List.take_succ_cons, List.take_succ_cons, ih.2]⟩
  | case2 c a e b hne =>
    refine ⟨commonStart_nil fun f ⟨ha, hb⟩ => hne ?_, rfl⟩
    exact (List.cons_prefix_cons.mp ha).1.symm.trans (List.cons_prefix_cons.mp hb).1
  | case3 a b hnot =>
    refine ⟨commonStart_nil fun f ⟨⟨a', ha⟩, ⟨b', hb⟩⟩ => ?_, by simp⟩
    exact hnot f a' f b' ha.symm hb.symm

theorem CommonStart.reverse (h : CommonStart p.reverse a.reverse b.reverse) : CommonEnd p a b where
  left := List.reverse_prefix.mp h.left
  right := List.reverse_prefix.mp h.right
  longest q ha hb :=
    List.reverse_prefix.mp (h.longest q.reverse (List.reverse_prefix.mpr ha) (List.reverse_prefix.mpr hb))

/-! ## The parts of a difference -/

/-- The edits between the common ends: a cheapest script, or everything removed and added. -/
def middle (x y : List Char) : List Edit :=
  match script x.toArray y.toArray with
  | .ok (some edits) => edits
  | _ => replaceAll x y

/-- A difference consists of the common start, a script, and the common end of what the start leaves over. -/
theorem exists_parts (e a : List Char) :
    ∃ p x y s, e = p ++ x ++ s ∧ a = p ++ y ++ s ∧ CommonStart p e a ∧ CommonEnd s (x ++ s) (y ++ s) ∧
      (compareChars e a).segments = group (mark .unchanged p ++ middle x y ++ mark .unchanged s) := by
  obtain ⟨hstart, htake⟩ := agreement_spec e a
  generalize hn : agreement e a = n at hstart htake
  obtain ⟨hend, htake'⟩ := agreement_spec (e.drop n).reverse (a.drop n).reverse
  generalize hm : agreement (e.drop n).reverse (a.drop n).reverse = m at hend htake'
  rw [List.take_reverse, List.take_reverse, List.reverse_inj] at htake'
  rw [List.take_reverse] at hend
  generalize hs : (e.drop n).drop ((e.drop n).length - m) = s at hend htake'
  have he : (e.drop n).take ((e.drop n).length - m) ++ s = e.drop n := hs ▸ List.take_append_drop _ _
  have ha : (a.drop n).take ((a.drop n).length - m) ++ s = a.drop n := htake' ▸ List.take_append_drop _ _
  refine ⟨e.take n, (e.drop n).take ((e.drop n).length - m), (a.drop n).take ((a.drop n).length - m), s,
    ?_, ?_, hstart, ?_, ?_⟩
  · rw [List.append_assoc, he, List.take_append_drop]
  · rw [List.append_assoc, ha, ← htake, List.take_append_drop]
  · rw [he, ha]
    exact hend.reverse
  · simp only [compareChars, hn, hm, hs, middle]
    split <;> simp_all

/-- What the script between the ends is like. -/
theorem middle_spec (x y : List Char) :
    Rewrites (middle x y) x y ∧ (distance x y ≤ editLimit → cost (middle x y) = distance x y) ∧
      (editLimit < distance x y → middle x y = replaceAll x y) := by
  obtain ⟨hle, edits, hs, hr, hc, -⟩ | ⟨hlt, hs⟩ := script_spec x.toArray y.toArray
  · have hmid : middle x y = edits := by simp only [middle, hs]
    rw [hmid]
    exact ⟨hr, fun _ => hc, fun hlt => absurd hle (Nat.not_le.mpr hlt)⟩
  · have hmid : middle x y = replaceAll x y := by simp only [middle, hs]
    rw [hmid]
    refine ⟨?_, fun hle => absurd hle (Nat.not_le.mpr hlt), fun _ => rfl⟩
    simpa [replaceAll] using (rewrites_mark_removed x).append (rewrites_mark_added y)

theorem Rewrites.between (h : Rewrites edits x y) (p s : List Char) :
    Rewrites (mark .unchanged p ++ edits ++ mark .unchanged s) (p ++ x ++ s) (p ++ y ++ s) :=
  ((rewrites_mark_unchanged p).append h).append (rewrites_mark_unchanged s)

theorem cost_between (edits : List Edit) (p s : List Char) :
    cost (mark .unchanged p ++ edits ++ mark .unchanged s) = cost edits := by
  simp [cost_append, cost_mark]

/-- A script that changes nothing leads from a text to itself. -/
theorem Rewrites.eq_of_cost_eq_zero (h : Rewrites edits a b) (hc : cost edits = 0) : a = b := by
  have hl := length_sides edits
  have ha := keptChars_sublist (show Kind.added ≠ .unchanged by decide) edits
  have hb := keptChars_sublist (show Kind.removed ≠ .unchanged by decide) edits
  rw [h.source] at hl ha
  rw [h.target] at hl hb
  have := ha.length_le
  have := hb.length_le
  rw [← ha.eq_of_length (by omega), ← hb.eq_of_length (by omega)]

theorem all_unchanged_group_iff (edits : List Edit) :
    (group edits).all (·.kind = .unchanged) = true ↔ cost edits = 0 := by
  rw [cost, ← without_group, List.length_eq_zero_iff, without, List.flatMap_eq_nil_iff, List.all_eq_true]
  constructor
  · intro h segment hs
    obtain ⟨hs, hne⟩ := List.mem_filter.mp hs
    exact absurd (h segment hs) (by simpa using hne)
  · intro h segment hs
    by_contra hne
    exact chars_ne_nil_of_mem_group hs (h segment (List.mem_filter.mpr ⟨hs, by simpa using hne⟩))

theorem join_text (kind : Kind) (segments : List Segment) :
    String.join ((segments.filter (·.kind ≠ kind)).map Segment.text) = String.ofList (without kind segments) := by
  apply String.toList_inj.mp
  simp [without, Segment.text, List.flatMap_map]

/-- Everything removed and added between common ends, as segments: a piece for each part that is not empty. -/
theorem group_replaceAll (h : ¬ (x = [] ∧ y = [])) (p s : List Char) :
    group (mark .unchanged p ++ replaceAll x y ++ mark .unchanged s) =
      piece .unchanged p ++ piece .removed x ++ piece .added y ++ piece .unchanged s := by
  have hnone : replaceAll x y ≠ [] := by simpa [replaceAll, mark] using h
  have hchanged : ∀ edit ∈ replaceAll x y, edit.1 ≠ .unchanged := by
    intro edit he
    rcases List.mem_append.mp he with he | he
    · rw [kind_of_mem_mark he]
      decide
    · rw [kind_of_mem_mark he]
      decide
  have hgroup : group (replaceAll x y) = piece .removed x ++ piece .added y := by
    rw [replaceAll, group_append, group_mark, group_mark]
    intro last hl first hf
    rw [kind_of_mem_mark (List.mem_of_mem_getLast? hl), kind_of_mem_mark (List.mem_of_mem_head? hf)]
    decide
  rw [group_between hnone (fun edit he => hchanged edit (List.mem_of_mem_head? he))
    (fun edit he => hchanged edit (List.mem_of_mem_getLast? he)), hgroup, ← List.append_assoc]

/-! ## Main statements -/

/-- The parts of a difference, as a script. -/
theorem exists_script (e a : List Char) :
    ∃ edits, Rewrites edits e a ∧ (compareChars e a).segments = group edits ∧ (cost edits = 0 ↔ e = a) := by
  obtain ⟨p, x, y, s, rfl, rfl, -, -, hsegs⟩ := exists_parts e a
  obtain ⟨hmid, hcost, -⟩ := middle_spec x y
  have hwhole := hmid.between p s
  refine ⟨_, hwhole, hsegs, fun hc => hwhole.eq_of_cost_eq_zero hc, fun heq => ?_⟩
  have hd : distance x y = 0 := by rw [← distance_append_append p x y s, heq, distance_self]
  rw [cost_between, hcost (by rw [hd]; exact Nat.zero_le _), hd]

/-- Nothing was added or removed just if the texts are equal. -/
theorem isIdentical_compare (expected actual : String) :
    (compare expected actual).isIdentical = true ↔ expected = actual := by
  obtain ⟨edits, -, hsegs, hcost⟩ := exists_script expected.toList actual.toList
  rw [compare, isIdentical, hsegs, all_unchanged_group_iff, hcost, String.toList_inj]

/-- Leaving out what was added gives the expected text, leaving out what was removed the actual one, and nothing was
added or removed just if the texts are equal. -/
theorem compare_rebuilds (expected actual : String) :
    String.join (((compare expected actual).segments.filter (·.kind ≠ .added)).map Segment.text) = expected ∧
    String.join (((compare expected actual).segments.filter (·.kind ≠ .removed)).map Segment.text) = actual ∧
    ((compare expected actual).isIdentical = true ↔ expected = actual) := by
  obtain ⟨edits, hscript, hsegs, -⟩ := exists_script expected.toList actual.toList
  refine ⟨?_, ?_, isIdentical_compare expected actual⟩
  · rw [compare, join_text, hsegs, without_group, hscript.source, String.ofList_toList]
  · rw [compare, join_text, hsegs, without_group, hscript.target, String.ofList_toList]

/-- Up to the limit a difference changes as few characters as any script must, which is what the texts have beyond a
longest common subsequence. Beyond the limit it is what the texts have in common at their start, everything between
removed and added, and what they have in common at their end. -/
theorem compare_cheapest (expected actual : String) :
    let far := expected.length + actual.length - 2 * commonLength expected.toList actual.toList
    (∀ edits, Rewrites edits expected.toList actual.toList → far ≤ cost edits) ∧
    (far ≤ 1000 → (without .unchanged (compare expected actual).segments).length = far) ∧
    (1000 < far → ∃ p x y s, expected.toList = p ++ x ++ s ∧ actual.toList = p ++ y ++ s ∧
      CommonStart p expected.toList actual.toList ∧ CommonEnd s (x ++ s) (y ++ s) ∧
      (compare expected actual).segments =
        piece .unchanged p ++ piece .removed x ++ piece .added y ++ piece .unchanged s) := by
  intro far
  have hfar : far = distance expected.toList actual.toList := by
    simp only [far, distance, String.length_toList]
  obtain ⟨p, x, y, s, he, ha, hp, hs, hsegs⟩ := exists_parts expected.toList actual.toList
  obtain ⟨hmid, hcost, hcoarse⟩ := middle_spec x y
  have hd : far = distance x y := by rw [hfar, he, ha, distance_append_append]
  refine ⟨fun edits h => hfar ▸ h.distance_le, fun hle => ?_, fun hlt => ?_⟩
  · rw [compare, hsegs, without_group, ← cost, cost_between, hcost (hd ▸ hle), hd]
  · refine ⟨p, x, y, s, he, ha, hp, hs, ?_⟩
    rw [compare, hsegs, hcoarse (hd ▸ hlt), group_replaceAll]
    rintro ⟨rfl, rfl⟩
    rw [distance_self] at hd
    omega

/-- Two changes are within the limit, and 1001 are beyond it. -/
theorem compare_cheapest_near_and_far :
    (without .unchanged (compare "abc" "abd").segments).length = 2 ∧
      (compare (String.ofList (List.replicate 1001 'a')) "").segments =
        [⟨.removed, List.replicate 1001 'a'⟩] := by
  have near : "abc".length + "abd".length - 2 * commonLength "abc".toList "abd".toList = 2 := by decide +kernel
  have far : 1000 < (String.ofList (List.replicate 1001 'a')).length + "".length -
      2 * commonLength (String.ofList (List.replicate 1001 'a')).toList "".toList := by
    rw [String.toList_empty, commonLength_nil, String.length_ofList, List.length_replicate]
    decide
  refine ⟨((compare_cheapest "abc" "abd").2.1 (by rw [near]; decide)).trans near, ?_⟩
  obtain ⟨p, x, y, s, he, ha, -, -, hsegs⟩ :=
    (compare_cheapest (String.ofList (List.replicate 1001 'a')) "").2.2 far
  rw [String.toList_empty, eq_comm, List.append_eq_nil_iff, List.append_eq_nil_iff] at ha
  obtain ⟨⟨rfl, rfl⟩, rfl⟩ := ha
  rw [List.nil_append, List.append_nil, String.toList_ofList] at he
  rw [hsegs, ← he]
  rfl

end GoldenBench.Diff
