import GoldenBench.Proofs.Diff.Search
import GoldenBench.Proofs.Diff.Order

/-!
# The way back is a shortest script

The saved rows lead from the far corner back to the other one: each row tells which neighbour the greatest place of
its diagonal came from, by the same rule as on the way out, and that neighbour's place is again the greatest of its
diagonal.

* `retreat_spec`: going back over a snake.
* `backtrack_up`, `backtrack_left`: one step back.
* `backtrack_spec`: the whole way back. It ends in the corner, its edits cost one for every row, and no removal in it
  comes right after an addition.
* `search_start_spec`, `backtrack_corner`: the search from one corner on, and the way back from the other.
* `script_spec`: within the limit `script` gives a cheapest script, beyond it none, and it never reads out of range.
-/

namespace GoldenBench.Diff

variable {a b : Array Char} {d p q t : Nat} {edits : List Edit}

/-! ## Snakes -/

/-- The characters of a snake are the same in both texts. -/
theorem Snake.take_drop (h : Snake a b p q t) : (a.toList.drop p).take t = (b.toList.drop q).take t := by
  induction t with
  | zero => rfl
  | succ t ih =>
    obtain ⟨c, ha, hb⟩ := h t (by omega)
    rw [List.take_add_one, List.take_add_one, ih fun i hi => h i (by omega), List.getElem?_drop, List.getElem?_drop,
      Array.getElem?_toList, Array.getElem?_toList, ha, hb]

theorem Rewrites.snake (h : Rewrites edits (a.toList.take p) (b.toList.take q)) (hs : Snake a b p q t) :
    Rewrites (edits ++ mark .unchanged ((a.toList.drop p).take t)) (a.toList.take (p + t)) (b.toList.take (q + t)) := by
  rw [List.take_add, List.take_add, ← hs.take_drop]
  exact h.append (rewrites_mark_unchanged _)

/-! ## Going back -/

/-- Going back over a snake. -/
theorem retreat_spec (hp : p + t ≤ a.size) (q : Nat) (edits : List Edit) :
    retreat a p q ⟨(p + t : Nat), (q + t : Nat), edits⟩ =
      .ok ⟨p, q, mark .unchanged ((a.toList.drop p).take t) ++ edits⟩ := by
  induction t generalizing edits with
  | zero =>
    rw [retreat, if_neg (by simp)]
    rfl
  | succ t ih =>
    have hget : a[p + t]? = some a[p + t] := Array.getElem?_eq_getElem (by omega)
    have hx : ((p + (t + 1) : Nat) : Int) - 1 = (p + t : Nat) := by omega
    have hy : ((q + (t + 1) : Nat) : Int) - 1 = (q + t : Nat) := by omega
    rw [retreat, if_pos (by simp only; omega)]
    simp only [hx, hy, charAt_of_getElem? hget]
    rw [ih (by omega), List.take_add_one, List.getElem?_drop, Array.getElem?_toList, hget]
    simp [mark]

section

variable {row : Array Int} {history : List (Array Int)} {c : Char}

/-- One step back up: over a snake, and over the character that was added before it. -/
theorem backtrack_up (hd : comesDown (rowGet row history.length) (history.length + 1)
      ((p + t : Nat) - (q + 1 + t : Nat) : Int) = .ok true)
    (hx : rowGet row history.length ((p + t : Nat) - (q + 1 + t : Nat) + 1) = .ok p) (hp : p + t ≤ a.size)
    (hc : b[q]? = some c) (edits : List Edit) :
    backtrack a b (row :: history) ⟨(p + t : Nat), (q + 1 + t : Nat), edits⟩ =
      backtrack a b history ⟨p, q, (.added, c) :: (mark .unchanged ((a.toList.drop p).take t) ++ edits)⟩ := by
  have hy : (p : Int) - ((p + t : Nat) - (q + 1 + t : Nat) + 1) = q := by omega
  rw [backtrack]
  simp only [hd, bind, Except.bind, ↓reduceIte, hx, hy, charAt_of_getElem? hc]
  rw [show (q : Int) + 1 = (q + 1 : Nat) by omega, retreat_spec hp (q + 1) edits]

/-- One step back left: over a snake, and over the character that was removed before it. -/
theorem backtrack_left (hd : comesDown (rowGet row history.length) (history.length + 1)
      ((p + 1 + t : Nat) - (q + t : Nat) : Int) = .ok false)
    (hx : rowGet row history.length ((p + 1 + t : Nat) - (q + t : Nat) - 1) = .ok p) (hp : p + 1 + t ≤ a.size)
    (hc : a[p]? = some c) (edits : List Edit) :
    backtrack a b (row :: history) ⟨(p + 1 + t : Nat), (q + t : Nat), edits⟩ =
      backtrack a b history ⟨p, q, (.removed, c) :: (mark .unchanged ((a.toList.drop (p + 1)).take t) ++ edits)⟩ := by
  have hy : (p : Int) - ((p + 1 + t : Nat) - (q + t : Nat) - 1) = q := by omega
  rw [backtrack]
  simp only [hd, bind, Except.bind, Bool.false_eq_true, ↓reduceIte, hx, hy, charAt_of_getElem? hc]
  rw [show (p : Int) + 1 = (p + 1 : Nat) by omega, retreat_spec hp q edits]

end

theorem cost_step {kind : Kind} (hkind : kind ≠ .unchanged) (before : List Edit) (c : Char) (text : List Char) :
    cost (before ++ [(kind, c)] ++ mark .unchanged text) = cost before + 1 := by
  rw [cost_append, cost_append, cost_mark, show [(kind, c)] = mark kind [c] from rfl, cost_mark, if_neg hkind]
  rfl

/-- What is reached to the right of a point is beyond it if the point is reached by a step down alone. -/
theorem Reaches.not_mem_upperBounds (h : Reaches a b d p q) :
    (p : Int) ∉ upperBounds (Reached a b (d + 1) (p - (q + 1 : Nat) + 2)) := by
  intro hbound
  have hright := mem_reached_of_reaches h.right
  rw [show ((p + 1 : Nat) : Int) - q = p - (q + 1 : Nat) + 2 by push_cast; omega] at hright
  have := hbound hright
  omega

/-- The way back ends in the corner, its edits cost one for every row, and no removal in it comes right after an
addition. It does not end with an addition if the places on the diagonal to the right are not beyond the point that
it begins at. -/
theorem backtrack_spec {history : List (Array Int)} (rows : Rows a b history) (hp : p ≤ a.size) (hq : q ≤ b.size)
    (hr : Reaches a b history.length p q) (hg : IsGreatest (Reached a b history.length ((p : Int) - q)) p)
    (edits : List Edit) :
    ∃ before, backtrack a b history ⟨p, q, edits⟩ = .ok ⟨0, 0, before ++ edits⟩ ∧
      Rewrites before (a.toList.take p) (b.toList.take q) ∧ cost before = history.length ∧ Orderly before ∧
      ((p : Int) ∈ upperBounds (Reached a b history.length ((p : Int) - q + 2)) → ¬ EndsWith .added before) := by
  induction history generalizing p q edits with
  | nil =>
    have hk : (p : Int) - q = 0 := by
      have := hr.onStep.left
      have := hr.onStep.right
      simp only [List.length_nil] at *
      omega
    have he : IsGreatest (Entered a b 0 ((p : Int) - q)) 0 := by
      rw [hk, entered_zero]
      exact isGreatest_singleton
    obtain ⟨p₀, q₀, t, h₀, hs, rfl, rfl⟩ := exists_snake_of_isGreatest he hr hg
    obtain rfl : p₀ = 0 := by omega
    obtain rfl : q₀ = 0 := by omega
    refine ⟨mark .unchanged ((a.toList.drop 0).take t), ?_, ?_, by simp [cost_mark], orderly_mark _ _, ?_⟩
    · rw [backtrack]
      exact retreat_spec hp 0 edits
    · have none : Rewrites [] (a.toList.take 0) (b.toList.take 0) := ⟨rfl, rfl⟩
      exact none.snake hs
    · exact fun _ => not_endsWith_mark (by decide) _
  | cons row history ih =>
    obtain ⟨ready, rows⟩ := rows
    rw [List.length_cons] at hr hg
    obtain ⟨hd, x, hx, hfrom, he⟩ | ⟨hd, x, hx, hfrom, hright, he⟩ := comesDown_spec ready hr.onStep
    · obtain ⟨p₀, q₀, t, rfl, hs, rfl, rfl⟩ := exists_snake_of_isGreatest he hr hg
      obtain ⟨p', q', hp', hk, hr'⟩ := hfrom.1
      obtain rfl : p' = p₀ := by omega
      obtain rfl : q₀ = q' + 1 := by push_cast at hk; omega
      have hc : b[q']? = some b[q'] := Array.getElem?_eq_getElem (by omega)
      obtain ⟨before, hb, hrw, hcost, horder, hlast⟩ := ih rows (by omega) (by omega) hr' (by rw [hk]; exact hfrom)
        ((.added, b[q']) :: (mark .unchanged ((a.toList.drop p').take t) ++ edits))
      refine ⟨before ++ [(.added, b[q'])] ++ mark .unchanged ((a.toList.drop p').take t), ?_,
        (hrw.add hc).snake hs, by rw [cost_step (by decide), hcost, List.length_cons],
        horder.step (fun h => by cases h) _ _, fun hbound hend => ?_⟩
      · rw [backtrack_up hd hx hp hc edits, hb, List.append_assoc, List.append_assoc]
        rfl
      · -- the last edit is this step down only if no snake follows it
        have htext := (eq_of_endsWith_step (by decide) hend).1
        rw [List.take_eq_nil_iff, List.drop_eq_nil_iff, Array.length_toList] at htext
        obtain rfl : t = 0 := by omega
        exact hr'.not_mem_upperBounds hbound
    · obtain ⟨p₀, q₀, t, h₀, hs, rfl, rfl⟩ := exists_snake_of_isGreatest he hr hg
      obtain ⟨p', q', rfl, hk, hr'⟩ := hfrom.1
      obtain rfl : p₀ = p' + 1 := by omega
      obtain rfl : q' = q₀ := by push_cast at hk; omega
      have hc : a[p']? = some a[p'] := Array.getElem?_eq_getElem (by omega)
      obtain ⟨before, hb, hrw, hcost, horder, hlast⟩ := ih rows (by omega) (by omega) hr' (by rw [hk]; exact hfrom)
        ((.removed, a[p']) :: (mark .unchanged ((a.toList.drop (p' + 1)).take t) ++ edits))
      refine ⟨before ++ [(.removed, a[p'])] ++ mark .unchanged ((a.toList.drop (p' + 1)).take t), ?_,
        (hrw.remove hc).snake hs, by rw [cost_step (by decide), hcost, List.length_cons],
        horder.step (fun _ => hlast ?_) _ _, fun _ hend => ?_⟩
      · rw [backtrack_left hd hx hp hc edits, hb, List.append_assoc, List.append_assoc]
        rfl
      · rwa [show (p' : Int) - q' + 2 = (p' + 1 + t : Nat) - (q' + t : Nat) + 1 by push_cast; omega]
      · cases (eq_of_endsWith_step (by decide) hend).2

/-! ## The whole script -/

theorem searched_start (a b : Array Char) (reach : Nat) : Searched a b 0 (.start reach) [] :=
  ⟨by simp [Furthest.start], ready_start a b reach, rfl, trivial, fun e he => absurd he (Nat.not_lt_zero e)⟩

/-- The search from the corner on ends at the first step that leads to the far corner, unless it is given up before. -/
theorem search_start_spec (a b : Array Char) :
    (search a b (min (a.size + b.size) editLimit + 1) 0 (.start (a.size + b.size)) [] = .ok none ∧
      ∀ e ≤ min (a.size + b.size) editLimit, ¬ Reaches a b e a.size b.size) ∨
    ∃ history,
      search a b (min (a.size + b.size) editLimit + 1) 0 (.start (a.size + b.size)) [] = .ok (some history) ∧
      Rows a b history ∧ history.length ≤ min (a.size + b.size) editLimit ∧
      IsLeast {e | Reaches a b e a.size b.size} history.length := by
  have hsteps : 0 + (min (a.size + b.size) editLimit + 1) ≤ (Furthest.start (a.size + b.size)).reach + 1 := by
    simp only [Furthest.start]
    omega
  obtain ⟨hnone, hfar⟩ | ⟨history, hfound, rows, hlt, hr, hfirst⟩ :=
    search_spec hsteps (searched_start a b (a.size + b.size))
  · exact .inl ⟨hnone, fun e he => hfar e (by omega)⟩
  · exact .inr ⟨history, hfound, rows, by omega, hr, fun e he => Nat.not_lt.mp fun hlt => hfirst e hlt he⟩

/-- The far corner is the greatest place on its diagonal in the first step that leads there. -/
theorem isGreatest_corner (h : IsLeast {e | Reaches a b e a.size b.size} d) :
    IsGreatest (Reached a b d ((a.size : Int) - b.size)) a.size := by
  refine ⟨mem_reached_of_reaches h.1, ?_⟩
  rintro _ ⟨p, q, rfl, hk, hr⟩
  by_contra hlt
  have := (hr.eq_corner (by omega) (by omega) fun e he hr => Nat.not_lt.mpr (h.2 hr) he).1
  omega

/-- The way back from the far corner, found in the first step that leads there, is a script for the texts. -/
theorem backtrack_corner {history : List (Array Int)} (rows : Rows a b history)
    (h : IsLeast {e | Reaches a b e a.size b.size} history.length) :
    ∃ edits, backtrack a b history ⟨a.size, b.size, []⟩ = .ok ⟨0, 0, edits⟩ ∧ Rewrites edits a.toList b.toList ∧
      cost edits = history.length ∧ Orderly edits := by
  obtain ⟨edits, hback, hrw, hcost, horder, -⟩ :=
    backtrack_spec rows (Nat.le_refl _) (Nat.le_refl _) h.1 (isGreatest_corner h) []
  rw [List.append_nil] at hback
  rw [List.take_of_length_le (by simp), List.take_of_length_le (by simp)] at hrw
  exact ⟨edits, hback, hrw, hcost, horder⟩

/-- Within the limit `script` gives a cheapest script, in which no removal comes right after an addition; beyond it
none. It never reads out of range. -/
theorem script_spec (a b : Array Char) :
    (distance a.toList b.toList ≤ editLimit ∧ ∃ edits, script a b = .ok (some edits) ∧
      Rewrites edits a.toList b.toList ∧ cost edits = distance a.toList b.toList ∧ Orderly edits) ∨
    (editLimit < distance a.toList b.toList ∧ script a b = .ok none) := by
  obtain ⟨hnone, hfar⟩ | ⟨history, hfound, rows, hle, hleast⟩ := search_start_spec a b
  · have hmost : distance a.toList b.toList ≤ a.size + b.size := by
      simp only [distance, Array.length_toList]
      omega
    refine .inr ⟨?_, ?_⟩
    · by_contra hnot
      exact hfar _ (by omega) (reaches_distance a b)
    · rw [script, hnone]
      rfl
  · have hd : history.length = distance a.toList b.toList :=
      Nat.le_antisymm (hleast.2 (reaches_distance a b)) hleast.1.distance_le
    obtain ⟨edits, hback, hrw, hcost, horder⟩ := backtrack_corner rows hleast
    refine .inl ⟨by omega, edits, ?_, hrw, hcost.trans hd, horder⟩
    rw [script, hfound]
    simp only [bind, Except.bind, hback]
    rfl

end GoldenBench.Diff
