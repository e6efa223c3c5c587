import GoldenBench.Proofs.Diff.Grid

/-!
# The search finds the far corner in the fewest steps

Before step `d` the cells of the diagonals that `d - 1` steps lead to hold the greatest places reached there
(`Ready`). A step visits its diagonals from left to right; it leaves the cells of the step before alone, since every
other diagonal is none of its own (`Swept`).

* `arrive_spec`: the cells of the two neighbours give the greatest place that a step enters a diagonal at.
* `slide_spec`: `slide` follows the snake to its end.
* `Swept.visit`: a visit comes to the greatest place reached on its diagonal.
* `sweep_spec`: a whole step.
* `search_spec`: the search ends at the first step that leads to the far corner, unless it runs out of steps.
-/

namespace GoldenBench.Diff

variable {a b : Array Char} {d p q : Nat} {k x : Int} {get : Int → Except Fault Int} {v : Furthest}

/-- The greatest place reached on a diagonal is known. -/
def Knows (a b : Array Char) (get : Int → Except Fault Int) (d : Nat) (k : Int) : Prop :=
  ∃ x, get k = .ok x ∧ IsGreatest (Reached a b d k) x

/-- What a step needs to know: the greatest places of the step before. The first step goes down to the corner. -/
def Ready (a b : Array Char) (get : Int → Except Fault Int) : Nat → Prop
  | 0 => get 1 = .ok 0
  | d + 1 => ∀ k, OnStep d k → Knows a b get d k

/-! ## Cells -/

theorem charAt_of_getElem? {text : Array Char} {i : Nat} {c : Char} (h : text[i]? = some c) :
    charAt text i = .ok c := by
  obtain ⟨hi, rfl⟩ := Array.getElem?_eq_some_iff.mp h
  rw [charAt, dif_pos ⟨by omega, by simpa using hi⟩]
  rfl

/-- Changing the cell of a diagonal changes no other one. -/
theorem Furthest.set_spec (hv : v.cells.size = 2 * v.reach + 2) (hl : -(v.reach : Int) ≤ k) (hr : k ≤ v.reach)
    (x : Int) : ∃ v', v.set k x = .ok v' ∧ v'.reach = v.reach ∧ v'.cells.size = 2 * v'.reach + 2 ∧
      v'.get k = .ok x ∧ ∀ j, j ≠ k → v'.get j = v.get j := by
  have hk : 0 ≤ k + v.reach ∧ (k + v.reach).toNat < v.cells.size := by omega
  refine ⟨_, dif_pos hk, rfl, by simpa using hv, ?_, fun j hj => ?_⟩
  · rw [Furthest.get, dif_pos ⟨hk.1, by simpa using hk.2⟩]
    simp
  · simp only [Furthest.get, Array.size_set]
    split
    · rename_i hjr
      rw [Array.getElem_set_ne _ _ (by omega)]
    · rfl

/-- A saved row holds the cells of its diagonals. -/
theorem Furthest.row_spec (hv : v.cells.size = 2 * v.reach + 2) (hd : d ≤ v.reach) :
    ∃ row, v.row d = .ok row ∧ ∀ j : Int, -(d : Int) ≤ j → j ≤ d → rowGet row d j = v.get j := by
  refine ⟨_, if_pos ⟨hd, by omega⟩, fun j hl hr => ?_⟩
  rw [rowGet, dif_pos ⟨by omega, by rw [Array.size_extract]; omega⟩, Furthest.get, dif_pos ⟨by omega, by omega⟩,
    Array.getElem_extract]
  congr 2
  omega

theorem ready_start (a b : Array Char) (reach : Nat) : Ready a b (Furthest.start reach).get 0 := by
  rw [Ready, Furthest.get, dif_pos ⟨by simp [Furthest.start]; omega, by simp [Furthest.start]; omega⟩]
  simp [Furthest.start]

/-! ## Arriving on a diagonal -/

/-- The place at which a step arrives on a diagonal. -/
def arrive (get : Int → Except Fault Int) (d : Nat) (k : Int) : Except Fault Int := do
  if ← comesDown get d k then get (k + 1) else (· + 1) <$> get (k - 1)

/-- A step arrives from the only neighbour, or from the one that reached further, and from the left one of two that
reached as far; either way it enters the diagonal at the greatest place possible. -/
theorem comesDown_spec (ready : Ready a b get (d + 1)) (hk : OnStep (d + 1) k) :
    (comesDown get (d + 1) k = .ok true ∧ ∃ x, get (k + 1) = .ok x ∧
      IsGreatest (Reached a b d (k + 1)) x ∧ IsGreatest (Entered a b (d + 1) k) x) ∨
    (comesDown get (d + 1) k = .ok false ∧ ∃ x, get (k - 1) = .ok x ∧
      IsGreatest (Reached a b d (k - 1)) x ∧ x ∈ upperBounds (Reached a b d (k + 1)) ∧
      IsGreatest (Entered a b (d + 1) k) (x + 1)) := by
  obtain ⟨hl, hr, hp⟩ := hk
  have shift {s : Set Int} {x : Int} (h : IsGreatest s x) : IsGreatest ((· + 1) '' s) (x + 1) :=
    ⟨⟨x, h.1, rfl⟩, by rintro _ ⟨y, hy, rfl⟩; exact Int.add_le_add_right (h.2 hy) 1⟩
  rw [entered_succ]
  by_cases hlast : k = -(d + 1 : Nat)
  · obtain ⟨x, hx, hg⟩ := ready (k + 1) ⟨by omega, by omega, by omega⟩
    refine .inl ⟨if_pos hlast, x, hx, hg, ?_⟩
    rwa [reached_eq_empty (fun h => by have := h.left; omega), Set.image_empty, Set.empty_union]
  by_cases hfirst : k = (d + 1 : Nat)
  · obtain ⟨x, hx, hg⟩ := ready (k - 1) ⟨by omega, by omega, by omega⟩
    have hnone : Reached a b d (k + 1) = ∅ := reached_eq_empty fun h => by have := h.right; omega
    refine .inr ⟨by rw [comesDown, if_neg hlast, if_pos hfirst], x, hx, hg, ?_, ?_⟩
    · rw [hnone, upperBounds_empty]
      trivial
    · rw [hnone, Set.union_empty]
      exact shift hg
  obtain ⟨l, hl', hgl⟩ := ready (k - 1) ⟨by omega, by omega, by omega⟩
  obtain ⟨r, hr', hgr⟩ := ready (k + 1) ⟨by omega, by omega, by omega⟩
  have down : comesDown get (d + 1) k = .ok (decide (l < r)) := by
    rw [comesDown, if_neg hlast, if_neg hfirst, hl', hr']
    rfl
  have both := (shift hgl).union hgr
  by_cases hlt : l < r
  · rw [max_eq_right (by omega)] at both
    exact .inl ⟨by rw [down, decide_eq_true hlt], r, hr', hgr, both⟩
  · rw [max_eq_left (by omega)] at both
    exact .inr ⟨by rw [down, decide_eq_false hlt], l, hl', hgl, fun y hy => (hgr.2 hy).trans (by omega), both⟩

/-- The cells of the step before give the greatest place that a step enters a diagonal at. -/
theorem arrive_spec (ready : Ready a b get d) (hk : OnStep d k) :
    ∃ x, arrive get d k = .ok x ∧ IsGreatest (Entered a b d k) x := by
  cases d with
  | zero =>
    obtain rfl : k = 0 := by have := hk.left; have := hk.right; omega
    refine ⟨0, ?_, by rw [entered_zero]; exact isGreatest_singleton⟩
    rw [arrive, comesDown, if_pos (by simp)]
    exact ready
  | succ d =>
    obtain ⟨hd, x, hx, -, he⟩ | ⟨hd, x, hx, -, -, he⟩ := comesDown_spec ready hk
    · exact ⟨x, by rw [arrive, hd]; exact hx, he⟩
    · exact ⟨x + 1, by rw [arrive, hd]; simp [bind, Except.bind, hx], he⟩

/-- `slide` follows a snake to its end. -/
theorem slide_spec (a b : Array Char) (p q : Nat) :
    ∃ t, slide a b p q = .ok ((p + t : Nat) : Int) ∧ Snake a b p q t ∧ ¬ Matches a b (p + t) (q + t) := by
  induction hn : a.size - p generalizing p q with
  | zero =>
    refine ⟨0, ?_, fun i hi => by omega, fun hm => by have := hm.lt; omega⟩
    rw [slide, if_neg (by omega)]
    rfl
  | succ n ih =>
    by_cases hq : q < b.size
    · have hp : p < a.size := by omega
      have ha := Array.getElem?_eq_getElem hp
      have hb := Array.getElem?_eq_getElem hq
      by_cases hc : a[p] = b[q]
      · obtain ⟨t, ht, hs, hm⟩ := ih (p + 1) (q + 1) (by omega)
        refine ⟨1 + t, ?_, (snake_one ⟨a[p], ha, hc ▸ hb⟩).append hs, by rwa [← Nat.add_assoc, ← Nat.add_assoc]⟩
        rw [slide, if_pos (by omega), charAt_of_getElem? ha, charAt_of_getElem? hb]
        simp only [hc, ↓reduceIte]
        rw [← Nat.add_assoc, ← ht]
        rfl
      · refine ⟨0, ?_, fun i hi => by omega, fun ⟨c, h, h'⟩ => hc ?_⟩
        · rw [slide, if_pos (by omega), charAt_of_getElem? ha, charAt_of_getElem? hb]
          simp [hc]
        · rw [Nat.add_zero, ha] at h
          rw [Nat.add_zero, hb] at h'
          exact Option.some.inj (h.trans h'.symm)
    · refine ⟨0, ?_, fun i hi => by omega, fun hm => by have := hm.lt; omega⟩
      rw [slide, if_neg (by omega)]
      rfl

/-! ## One step -/

/-- Step `d` has visited its diagonals before `k`: their cells hold the greatest places reached, none of them at or
beyond the far corner. -/
structure Swept (a b : Array Char) (d : Nat) (k : Int) (v : Furthest) : Prop where
  /-- There is a cell for every diagonal. -/
  size : v.cells.size = 2 * v.reach + 2
  /-- What the step needs to know is still there. -/
  ready : Ready a b v.get d
  /-- The diagonals visited are known. -/
  known : ∀ j, OnStep d j → j < k → Knows a b v.get d j
  /-- No point found so far is at or beyond the far corner. -/
  short : ∀ p q, Reaches a b d p q → (p : Int) - q < k → ¬ (a.size ≤ p ∧ b.size ≤ q)

theorem Ready.of_get_eq {get' : Int → Except Fault Int} (ready : Ready a b get d) (hk : OnStep d k)
    (h : ∀ j, j ≠ k → get' j = get j) : Ready a b get' d := by
  cases d with
  | zero =>
    have := hk.right
    exact (h 1 (by omega)).trans ready
  | succ d =>
    intro j hj
    obtain ⟨x, hx, hg⟩ := ready j hj
    have := hk.parity
    have := hj.parity
    exact ⟨x, (h j (by omega)).trans hx, hg⟩

/-- Visits a diagonal: the place that is reached on it, and the cells with this place in its cell. -/
def visit (a b : Array Char) (d : Nat) (k : Int) (v : Furthest) : Except Fault (Int × Furthest) := do
  let x ← arrive v.get d k
  let x ← slide a b x (x - k)
  let v ← v.set k x
  return (x, v)

theorem sweep_succ (a b : Array Char) (d count : Nat) (k : Int) (v : Furthest) :
    sweep a b d (count + 1) k v = (do
      let (x, v) ← visit a b d k v
      if a.size ≤ x ∧ b.size ≤ x - k then return (true, v) else sweep a b d count (k + 2) v) := by
  simp only [sweep, visit, arrive, bind_assoc, pure_bind]
  congr 1
  funext down
  split <;> rfl

/-- Changing the cell of a diagonal to the greatest place reached on it, unless that is at or beyond the far corner. -/
theorem Swept.set (h : Swept a b d k v) (hk : OnStep d k) (hd : d ≤ v.reach) (hx : IsGreatest (Reached a b d k) x) :
    ∃ v', v.set k x = .ok v' ∧ v'.reach = v.reach ∧
      (¬ (a.size ≤ x ∧ b.size ≤ x - k) → Swept a b d (k + 2) v') := by
  have := hk.left
  have := hk.right
  obtain ⟨v', hset, hreach, hsize, hself, hother⟩ := Furthest.set_spec h.size (k := k) (by omega) (by omega) x
  refine ⟨v', hset, hreach, fun hc => ⟨hsize, h.ready.of_get_eq hk hother, fun j hj hlt => ?_,
    fun p q hr hlt hpq => ?_⟩⟩
  · by_cases hjk : j = k
    · exact ⟨x, hjk ▸ hself, hjk ▸ hx⟩
    · have := hk.parity
      have := hj.parity
      obtain ⟨y, hy, hg⟩ := h.known j hj (by omega)
      exact ⟨y, (hother j hjk).trans hy, hg⟩
  · by_cases hjk : (p : Int) - q = k
    · have := hx.2 (hjk ▸ mem_reached_of_reaches hr)
      omega
    · have := hk.parity
      have := hr.onStep.parity
      exact h.short p q hr (by omega) hpq

/-- A visit comes to the greatest place reached on the diagonal. -/
theorem Swept.visit (h : Swept a b d k v) (hk : OnStep d k) (hd : d ≤ v.reach) :
    ∃ x v', visit a b d k v = .ok (x, v') ∧ IsGreatest (Reached a b d k) x ∧ v'.reach = v.reach ∧
      (¬ (a.size ≤ x ∧ b.size ≤ x - k) → Swept a b d (k + 2) v') := by
  obtain ⟨_, hx, he⟩ := arrive_spec h.ready hk
  obtain ⟨p, q, rfl, hpq, -⟩ := he.1
  obtain ⟨t, ht, hs, hm⟩ := slide_spec a b p q
  have hg : IsGreatest (Reached a b d k) ((p + t : Nat) : Int) := by
    subst hpq
    exact isGreatest_reached he hs hm
  rw [show (q : Int) = p - k by omega] at ht
  obtain ⟨v', hset, hreach, hnext⟩ := h.set hk hd hg
  refine ⟨_, v', ?_, hg, hreach, hnext⟩
  rw [Diff.visit, hx]
  simp only [bind, Except.bind, ht, hset]
  rfl

/-- A step either finds a point at or beyond the far corner or learns the greatest places of all its diagonals. -/
theorem sweep_spec {count : Nat} (hk : k = d + 2 - 2 * count) (hcount : count ≤ d + 1) (hd : d ≤ v.reach)
    (h : Swept a b d k v) :
    (∃ v' p q, sweep a b d count k v = .ok (true, v') ∧ Reaches a b d p q ∧ a.size ≤ p ∧ b.size ≤ q) ∨
      ∃ v', sweep a b d count k v = .ok (false, v') ∧ v'.reach = v.reach ∧ Swept a b d (d + 2) v' := by
  induction count generalizing k v with
  | zero =>
    obtain rfl : k = d + 2 := by omega
    exact .inr ⟨v, rfl, rfl, h⟩
  | succ count ih =>
    obtain ⟨x, v', hvisit, hg, hreach, hnext⟩ := h.visit ⟨by omega, by omega, by omega⟩ hd
    rw [sweep_succ, hvisit]
    simp only [bind, Except.bind]
    by_cases hc : a.size ≤ x ∧ b.size ≤ x - k
    · obtain ⟨p, q, rfl, hpq, hr⟩ := hg.1
      rw [if_pos hc]
      exact .inl ⟨v', p, q, rfl, hr, by omega, by omega⟩
    · rw [if_neg hc]
      rw [← hreach] at hd ⊢
      exact ih (by push_cast at hk ⊢; omega) (by omega) hd (hnext hc)

/-! ## All steps -/

/-- Every saved row knows the greatest places of its step; the latest row is the first. -/
def Rows (a b : Array Char) : List (Array Int) → Prop
  | [] => True
  | row :: rest => Ready a b (rowGet row rest.length) (rest.length + 1) ∧ Rows a b rest

/-- The far corner was not reached before step `d`, and the rows of the steps before are saved. -/
structure Searched (a b : Array Char) (d : Nat) (v : Furthest) (history : List (Array Int)) : Prop where
  /-- There is a cell for every diagonal. -/
  size : v.cells.size = 2 * v.reach + 2
  /-- What the step needs to know is there. -/
  ready : Ready a b v.get d
  /-- A row was saved for every step. -/
  length : history.length = d
  /-- The rows hold what was learnt. -/
  rows : Rows a b history
  /-- The far corner was not reached. -/
  short : ∀ e < d, ¬ Reaches a b e a.size b.size

theorem search_reached {steps : Nat} {history : List (Array Int)} {v' : Furthest}
    (h : sweep a b d (d + 1) (-d) v = .ok (true, v')) : search a b (steps + 1) d v history = .ok (some history) := by
  rw [search, h]
  rfl

theorem search_next {steps : Nat} {history : List (Array Int)} {v' : Furthest} {row : Array Int}
    (h : sweep a b d (d + 1) (-d) v = .ok (false, v')) (hrow : v'.row d = .ok row) :
    search a b (steps + 1) d v history = search a b steps (d + 1) v' (row :: history) := by
  rw [search, h]
  simp only [bind, Except.bind, Bool.false_eq_true, ↓reduceIte, hrow]

/-- A step that begins has visited no diagonal yet. -/
theorem Searched.swept {history : List (Array Int)} (h : Searched a b d v history) : Swept a b d (-d) v where
  size := h.size
  ready := h.ready
  known j hj hlt := by
    have := hj.left
    omega
  short p q hr hlt := by
    have := hr.onStep.left
    omega

/-- A step that has visited all its diagonals and did not come to the far corner is followed by the next one. -/
theorem Searched.next {history : List (Array Int)} {v' : Furthest} (h : Searched a b d v history)
    (hswept : Swept a b d (d + 2) v') (hd : d ≤ v'.reach) :
    ∃ row, v'.row d = .ok row ∧ Searched a b (d + 1) v' (row :: history) := by
  obtain ⟨row, hrow, hget⟩ := Furthest.row_spec hswept.size hd
  have known : ∀ j, OnStep d j → Knows a b v'.get d j :=
    fun j hj => hswept.known j hj (by have := hj.right; omega)
  refine ⟨row, hrow, hswept.size, known, by rw [List.length_cons, h.length], ⟨fun j hj => ?_, h.rows⟩,
    fun e he hr => ?_⟩
  · rw [h.length] at hj ⊢
    obtain ⟨x, hx, hg⟩ := known j hj
    exact ⟨x, (hget j hj.left hj.right).trans hx, hg⟩
  · rcases Nat.lt_or_ge e d with hlt | hge
    · exact h.short e hlt hr
    · obtain rfl : e = d := by omega
      exact hswept.short _ _ hr (by have := hr.onStep.right; omega) ⟨Nat.le_refl _, Nat.le_refl _⟩

/-- The search ends at the first step that leads to the far corner, unless it runs out of steps. -/
theorem search_spec {steps : Nat} {history : List (Array Int)} (hsteps : d + steps ≤ v.reach + 1)
    (h : Searched a b d v history) :
    (search a b steps d v history = .ok none ∧ ∀ e < d + steps, ¬ Reaches a b e a.size b.size) ∨
      ∃ found, search a b steps d v history = .ok (some found) ∧ Rows a b found ∧ found.length < d + steps ∧
        Reaches a b found.length a.size b.size ∧ ∀ e < found.length, ¬ Reaches a b e a.size b.size := by
  induction steps generalizing d v history with
  | zero => exact .inl ⟨rfl, h.short⟩
  | succ steps ih =>
    obtain ⟨v', p, q, hsweep, hr, hp, hq⟩ | ⟨v', hsweep, hreach, hswept⟩ :=
      sweep_spec (by push_cast; omega) (Nat.le_refl _) (by omega) h.swept
    · obtain ⟨rfl, rfl⟩ := hr.eq_corner hp hq h.short
      exact .inr ⟨history, search_reached hsweep, h.rows, by have := h.length; omega, h.length ▸ hr,
        h.length ▸ h.short⟩
    · obtain ⟨row, hrow, hnext⟩ := h.next hswept (by omega)
      rw [search_next hsweep hrow, show d + (steps + 1) = d + 1 + steps by omega]
      exact ih (by omega) hnext

end GoldenBench.Diff
