import GoldenBench.Diff.Search
import GoldenBench.Proofs.Diff.Script
import Mathlib.Order.Bounds.Lattice

/-!
# The grid of two texts

`Reaches a b d p q` says that `d` unit steps lead from the corner of the grid to the point `(p, q)`, with any number
of diagonal steps over characters that agree. Unit steps may leave the grid. `Reached a b d k` is the set of places
on diagonal `k` that `d` steps lead to, and `Entered a b d k` that of the places that the last of them itself leads
to.

* `Reaches.clamp`: a point beyond the far corner is reached by way of the corner, with fewer steps.
* `reaches_iff_enters`: a point is reached by a snake of diagonal steps from a point that is entered.
* `entered_succ`: the entered places of a diagonal come from the reached ones of its neighbours.
* `isGreatest_reached`: the greatest reached place is where the snake from the greatest entered one ends.
* `Reaches.exists_rewrites`, `Reaches.follow`: ways through the grid are scripts, so `distance` is the least number
  of steps to the far corner (`reaches_distance`, `Reaches.distance_le`).
-/

namespace GoldenBench.Diff

variable {a b : Array Char} {d p q t : Nat} {k x : Int} {edits : List Edit}

/-- The texts agree at a point of the grid. -/
def Matches (a b : Array Char) (p q : Nat) : Prop :=
  ∃ c, a[p]? = some c ∧ b[q]? = some c

/-- The texts agree at a point and at the points diagonally behind it, `t` in all. -/
def Snake (a b : Array Char) (p q t : Nat) : Prop :=
  ∀ i < t, Matches a b (p + i) (q + i)

/-- A number of unit steps, and diagonal steps where the texts agree, lead to a point. -/
inductive Reaches (a b : Array Char) : Nat → Nat → Nat → Prop
  /-- The way begins in the corner. -/
  | start : Reaches a b 0 0 0
  /-- A step right removes a character. -/
  | right {d p q : Nat} : Reaches a b d p q → Reaches a b (d + 1) (p + 1) q
  /-- A step down adds one. -/
  | down {d p q : Nat} : Reaches a b d p q → Reaches a b (d + 1) p (q + 1)
  /-- A diagonal step keeps one. -/
  | diagonal {d p q : Nat} : Reaches a b d p q → Matches a b p q → Reaches a b d (p + 1) (q + 1)

/-- A point is the corner, or the last unit step leads to it. -/
def Enters (a b : Array Char) : Nat → Nat → Nat → Prop
  | 0, p, q => p = 0 ∧ q = 0
  | d + 1, p, q => (∃ p', p = p' + 1 ∧ Reaches a b d p' q) ∨ ∃ q', q = q' + 1 ∧ Reaches a b d p q'

/-- The places on a diagonal that unit steps lead to. -/
def Reached (a b : Array Char) (d : Nat) (k : Int) : Set Int :=
  {x | ∃ p q : Nat, (p : Int) = x ∧ (p : Int) - q = k ∧ Reaches a b d p q}

/-- The places on a diagonal that the last unit step itself leads to. -/
def Entered (a b : Array Char) (d : Nat) (k : Int) : Set Int :=
  {x | ∃ p q : Nat, (p : Int) = x ∧ (p : Int) - q = k ∧ Enters a b d p q}

/-- The diagonals that a number of unit steps can lead to. -/
structure OnStep (d : Nat) (k : Int) : Prop where
  /-- It is not too far to the left. -/
  left : -(d : Int) ≤ k
  /-- It is not too far to the right. -/
  right : k ≤ d
  /-- Every unit step leads to a neighbour. -/
  parity : (k - d) % 2 = 0

/-! ## Points -/

theorem Matches.lt (h : Matches a b p q) : p < a.size ∧ q < b.size := by
  obtain ⟨c, ha, hb⟩ := h
  exact ⟨(Array.getElem?_eq_some_iff.mp ha).1, (Array.getElem?_eq_some_iff.mp hb).1⟩

theorem Snake.append {s : Nat} (h : Snake a b p q t) (h' : Snake a b (p + t) (q + t) s) :
    Snake a b p q (t + s) := fun i hi => by
  rcases Nat.lt_or_ge i t with hlt | hge
  · exact h i hlt
  · have := h' (i - t) (by omega)
    rwa [show p + t + (i - t) = p + i by omega, show q + t + (i - t) = q + i by omega] at this

theorem snake_one (h : Matches a b p q) : Snake a b p q 1 := fun i hi => by
  obtain rfl : i = 0 := by omega
  exact h

theorem Reaches.snake (h : Reaches a b d p q) : ∀ {t : Nat}, Snake a b p q t → Reaches a b d (p + t) (q + t)
  | 0, _ => h
  | t + 1, hs => (h.snake fun i hi => hs i (by omega)).diagonal (hs t (by omega))

theorem Enters.reaches (h : Enters a b d p q) : Reaches a b d p q := by
  cases d with
  | zero =>
    obtain ⟨rfl, rfl⟩ := h
    exact .start
  | succ d =>
    obtain ⟨p', rfl, h⟩ | ⟨q', rfl, h⟩ := h
    · exact h.right
    · exact h.down

/-- A point is reached by a snake from a point that is entered. -/
theorem reaches_iff_enters :
    Reaches a b d p q ↔ ∃ p₀ q₀ t, Enters a b d p₀ q₀ ∧ Snake a b p₀ q₀ t ∧ p = p₀ + t ∧ q = q₀ + t := by
  constructor
  · intro h
    induction h with
    | start => exact ⟨0, 0, 0, ⟨rfl, rfl⟩, fun i hi => by omega, rfl, rfl⟩
    | @right d p q h => exact ⟨p + 1, q, 0, .inl ⟨p, rfl, h⟩, fun i hi => by omega, rfl, rfl⟩
    | @down d p q h => exact ⟨p, q + 1, 0, .inr ⟨q, rfl, h⟩, fun i hi => by omega, rfl, rfl⟩
    | diagonal _ hm ih =>
      obtain ⟨p₀, q₀, t, he, hs, rfl, rfl⟩ := ih
      exact ⟨p₀, q₀, t + 1, he, hs.append (snake_one hm), rfl, rfl⟩
  · rintro ⟨p₀, q₀, t, he, hs, rfl, rfl⟩
    exact he.reaches.snake hs

theorem Reaches.onStep (h : Reaches a b d p q) : OnStep d ((p : Int) - q) := by
  induction h with
  | start => exact ⟨by simp, by simp, by simp⟩
  | right _ ih | down _ ih | diagonal _ _ ih =>
    obtain ⟨hl, hr, hp⟩ := ih
    constructor <;> push_cast <;> omega

/-- A point beyond the far corner is reached by way of the corner: every step outside the grid is one too many. -/
theorem Reaches.clamp (h : Reaches a b d p q) :
    ∃ e, Reaches a b e (min p a.size) (min q b.size) ∧
      e + (p - min p a.size) + (q - min q b.size) = d := by
  induction h with
  | start => exact ⟨0, by simpa using Reaches.start, by simp⟩
  | @right d p q _ ih =>
    obtain ⟨e, h, he⟩ := ih
    rcases Nat.lt_or_ge p a.size with hp | hp
    · rw [show min p a.size = p by omega] at h he
      rw [show min (p + 1) a.size = p + 1 by omega]
      exact ⟨e + 1, h.right, by omega⟩
    · rw [show min p a.size = a.size by omega] at h he
      rw [show min (p + 1) a.size = a.size by omega]
      exact ⟨e, h, by omega⟩
  | @down d p q _ ih =>
    obtain ⟨e, h, he⟩ := ih
    rcases Nat.lt_or_ge q b.size with hq | hq
    · rw [show min q b.size = q by omega] at h he
      rw [show min (q + 1) b.size = q + 1 by omega]
      exact ⟨e + 1, h.down, by omega⟩
    · rw [show min q b.size = b.size by omega] at h he
      rw [show min (q + 1) b.size = b.size by omega]
      exact ⟨e, h, by omega⟩
  | @diagonal d p q _ hm ih =>
    obtain ⟨e, h, he⟩ := ih
    have ⟨hp, hq⟩ := hm.lt
    rw [show min p a.size = p by omega, show min q b.size = q by omega] at h he
    rw [show min (p + 1) a.size = p + 1 by omega, show min (q + 1) b.size = q + 1 by omega]
    exact ⟨e, h.diagonal hm, by omega⟩

/-- The first point at or beyond the far corner that is reached is the far corner. -/
theorem Reaches.eq_corner (h : Reaches a b d p q) (hp : a.size ≤ p) (hq : b.size ≤ q)
    (first : ∀ e < d, ¬ Reaches a b e a.size b.size) : p = a.size ∧ q = b.size := by
  obtain ⟨e, he, hd⟩ := h.clamp
  rw [Nat.min_eq_right hp, Nat.min_eq_right hq] at he hd
  have : ¬ e < d := fun hlt => first e hlt he
  omega

/-! ## Diagonals -/

theorem mem_reached_of_reaches (h : Reaches a b d p q) : (p : Int) ∈ Reached a b d ((p : Int) - q) :=
  ⟨p, q, rfl, rfl, h⟩

theorem entered_subset_reached (a b : Array Char) (d : Nat) (k : Int) : Entered a b d k ⊆ Reached a b d k :=
  fun _ ⟨p, q, hx, hk, h⟩ => ⟨p, q, hx, hk, h.reaches⟩

theorem entered_zero : Entered a b 0 0 = {0} := by
  ext x
  constructor
  · rintro ⟨p, q, rfl, -, rfl, rfl⟩
    rfl
  · rintro rfl
    exact ⟨0, 0, rfl, rfl, rfl, rfl⟩

/-- The entered places of a diagonal come from the left by a step right, and from the right by a step down. -/
theorem entered_succ (a b : Array Char) (d : Nat) (k : Int) :
    Entered a b (d + 1) k = (· + 1) '' Reached a b d (k - 1) ∪ Reached a b d (k + 1) := by
  ext x
  constructor
  · rintro ⟨p, q, rfl, hk, ⟨p', rfl, h⟩ | ⟨q', rfl, h⟩⟩
    · exact .inl ⟨p', ⟨p', q, rfl, by push_cast at hk; omega, h⟩, by push_cast; rfl⟩
    · exact .inr ⟨p, q', rfl, by push_cast at hk; omega, h⟩
  · rintro (⟨_, ⟨p, q, rfl, hk, h⟩, rfl⟩ | ⟨p, q, rfl, hk, h⟩)
    · exact ⟨p + 1, q, by push_cast; rfl, by push_cast; omega, .inl ⟨p, rfl, h⟩⟩
    · exact ⟨p, q + 1, rfl, by push_cast; omega, .inr ⟨q, rfl, h⟩⟩

theorem reached_eq_empty (h : ¬ OnStep d k) : Reached a b d k = ∅ := by
  refine Set.eq_empty_iff_forall_notMem.mpr fun x ⟨p, q, _, hk, hr⟩ => h ?_
  exact hk ▸ hr.onStep

/-- A place on a diagonal is reached by a snake from an entered place that is not beyond it. -/
theorem exists_snake_of_reached (h : Reaches a b d p q) {x : Int}
    (hx : x ∈ upperBounds (Entered a b d ((p : Int) - q))) :
    ∃ p₀ q₀ t, Enters a b d p₀ q₀ ∧ (p₀ : Int) ≤ x ∧ Snake a b p₀ q₀ t ∧ p = p₀ + t ∧ q = q₀ + t := by
  obtain ⟨p₀, q₀, t, he, hs, rfl, rfl⟩ := reaches_iff_enters.mp h
  exact ⟨p₀, q₀, t, he, hx ⟨p₀, q₀, rfl, by push_cast; omega, he⟩, hs, rfl, rfl⟩

/-- The greatest reached place is where the snake from the greatest entered one ends. -/
theorem isGreatest_reached (he : IsGreatest (Entered a b d ((p : Int) - q)) p) (hs : Snake a b p q t)
    (ht : ¬ Matches a b (p + t) (q + t)) :
    IsGreatest (Reached a b d ((p : Int) - q)) ((p + t : Nat) : Int) := by
  constructor
  · obtain ⟨p', q', hp, hk, h⟩ := he.1
    obtain rfl : p' = p := by omega
    obtain rfl : q' = q := by omega
    exact ⟨p' + t, q' + t, rfl, by push_cast; omega, h.reaches.snake hs⟩
  · rintro x ⟨p', q', rfl, hk, h⟩
    obtain ⟨p₀, q₀, s, -, hle, hs', rfl, rfl⟩ := exists_snake_of_reached h (hk ▸ he.2)
    by_contra hlt
    have hm := hs' (p + t - p₀) (by omega)
    rw [show p₀ + (p + t - p₀) = p + t by omega, show q₀ + (p + t - p₀) = q + t by omega] at hm
    exact ht hm

/-- The greatest reached place lies on the snake from the greatest entered one. -/
theorem exists_snake_of_isGreatest {x : Int} (he : IsGreatest (Entered a b d ((p : Int) - q)) x)
    (h : Reaches a b d p q) (hr : IsGreatest (Reached a b d ((p : Int) - q)) p) :
    ∃ p₀ q₀ t : Nat, (p₀ : Int) = x ∧ Snake a b p₀ q₀ t ∧ p = p₀ + t ∧ q = q₀ + t := by
  obtain ⟨p₁, q₁, s, h₁, hle, hs, hp, hq⟩ := exists_snake_of_reached h he.2
  have hx := hr.2 (entered_subset_reached a b d _ he.1)
  refine ⟨x.toNat, q₁ + (x.toNat - p₁), p - x.toNat, by omega, fun i hi => ?_, by omega, by omega⟩
  have := hs (x.toNat - p₁ + i) (by omega)
  rwa [show p₁ + (x.toNat - p₁ + i) = x.toNat + i by omega,
    show q₁ + (x.toNat - p₁ + i) = q₁ + (x.toNat - p₁) + i by omega] at this

/-! ## Ways and scripts -/

theorem take_succ_eq {text : Array Char} {i : Nat} {c : Char} (h : text[i]? = some c) :
    text.toList.take (i + 1) = text.toList.take i ++ [c] := by
  rw [← Array.getElem?_toList] at h
  rw [List.take_add_one, h, Option.toList_some]

theorem Rewrites.remove {c : Char} (h : Rewrites edits (a.toList.take p) (b.toList.take q)) (hc : a[p]? = some c) :
    Rewrites (edits ++ [(.removed, c)]) (a.toList.take (p + 1)) (b.toList.take q) := by
  rw [take_succ_eq hc]
  simpa [mark] using h.append (rewrites_mark_removed [c])

theorem Rewrites.add {c : Char} (h : Rewrites edits (a.toList.take p) (b.toList.take q)) (hc : b[q]? = some c) :
    Rewrites (edits ++ [(.added, c)]) (a.toList.take p) (b.toList.take (q + 1)) := by
  rw [take_succ_eq hc]
  simpa [mark] using h.append (rewrites_mark_added [c])

theorem Rewrites.keep {c : Char} (h : Rewrites edits (a.toList.take p) (b.toList.take q)) (ha : a[p]? = some c)
    (hb : b[q]? = some c) :
    Rewrites (edits ++ [(.unchanged, c)]) (a.toList.take (p + 1)) (b.toList.take (q + 1)) := by
  rw [take_succ_eq ha, take_succ_eq hb]
  exact h.append (rewrites_mark_unchanged [c])

/-- A way to a point of the grid is a script for the texts up to there. -/
theorem Reaches.exists_rewrites (h : Reaches a b d p q) (hp : p ≤ a.size) (hq : q ≤ b.size) :
    ∃ edits, Rewrites edits (a.toList.take p) (b.toList.take q) ∧ cost edits = d := by
  induction h with
  | start => exact ⟨[], ⟨rfl, rfl⟩, rfl⟩
  | right _ ih =>
    obtain ⟨edits, h, rfl⟩ := ih (by omega) hq
    exact ⟨_, h.remove (Array.getElem?_eq_getElem hp), cost_append edits _⟩
  | down _ ih =>
    obtain ⟨edits, h, rfl⟩ := ih hp (by omega)
    exact ⟨_, h.add (Array.getElem?_eq_getElem hq), cost_append edits _⟩
  | diagonal _ hm ih =>
    obtain ⟨edits, h, rfl⟩ := ih (by omega) (by omega)
    obtain ⟨c, ha, hb⟩ := hm
    exact ⟨_, h.keep ha hb, cost_append edits _⟩

theorem drop_eq_cons {text : Array Char} {i : Nat} {c : Char} {rest : List Char} (h : text.toList.drop i = c :: rest) :
    text[i]? = some c ∧ text.toList.drop (i + 1) = rest := by
  rw [← Array.getElem?_toList, ← List.head?_drop, ← List.tail_drop, h]
  exact ⟨rfl, rfl⟩

/-- A script for what is left of the texts behind a point leads on to the far corner. -/
theorem Reaches.follow (hr : Reaches a b d p q) (hp : p ≤ a.size) (hq : q ≤ b.size)
    (h : Rewrites edits (a.toList.drop p) (b.toList.drop q)) : Reaches a b (d + cost edits) a.size b.size := by
  induction edits generalizing d p q with
  | nil =>
    obtain ⟨ha, hb⟩ := h
    have ha : a.toList.length ≤ p := List.drop_eq_nil_iff.mp ha.symm
    have hb : b.toList.length ≤ q := List.drop_eq_nil_iff.mp hb.symm
    rw [Array.length_toList] at ha hb
    obtain rfl : p = a.size := by omega
    obtain rfl : q = b.size := by omega
    exact hr
  | cons edit edits ih =>
    obtain ⟨kind, c⟩ := edit
    obtain ⟨ha, hb⟩ := h
    rw [charsWithout_cons] at ha hb
    cases kind with
    | unchanged =>
      obtain ⟨ha, ha'⟩ := drop_eq_cons ha.symm
      obtain ⟨hb, hb'⟩ := drop_eq_cons hb.symm
      have hm : Matches a b p q := ⟨c, ha, hb⟩
      exact ih (hr.diagonal hm) hm.lt.1 hm.lt.2 ⟨ha'.symm, hb'.symm⟩
    | added =>
      obtain ⟨hb, hb'⟩ := drop_eq_cons hb.symm
      have := ih hr.down hp (Array.getElem?_eq_some_iff.mp hb).1 ⟨ha, hb'.symm⟩
      rwa [Nat.add_right_comm] at this
    | removed =>
      obtain ⟨ha, ha'⟩ := drop_eq_cons ha.symm
      have := ih hr.right (Array.getElem?_eq_some_iff.mp ha).1 hq ⟨ha'.symm, hb⟩
      rwa [Nat.add_right_comm] at this

/-- As many steps as the distance lead to the far corner. -/
theorem reaches_distance (a b : Array Char) : Reaches a b (distance a.toList b.toList) a.size b.size := by
  obtain ⟨edits, h, hc⟩ := exists_rewrites_cost a.toList b.toList
  rw [← hc, ← Nat.zero_add (cost edits)]
  exact Reaches.start.follow (Nat.zero_le _) (Nat.zero_le _) h

/-- Fewer steps than the distance do not lead to the far corner. -/
theorem Reaches.distance_le (h : Reaches a b d a.size b.size) : distance a.toList b.toList ≤ d := by
  obtain ⟨edits, h, hc⟩ := h.exists_rewrites (Nat.le_refl _) (Nat.le_refl _)
  rw [List.take_of_length_le (by simp), List.take_of_length_le (by simp)] at h
  exact hc ▸ h.distance_le

end GoldenBench.Diff
