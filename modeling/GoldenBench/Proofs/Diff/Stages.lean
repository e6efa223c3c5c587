import GoldenBench.Proofs.Diff.Backtrack

/-!
# The search stage by stage

A search visits one diagonal after another, and saves the cells of a step when it has visited all diagonals of it. Where
it stands is a `Stage`, and `Occurs` says which stages it goes through.

* `Occurs.rest_eq`: what is left to do at a stage comes to what the whole search comes to.
* `Occurs.sound`: what holds at every stage (`Stage.Sound`). It is shown of the first stage, of a visit and of the step
  from one row to the next.
* `Occurs.completes_or_ends`: every step that begins is completed, unless the search ends in it.
* `search_furthest`: what the cells hold after each step, and where the search ends (`FurthestReaching`).
-/

namespace GoldenBench.Diff

variable {a b : Array Char} {d e : Nat} {k x : Int} {v : Furthest} {row : Array Int} {history : List (Array Int)}

/-- The last step that a search tries. -/
def lastStep (a b : Array Char) : Nat :=
  min (a.size + b.size) editLimit

/-- Where a search stands. -/
structure Stage where
  /-- The step. -/
  step : Nat
  /-- The diagonal that is visited next, if it is one of the step. -/
  diagonal : Int
  /-- The cells. -/
  cells : Furthest
  /-- The saved cells of the steps before, the latest first. -/
  history : List (Array Int)

namespace Stage

variable {stage : Stage}

/-- The stage in which a search begins. -/
def start (a b : Array Char) : Stage :=
  ⟨0, 0, .start (a.size + b.size), []⟩

/-- The stage before the next diagonal of the step. -/
def onward (stage : Stage) (v : Furthest) : Stage :=
  { stage with diagonal := stage.diagonal + 2, cells := v }

/-- The stage before the first diagonal of the next step. -/
def advance (stage : Stage) (row : Array Int) : Stage :=
  ⟨stage.step + 1, -(stage.step + 1 : Nat), stage.cells, row :: stage.history⟩

/-- All diagonals of the step were visited. -/
def Completed (stage : Stage) : Prop :=
  (stage.step : Int) < stage.diagonal

/-- A visit of the next diagonal comes to a place, and leaves cells. -/
structure Visits (a b : Array Char) (stage : Stage) (x : Int) (v : Furthest) : Prop where
  /-- There is a diagonal to visit. -/
  left : stage.diagonal ≤ stage.step
  /-- This is what comes of the visit. -/
  visit_eq : visit a b stage.step stage.diagonal stage.cells = .ok (x, v)

/-- A place on the next diagonal is at or beyond the far corner, as far as the search tests it. -/
def Passes (a b : Array Char) (stage : Stage) (x : Int) : Prop :=
  a.size ≤ x ∧ b.size ≤ x - stage.diagonal

instance (a b : Array Char) (stage : Stage) (x : Int) : Decidable (stage.Passes a b x) :=
  inferInstanceAs (Decidable (_ ∧ _))

/-- The search ends with the visit of the next diagonal. -/
def Ends (a b : Array Char) (stage : Stage) : Prop :=
  ∃ x v, stage.Visits a b x v ∧ stage.Passes a b x

end Stage

/-- A search goes through a stage. -/
inductive Occurs (a b : Array Char) : Stage → Prop
  /-- It begins. -/
  | start : Occurs a b (.start a b)
  /-- A visit does not end it. -/
  | onward {stage : Stage} {x : Int} {v : Furthest} : Occurs a b stage → stage.Visits a b x v →
      ¬ stage.Passes a b x → Occurs a b (stage.onward v)
  /-- The cells of a step are saved, and there is another step to try. -/
  | advance {stage : Stage} {row : Array Int} : Occurs a b stage → stage.Completed →
      stage.cells.row stage.step = .ok row → stage.step < lastStep a b → Occurs a b (stage.advance row)

/-! ## What is left to do -/

namespace Stage

variable {stage : Stage}

/-- What is left to do at a stage: the other diagonals of the step, and then the other steps. -/
def rest (a b : Array Char) (stage : Stage) : Except Fault (Option (List (Array Int))) := do
  let (reached, v) ←
    sweep a b stage.step ((stage.step - stage.diagonal) / 2 + 1).toNat stage.diagonal stage.cells
  if reached then return some stage.history
  else
    let row ← v.row stage.step
    search a b (lastStep a b - stage.step) (stage.step + 1) v (row :: stage.history)

theorem rest_start (a b : Array Char) :
    (start a b).rest a b = search a b (lastStep a b + 1) 0 (.start (a.size + b.size)) [] := by
  simp [rest, start, search]

theorem Visits.sweep_eq (h : stage.Visits a b x v) :
    sweep a b stage.step ((stage.step - stage.diagonal) / 2 + 1).toNat stage.diagonal stage.cells =
      if stage.Passes a b x then .ok (true, v)
      else sweep a b stage.step ((stage.step - (stage.diagonal + 2)) / 2 + 1).toNat (stage.diagonal + 2) v := by
  have hleft := h.left
  have hcount : ((stage.step - stage.diagonal) / 2 + 1).toNat =
      ((stage.step - (stage.diagonal + 2)) / 2 + 1).toNat + 1 := by omega
  rw [hcount, sweep_succ, h.visit_eq]
  rfl

theorem Visits.rest_onward (h : stage.Visits a b x v) (hpasses : ¬ stage.Passes a b x) :
    (stage.onward v).rest a b = stage.rest a b := by
  rw [rest, rest, h.sweep_eq, if_neg hpasses]
  rfl

theorem Visits.rest_eq (h : stage.Visits a b x v) (hpasses : stage.Passes a b x) :
    stage.rest a b = .ok (some stage.history) := by
  rw [rest, h.sweep_eq, if_pos hpasses]
  rfl

theorem Completed.rest_eq (h : stage.Completed) (hrow : stage.cells.row stage.step = .ok row) :
    stage.rest a b =
      search a b (lastStep a b - stage.step) (stage.step + 1) stage.cells (row :: stage.history) := by
  rw [Completed] at h
  have hcount : ((stage.step - stage.diagonal) / 2 + 1).toNat = 0 := by omega
  rw [rest, hcount, sweep]
  simp only [bind, Except.bind, Bool.false_eq_true, ↓reduceIte, hrow]

theorem Completed.rest_advance (h : stage.Completed) (hrow : stage.cells.row stage.step = .ok row)
    (hlt : stage.step < lastStep a b) : (stage.advance row).rest a b = stage.rest a b := by
  have hsteps : lastStep a b - stage.step = lastStep a b - (stage.step + 1) + 1 := by omega
  have hcount : (((stage.step + 1 : Nat) - -((stage.step + 1 : Nat) : Int)) / 2 + 1).toNat = stage.step + 1 + 1 := by
    omega
  rw [h.rest_eq hrow, hsteps, search, rest, advance, hcount]

end Stage

variable {stage : Stage}

/-- What is left to do at a stage comes to what the whole search comes to. -/
theorem Occurs.rest_eq (h : Occurs a b stage) :
    stage.rest a b = search a b (lastStep a b + 1) 0 (.start (a.size + b.size)) [] := by
  induction h with
  | start => exact Stage.rest_start a b
  | onward _ hvisits hpasses ih => exact (hvisits.rest_onward hpasses).trans ih
  | advance _ hcompleted hrow hlt ih => exact (hcompleted.rest_advance hrow hlt).trans ih

/-! ## What holds at every stage -/

/-- What holds at a stage: the rows of the steps before are saved, the diagonals before the next one are known, and the
far corner was not reached. -/
structure Stage.Sound (a b : Array Char) (stage : Stage) : Prop where
  /-- The next diagonal is not too far to the left. -/
  left : -(stage.step : Int) ≤ stage.diagonal
  /-- It is not too far to the right. -/
  right : stage.diagonal ≤ stage.step + 2
  /-- Every other diagonal is none of the step. -/
  parity : (stage.diagonal - stage.step) % 2 = 0
  /-- The step is one of those that are tried. -/
  step_le : stage.step ≤ lastStep a b
  /-- There are cells for all diagonals of the grid. -/
  reach_eq : stage.cells.reach = a.size + b.size
  /-- The steps before were made. -/
  searched : Searched a b stage.step stage.cells stage.history
  /-- The diagonals before the next one were visited. -/
  swept : Swept a b stage.step stage.diagonal stage.cells

namespace Stage

theorem sound_start (a b : Array Char) : (start a b).Sound a b where
  left := le_refl _
  right := by simp [start]
  parity := rfl
  step_le := Nat.zero_le _
  reach_eq := rfl
  searched := searched_start a b _
  swept := (searched_start a b _).swept

theorem Sound.step_le_reach (h : stage.Sound a b) : stage.step ≤ stage.cells.reach := by
  rw [h.reach_eq]
  exact h.step_le.trans (Nat.min_le_left _ _)

/-- A visit comes to the greatest place reached on the diagonal. -/
theorem Sound.visits (h : stage.Sound a b) (hleft : stage.diagonal ≤ stage.step) :
    ∃ x v, stage.Visits a b x v ∧ IsGreatest (Reached a b stage.step stage.diagonal) x ∧
      (¬ stage.Passes a b x → (stage.onward v).Sound a b) := by
  obtain ⟨x, v, hvisit, hg, hreach, hswept⟩ := h.swept.visit ⟨h.left, hleft, h.parity⟩ h.step_le_reach
  refine ⟨x, v, ⟨hleft, hvisit⟩, hg, fun hpasses => ?_⟩
  have hswept := hswept hpasses
  have hl := h.left
  have hp := h.parity
  exact {
    left := by simp only [onward]; omega
    right := by simp only [onward]; omega
    parity := by simp only [onward]; omega
    step_le := h.step_le
    reach_eq := hreach.trans h.reach_eq
    searched := ⟨hswept.size, hswept.ready, h.searched.length, h.searched.rows, h.searched.short⟩
    swept := hswept }

theorem Sound.of_visits (h : stage.Sound a b) (hvisits : stage.Visits a b x v) :
    IsGreatest (Reached a b stage.step stage.diagonal) x ∧
      (¬ stage.Passes a b x → (stage.onward v).Sound a b) := by
  obtain ⟨x', v', hvisits', hsound⟩ := h.visits hvisits.left
  have hsame := hvisits.visit_eq.symm.trans hvisits'.visit_eq
  cases hsame
  exact hsound

theorem Sound.swept_completed (h : stage.Sound a b) (hcompleted : stage.Completed) :
    Swept a b stage.step (stage.step + 2) stage.cells := by
  have hdiagonal : stage.diagonal = stage.step + 2 := by
    have hr := h.right
    have hp := h.parity
    rw [Completed] at hcompleted
    omega
  exact hdiagonal ▸ h.swept

/-- A step that is completed has a row to save, and the next step begins with it. -/
theorem Sound.advances (h : stage.Sound a b) (hcompleted : stage.Completed) :
    ∃ row, stage.cells.row stage.step = .ok row ∧
      (stage.step < lastStep a b → (stage.advance row).Sound a b) := by
  obtain ⟨row, hrow, hnext⟩ := h.searched.next (h.swept_completed hcompleted) h.step_le_reach
  refine ⟨row, hrow, fun hlt => ?_⟩
  exact {
    left := le_refl _
    right := by simp only [advance]; omega
    parity := by simp only [advance]; omega
    step_le := hlt
    reach_eq := h.reach_eq
    searched := hnext
    swept := hnext.swept }

/-- After a step the cells of its diagonals hold the greatest places reached, and so does the row that is saved. -/
theorem Sound.furthest (h : stage.Sound a b) (hcompleted : stage.Completed) :
    ∃ row, stage.cells.row stage.step = .ok row ∧ ∀ k, OnStep stage.step k →
      ∃ x, stage.cells.get k = .ok x ∧ rowGet row stage.step k = .ok x ∧ IsGreatest (Reached a b stage.step k) x := by
  obtain ⟨row, hrow, hget⟩ := Furthest.row_spec h.searched.size h.step_le_reach
  refine ⟨row, hrow, fun k hk => ?_⟩
  obtain ⟨x, hx, hg⟩ := (h.swept_completed hcompleted).known k hk (by have := hk.right; omega)
  exact ⟨x, hx, (hget k hk.left hk.right).trans hx, hg⟩

/-- A step that is completed does not lead to the far corner. -/
theorem Sound.not_reaches (h : stage.Sound a b) (hcompleted : stage.Completed) :
    ¬ Reaches a b stage.step a.size b.size := fun hr =>
  (h.swept_completed hcompleted).short _ _ hr (by have := hr.onStep.right; omega) ⟨Nat.le_refl _, Nat.le_refl _⟩

/-- The first place that passes the test is the far corner itself, and no step before leads there. -/
theorem Sound.eq_corner (h : stage.Sound a b) (hvisits : stage.Visits a b x v) (hpasses : stage.Passes a b x) :
    x = a.size ∧ x - stage.diagonal = b.size ∧ IsLeast {e | Reaches a b e a.size b.size} stage.step := by
  obtain ⟨p, q, rfl, hpq, hr⟩ := (h.of_visits hvisits).1.1
  obtain ⟨hp, hq⟩ := hpasses
  obtain ⟨rfl, rfl⟩ := hr.eq_corner (by omega) (by omega) h.searched.short
  refine ⟨rfl, by omega, hr, fun e he => ?_⟩
  by_contra hlt
  exact h.searched.short e (by omega) he

end Stage

/-- The invariant of the search. -/
theorem Occurs.sound (h : Occurs a b stage) : stage.Sound a b := by
  induction h with
  | start => exact Stage.sound_start a b
  | onward _ hvisits hpasses ih => exact (ih.of_visits hvisits).2 hpasses
  | advance _ hcompleted hrow hlt ih =>
    obtain ⟨row, hrow', hsound⟩ := ih.advances hcompleted
    rw [hrow] at hrow'
    cases hrow'
    exact hsound hlt

/-! ## What a search comes to -/

/-- A step that begins is completed, unless the search ends in it. -/
theorem Occurs.completes_or_ends (h : Occurs a b stage) :
    ∃ later, Occurs a b later ∧ later.step = stage.step ∧ (later.Completed ∨ later.Ends a b) := by
  -- on the number of diagonals that are left
  induction hn : ((stage.step - stage.diagonal) / 2 + 1).toNat generalizing stage with
  | zero => exact ⟨stage, h, rfl, .inl (by rw [Stage.Completed]; omega)⟩
  | succ n ih =>
    obtain ⟨x, v, hvisits, -⟩ := h.sound.visits (by omega)
    by_cases hpasses : stage.Passes a b x
    · exact ⟨stage, h, rfl, .inr ⟨x, v, hvisits, hpasses⟩⟩
    · have hlater := ih (h.onward hvisits hpasses) (by simp only [Stage.onward]; omega)
      exact hlater

theorem Stage.Ends.isLeast (h : stage.Ends a b) (hoccurs : Occurs a b stage) :
    IsLeast {e | Reaches a b e a.size b.size} stage.step := by
  obtain ⟨x, v, hvisits, hpasses⟩ := h
  exact (hoccurs.sound.eq_corner hvisits hpasses).2.2

/-- Every step is made, up to the last one that is tried, if no step before leads to the far corner. -/
theorem exists_stage (hd : d ≤ lastStep a b) (short : ∀ e < d, ¬ Reaches a b e a.size b.size) :
    ∃ stage, Occurs a b stage ∧ stage.step = d ∧ (stage.Completed ∨ stage.Ends a b) := by
  induction d with
  | zero => exact Occurs.start.completes_or_ends
  | succ d ih =>
    obtain ⟨stage, hoccurs, rfl, hcompleted | hends⟩ := ih (by omega) fun e he => short e (by omega)
    · obtain ⟨row, hrow, -⟩ := hoccurs.sound.advances hcompleted
      exact (hoccurs.advance hcompleted hrow hd).completes_or_ends
    · exact absurd (hends.isLeast hoccurs).1 (short _ (Nat.lt_succ_self _))

/-- Saved rows know the greatest places of their steps. -/
theorem Rows.getElem? (h : Rows a b history) (he : e < history.length) :
    ∃ row, history.reverse[e]? = some row ∧ ∀ k, OnStep e k → Knows a b (rowGet row e) e k := by
  induction history with
  | nil => exact absurd he (Nat.not_lt_zero e)
  | cons row rest ih =>
    obtain ⟨hready, hrows⟩ := h
    rw [List.reverse_cons]
    rcases Nat.lt_succ_iff_lt_or_eq.mp he with hlt | rfl
    · obtain ⟨row', hrow', hknows⟩ := ih hrows hlt
      exact ⟨row', by rw [List.getElem?_append_left (by simpa using hlt), hrow'], hknows⟩
    · exact ⟨row, by rw [List.getElem?_append_right (by simp)]; simp, hready⟩

/-- The distance of two texts is the least number of steps that lead to the far corner. -/
theorem isLeast_distance (a b : Array Char) :
    IsLeast {e | Reaches a b e a.size b.size} (distance a.toList b.toList) :=
  ⟨reaches_distance a b, fun _ h => Reaches.distance_le h⟩

/-- What a search learns on its way to the far corner, to which it takes `d` steps at least. -/
structure FurthestReaching (a b : Array Char) (d : Nat) : Prop where
  /-- What is left to do at each stage comes to what the whole search comes to. -/
  rest_eq : ∀ stage, Occurs a b stage →
    stage.rest a b = search a b (lastStep a b + 1) 0 (.start (a.size + b.size)) []
  /-- Each step that does not lead to the far corner is completed, up to the limit. -/
  completes : ∀ e < d, e ≤ editLimit → ∃ stage, Occurs a b stage ∧ stage.step = e ∧ stage.Completed
  /-- When a step is completed, the cell of each of its diagonals holds the greatest place reached on the diagonal, and
  the row that is saved holds the same. -/
  furthest : ∀ stage, Occurs a b stage → stage.Completed →
    ∃ row, stage.cells.row stage.step = .ok row ∧ ∀ k, OnStep stage.step k →
      ∃ x, stage.cells.get k = .ok x ∧ rowGet row stage.step k = .ok x ∧ IsGreatest (Reached a b stage.step k) x
  /-- The rows of all steps before stay as they were saved. -/
  recorded : ∀ stage, Occurs a b stage → stage.history.length = stage.step ∧
    ∀ e < stage.step, ∃ row, stage.history.reverse[e]? = some row ∧ ∀ k, OnStep e k →
      ∃ x, rowGet row e k = .ok x ∧ IsGreatest (Reached a b e k) x
  /-- A place that passes the test is the far corner itself, and it is found in the first step that leads there. -/
  corner : ∀ stage x v, Occurs a b stage → stage.Visits a b x v → stage.Passes a b x →
    x = a.size ∧ x - stage.diagonal = b.size ∧ stage.step = d
  /-- Within the limit it is found, and there is a script. -/
  found : d ≤ editLimit → (∃ stage, Occurs a b stage ∧ stage.step = d ∧ stage.Ends a b ∧
      search a b (lastStep a b + 1) 0 (.start (a.size + b.size)) [] = .ok (some stage.history)) ∧
    ∃ edits, script a b = .ok (some edits)
  /-- Beyond the limit there is none. -/
  given_up : editLimit < d → script a b = .ok none

/-- After each step that a search completes, the cells hold the greatest places that exactly so many unit steps lead to.
The first place that passes the test for the end is the far corner, in the first step that leads there. -/
theorem search_furthest (a b : Array Char) :
    ∃ d, IsLeast {e | Reaches a b e a.size b.size} d ∧ FurthestReaching a b d := by
  have hleast := isLeast_distance a b
  have hshort : ∀ e < distance a.toList b.toList, ¬ Reaches a b e a.size b.size :=
    fun e he hr => Nat.not_lt.mpr (hleast.2 hr) he
  have hle : distance a.toList b.toList ≤ a.size + b.size := by
    simp only [distance, Array.length_toList]
    omega
  refine ⟨_, hleast, fun _ => Occurs.rest_eq, fun e he hlimit => ?_, fun _ h => h.sound.furthest, fun stage h => ?_,
    fun stage x v h hvisits hpasses => ?_, fun hlimit => ⟨?_, ?_⟩, fun hlimit => ?_⟩
  · obtain ⟨stage, hoccurs, rfl, hcompleted | hends⟩ :=
      exists_stage (le_min (he.le.trans hle) hlimit) fun e' he' => hshort e' (he'.trans he)
    · exact ⟨stage, hoccurs, rfl, hcompleted⟩
    · exact absurd (hends.isLeast hoccurs).1 (hshort _ he)
  · have hlength := h.sound.searched.length
    exact ⟨hlength, fun e he => h.sound.searched.rows.getElem? (hlength ▸ he)⟩
  · obtain ⟨hx, hy, hstep⟩ := h.sound.eq_corner hvisits hpasses
    exact ⟨hx, hy, hstep.unique hleast⟩
  · obtain ⟨stage, hoccurs, hstep, hcompleted | hends⟩ := exists_stage (le_min hle hlimit) hshort
    · exact absurd (hstep ▸ hleast.1) (hoccurs.sound.not_reaches hcompleted)
    · refine ⟨stage, hoccurs, hstep, hends, ?_⟩
      obtain ⟨x, v, hvisits, hpasses⟩ := hends
      rw [← hoccurs.rest_eq, hvisits.rest_eq hpasses]
  · obtain ⟨-, edits, hscript, -⟩ | ⟨hfar, -⟩ := script_spec a b
    · exact ⟨edits, hscript⟩
    · exact absurd hlimit (Nat.not_le.mpr hfar)
  · obtain ⟨hnear, -⟩ | ⟨-, hscript⟩ := script_spec a b
    · exact absurd hnear (Nat.not_le.mpr hlimit)
    · exact hscript

end GoldenBench.Diff
