import GoldenBench.Proofs.Diff.Backtrack

/-!
# Every access of the search is in range

`Watched` is a computation with its accesses to texts and cells written down (`Access`). The search is written once more
in this form: it comes to the same, and there is no fault just if all its accesses are in range (`Watches`). Since
`script` never ends with a fault, they all are.

* `Watches.bind`: how watched computations are put together.
* `watches_search`: what the way out accesses are the cells of the whole grid, and the rows that it saves are full.
* `watches_backtrack`: what the way back looks for in a row are diagonals that the step of the row leads to.
* `script_confined`: no index is ever out of range, and the way back ends in the corner (`Confined`).
-/

namespace GoldenBench.Diff

variable {α β : Type} {a b : Array Char} {d : Nat} {k x : Int} {v : Furthest} {row : Array Int}
  {history : List (Array Int)}

/-- An access to a text or to cells. -/
inductive Access where
  /-- A character of the first text is read. -/
  | first (index : Int)
  /-- A character of the second text is read. -/
  | second (index : Int)
  /-- The cell of a diagonal is read or changed. -/
  | cell (v : Furthest) (k : Int)
  /-- The cells of the diagonals from `-d` to `d` are saved. -/
  | row (v : Furthest) (d : Nat)
  /-- The cell of a diagonal is read, among the cells that were saved in a step. -/
  | saved (cells : Array Int) (d : Nat) (k : Int)

/-- The indices of an access are not negative, and not too great. -/
def Access.InRange (a b : Array Char) : Access → Prop
  | .first i => 0 ≤ i ∧ i < a.size
  | .second i => 0 ≤ i ∧ i < b.size
  | .cell v k => 0 ≤ k + v.reach ∧ k + v.reach < v.cells.size
  | .row v d => 0 ≤ -(d : Int) + v.reach ∧ (d : Int) + v.reach < v.cells.size
  | .saved cells d k => 0 ≤ k + d ∧ k + d < cells.size

/-- A computation together with the accesses that it makes. -/
structure Watched (α : Type) where
  /-- The accesses, in order. The one that ends the computation with a fault is the last. -/
  accesses : List Access
  /-- What the computation comes to. -/
  result : Except Fault α

/-!
## The search, watched

Each function does what the one of the same name does in `GoldenBench.Diff`, and every access is a `touch`.
-/

namespace Watched

instance : Monad Watched where
  pure x := ⟨[], .ok x⟩
  bind computation next :=
    match computation.result with
    | .ok x => ⟨computation.accesses ++ (next x).accesses, (next x).result⟩
    | .error fault => ⟨computation.accesses, .error fault⟩

/-- A single access, and what it comes to. -/
def touch (access : Access) (result : Except Fault α) : Watched α :=
  ⟨[access], result⟩

/-- The characters of both texts are read before they are compared. -/
def slide (a b : Array Char) (x y : Int) : Watched Int :=
  if x < a.size ∧ y < b.size then do
    let c ← touch (.first x) (charAt a x)
    let e ← touch (.second y) (charAt b y)
    if c = e then slide a b (x + 1) (y + 1) else return x
  else return x
termination_by (a.size - x).toNat

/-- The cells of both neighbours are read, unless there is only one. -/
def comesDown (get : Int → Watched Int) (d : Nat) (k : Int) : Watched Bool :=
  if k = -d then return true
  else if k = d then return false
  else do
    let left ← get (k - 1)
    let right ← get (k + 1)
    return decide (left < right)

/-- The cell of the neighbour that the step comes from is read once more. -/
def arrive (get : Int → Watched Int) (d : Nat) (k : Int) : Watched Int := do
  if ← comesDown get d k then get (k + 1) else (· + 1) <$> get (k - 1)

/-- The cell of the diagonal is changed in the end. -/
def visit (a b : Array Char) (d : Nat) (k : Int) (v : Furthest) : Watched (Int × Furthest) := do
  let x ← arrive (fun k => touch (.cell v k) (v.get k)) d k
  let x ← slide a b x (x - k)
  let v ← touch (.cell v k) (v.set k x)
  return (x, v)

/-- One visit after another. -/
def sweep (a b : Array Char) (d count : Nat) (k : Int) (v : Furthest) : Watched (Bool × Furthest) :=
  match count with
  | 0 => return (false, v)
  | count + 1 => do
    let (x, v) ← visit a b d k v
    if a.size ≤ x ∧ b.size ≤ x - k then return (true, v) else sweep a b d count (k + 2) v

/-- The cells of a step are saved after it, unless it came to the far corner. -/
def search (a b : Array Char) (steps d : Nat) (v : Furthest) (history : List (Array Int)) :
    Watched (Option (List (Array Int))) :=
  match steps with
  | 0 => return none
  | steps + 1 => do
    let (reached, v) ← sweep a b d (d + 1) (-d) v
    if reached then return some history
    else
      let row ← touch (.row v d) (v.row d)
      search a b steps (d + 1) v (row :: history)

/-- The characters are read in the first text only. -/
def retreat (a : Array Char) (toX toY : Int) (way : Way) : Watched Way :=
  if toX < way.x ∧ toY < way.y then do
    let c ← touch (.first (way.x - 1)) (charAt a (way.x - 1))
    retreat a toX toY ⟨way.x - 1, way.y - 1, (.unchanged, c) :: way.edits⟩
  else return way
termination_by (way.x - toX).toNat

/-- The cells of the step before are read, and then the character that was added or removed. -/
def backtrack (a b : Array Char) (history : List (Array Int)) (way : Way) : Watched Way :=
  match history with
  | [] => retreat a 0 0 way
  | row :: history => do
    let get k := touch (.saved row history.length k) (rowGet row history.length k)
    let d := history.length + 1
    let k := way.x - way.y
    let down ← comesDown get d k
    let fromK := if down then k + 1 else k - 1
    let fromX ← get fromK
    let fromY := fromX - fromK
    if down then
      let way ← retreat a fromX (fromY + 1) way
      let c ← touch (.second fromY) (charAt b fromY)
      backtrack a b history ⟨fromX, fromY, (.added, c) :: way.edits⟩
    else
      let way ← retreat a (fromX + 1) fromY way
      let c ← touch (.first fromX) (charAt a fromX)
      backtrack a b history ⟨fromX, fromY, (.removed, c) :: way.edits⟩

/-- The way out, and the way back. -/
def script (a b : Array Char) : Watched (Option (List Edit)) := do
  let reach := a.size + b.size
  match ← search a b (min reach editLimit + 1) 0 (.start reach) [] with
  | none => return none
  | some history =>
    let way ← backtrack a b history ⟨a.size, b.size, []⟩
    return some way.edits

end Watched

/-! ## Watching a computation -/

/-- There is a cell for every diagonal from `-reach` to `reach`, and one cell more. -/
structure Furthest.Spans (v : Furthest) (reach : Nat) : Prop where
  /-- The middle diagonal has as many on either side. -/
  reach_eq : v.reach = reach
  /-- This is the number of the cells. -/
  size_eq : v.cells.size = 2 * reach + 2

/-- Every saved row has a cell for each diagonal from one end of its step to the other; the latest row is the first. -/
def Full : List (Array Int) → Prop
  | [] => True
  | row :: rest => row.size = 2 * rest.length + 1 ∧ Full rest

/-- What is accessed has the cells that it should have, and no diagonal is looked for in a row whose step does not lead
to it. -/
def Access.Regular (a b : Array Char) : Access → Prop
  | .first _ | .second _ => True
  | .cell v _ | .row v _ => v.Spans (a.size + b.size)
  | .saved cells d k => cells.size = 2 * d + 1 ∧ Ready a b (rowGet cells d) (d + 1) ∧ (k - d) % 2 = 0

/-- A watched computation is another one, with its accesses written down. -/
structure Watches (a b : Array Char) (Q : α → Prop) (watched : Watched α) (plain : Except Fault α) : Prop where
  /-- They come to the same. -/
  result_eq : watched.result = plain
  /-- There is no fault just if all accesses are in range. -/
  ok_iff : (∃ x, plain = .ok x) ↔ ∀ access ∈ watched.accesses, access.InRange a b
  /-- What is accessed is what should be. -/
  regular : ∀ access ∈ watched.accesses, access.Regular a b
  /-- This is known of what they come to. -/
  post : ∀ x, plain = .ok x → Q x

section

variable {Q : α → Prop} {R : β → Prop} {watched : Watched α} {plain : Except Fault α}

theorem watches_pure {x : α} (h : Q x) : Watches a b Q (pure x) (pure x) where
  result_eq := rfl
  ok_iff := ⟨fun _ _ hmem => absurd hmem List.not_mem_nil, fun _ => ⟨x, rfl⟩⟩
  regular _ hmem := absurd hmem List.not_mem_nil
  post y hy := by
    cases hy
    exact h

theorem watches_touch {access : Access} (hok : (∃ x, plain = .ok x) ↔ access.InRange a b)
    (hregular : access.Regular a b) (hpost : ∀ x, plain = .ok x → Q x) :
    Watches a b Q (.touch access plain) plain where
  result_eq := rfl
  ok_iff := by simpa [Watched.touch] using hok
  regular := by simpa [Watched.touch] using hregular
  post := hpost

/-- One computation after another: the accesses of the second follow, unless the first ends with a fault. -/
theorem Watches.bind {next : α → Watched β} {next' : α → Except Fault β} (h : Watches a b Q watched plain)
    (hnext : ∀ x, plain = .ok x → Q x → Watches a b R (next x) (next' x)) :
    Watches a b R (watched >>= next) (plain >>= next') := by
  obtain ⟨accesses, result⟩ := watched
  obtain ⟨rfl, hok, hregular, hpost⟩ := h
  cases result with
  | error fault =>
    have none {γ : Type} : ¬ ∃ x : γ, (.error fault : Except Fault γ) = .ok x := fun ⟨x, hx⟩ => by cases hx
    exact ⟨rfl, (iff_false_left none).mpr ((iff_false_left none).mp hok), hregular, fun x hx => by cases hx⟩
  | ok x =>
    obtain ⟨hresult, hok', hregular', hpost'⟩ := hnext x rfl (hpost x rfl)
    have hin : ∀ access ∈ accesses, access.InRange a b := hok.mp ⟨x, rfl⟩
    exact ⟨hresult, hok'.trans (List.forall_mem_append.trans (and_iff_right hin)).symm,
      List.forall_mem_append.mpr ⟨hregular, hregular'⟩, hpost'⟩

theorem Watches.map (h : Watches a b Q watched plain) (f : α → β) (hf : ∀ x, Q x → R (f x)) :
    Watches a b R (f <$> watched) (f <$> plain) := by
  rw [show f <$> plain = plain >>= fun x => pure (f x) from (bind_pure_comp f plain).symm]
  exact h.bind fun x _ hx => watches_pure (hf x hx)

end

/-! ## Single accesses -/

theorem charAt_ok_iff (text : Array Char) (i : Int) : (∃ c, charAt text i = .ok c) ↔ 0 ≤ i ∧ i < text.size := by
  rw [charAt]
  split <;> simp <;> omega

theorem Furthest.get_ok_iff (v : Furthest) (k : Int) :
    (∃ x, v.get k = .ok x) ↔ 0 ≤ k + v.reach ∧ k + v.reach < v.cells.size := by
  rw [Furthest.get]
  split <;> simp <;> omega

theorem Furthest.set_ok_iff (v : Furthest) (k x : Int) :
    (∃ v', v.set k x = .ok v') ↔ 0 ≤ k + v.reach ∧ k + v.reach < v.cells.size := by
  rw [Furthest.set]
  split <;> simp <;> omega

theorem Furthest.row_ok_iff (v : Furthest) (d : Nat) :
    (∃ row, v.row d = .ok row) ↔ 0 ≤ -(d : Int) + v.reach ∧ (d : Int) + v.reach < v.cells.size := by
  rw [Furthest.row]
  split <;> simp <;> omega

theorem rowGet_ok_iff (row : Array Int) (d : Nat) (k : Int) :
    (∃ x, rowGet row d k = .ok x) ↔ 0 ≤ k + d ∧ k + d < row.size := by
  rw [rowGet]
  split <;> simp <;> omega

theorem Furthest.Spans.set {reach : Nat} {v' : Furthest} (h : v.Spans reach) (hset : v.set k x = .ok v') :
    v'.Spans reach := by
  rw [Furthest.set] at hset
  split at hset
  · cases hset
    exact ⟨h.reach_eq, by simpa using h.size_eq⟩
  · cases hset

theorem Furthest.size_row (h : v.row d = .ok row) : row.size = 2 * d + 1 := by
  rw [Furthest.row] at h
  split at h
  · cases h
    rw [Array.size_extract]
    omega
  · cases h

theorem watches_first (i : Int) : Watches a b (fun _ => True) (.touch (.first i) (charAt a i)) (charAt a i) :=
  watches_touch (charAt_ok_iff a i) trivial fun _ _ => trivial

theorem watches_second (i : Int) : Watches a b (fun _ => True) (.touch (.second i) (charAt b i)) (charAt b i) :=
  watches_touch (charAt_ok_iff b i) trivial fun _ _ => trivial

theorem watches_get (h : v.Spans (a.size + b.size)) (k : Int) :
    Watches a b (fun _ => True) (.touch (.cell v k) (v.get k)) (v.get k) :=
  watches_touch (v.get_ok_iff k) h fun _ _ => trivial

theorem watches_set (h : v.Spans (a.size + b.size)) (k x : Int) :
    Watches a b (Furthest.Spans · (a.size + b.size)) (.touch (.cell v k) (v.set k x)) (v.set k x) :=
  watches_touch (v.set_ok_iff k x) h fun _ hset => h.set hset

theorem watches_row (h : v.Spans (a.size + b.size)) (d : Nat) :
    Watches a b (·.size = 2 * d + 1) (.touch (.row v d) (v.row d)) (v.row d) :=
  watches_touch (v.row_ok_iff d) h fun _ hrow => Furthest.size_row hrow

/-! ## The way out -/

theorem slide_eq (a b : Array Char) (x y : Int) :
    slide a b x y = if x < a.size ∧ y < b.size then (do
      let c ← charAt a x
      let e ← charAt b y
      if c = e then slide a b (x + 1) (y + 1) else return x) else return x := by
  rw [slide]
  split
  · cases charAt a x <;> cases charAt b y <;> rfl
  · rfl

theorem watches_slide (a b : Array Char) (x y : Int) :
    Watches a b (fun _ => True) (Watched.slide a b x y) (slide a b x y) := by
  induction x, y using Watched.slide.induct a b with
  | case1 x y h ih =>
    rw [Watched.slide, slide_eq, if_pos h, if_pos h]
    refine (watches_first x).bind fun c _ _ => (watches_second y).bind fun e _ _ => ?_
    split
    · exact ih
    · exact watches_pure trivial
  | case2 x y h =>
    rw [Watched.slide, slide_eq, if_neg h, if_neg h]
    exact watches_pure trivial

section

variable {watched : Int → Watched Int} {get : Int → Except Fault Int}

/-- Only the two neighbours of a diagonal are looked at. -/
theorem watches_comesDown (hleft : Watches a b (fun _ => True) (watched (k - 1)) (get (k - 1)))
    (hright : Watches a b (fun _ => True) (watched (k + 1)) (get (k + 1))) :
    Watches a b (fun _ => True) (Watched.comesDown watched d k) (comesDown get d k) := by
  rw [Watched.comesDown, comesDown]
  split
  · exact watches_pure trivial
  split
  · exact watches_pure trivial
  · exact hleft.bind fun left _ _ => hright.bind fun right _ _ => watches_pure trivial

theorem watches_arrive (hleft : Watches a b (fun _ => True) (watched (k - 1)) (get (k - 1)))
    (hright : Watches a b (fun _ => True) (watched (k + 1)) (get (k + 1))) :
    Watches a b (fun _ => True) (Watched.arrive watched d k) (arrive get d k) := by
  refine (watches_comesDown hleft hright).bind fun down _ _ => ?_
  split
  · exact hright
  · exact hleft.map _ fun _ _ => trivial

end

theorem watches_visit (h : v.Spans (a.size + b.size)) :
    Watches a b (·.2.Spans (a.size + b.size)) (Watched.visit a b d k v) (visit a b d k v) := by
  refine (watches_arrive (watches_get h _) (watches_get h _)).bind fun x _ _ => ?_
  refine (watches_slide a b x (x - k)).bind fun x _ _ => ?_
  exact (watches_set h k x).bind fun v' _ h' => watches_pure h'

/-- A step accesses the cells of the grid's diagonals, and leaves as many. -/
theorem watches_sweep {count : Nat} (h : v.Spans (a.size + b.size)) :
    Watches a b (·.2.Spans (a.size + b.size)) (Watched.sweep a b d count k v) (sweep a b d count k v) := by
  induction count generalizing k v with
  | zero => exact watches_pure h
  | succ count ih =>
    rw [Watched.sweep, sweep_succ]
    refine (watches_visit h).bind fun out _ h' => ?_
    obtain ⟨x, v'⟩ := out
    dsimp only
    split
    · exact watches_pure h'
    · exact ih h'

/-- All steps do, and the rows that they save are full. -/
theorem watches_search {steps : Nat} (h : v.Spans (a.size + b.size)) (hlength : history.length = d)
    (hfull : Full history) :
    Watches a b (fun found => ∀ rows ∈ found, Full rows) (Watched.search a b steps d v history)
      (search a b steps d v history) := by
  induction steps generalizing d v history with
  | zero => exact watches_pure fun _ hmem => by cases hmem
  | succ steps ih =>
    rw [Watched.search, search]
    refine (watches_sweep h).bind fun out _ h' => ?_
    obtain ⟨reached, v'⟩ := out
    dsimp only
    split
    · refine watches_pure fun rows hmem => ?_
      cases hmem
      exact hfull
    · refine (watches_row h' d).bind fun row _ hsize => ih h' ?_ ⟨?_, hfull⟩
      · rw [List.length_cons, hlength]
      · rw [hsize, hlength]

/-! ## The way back -/

theorem retreat_eq (a : Array Char) (toX toY : Int) (way : Way) :
    retreat a toX toY way = if toX < way.x ∧ toY < way.y then (do
      let c ← charAt a (way.x - 1)
      retreat a toX toY ⟨way.x - 1, way.y - 1, (.unchanged, c) :: way.edits⟩) else return way := by
  rw [retreat]
  split
  · cases charAt a (way.x - 1) <;> rfl
  · rfl

theorem watches_retreat (toX toY : Int) (way : Way) :
    Watches a b (fun _ => True) (Watched.retreat a toX toY way) (retreat a toX toY way) := by
  induction way using Watched.retreat.induct toX toY with
  | case1 way h ih =>
    rw [Watched.retreat, retreat_eq, if_pos h, if_pos h]
    exact (watches_first _).bind fun c _ _ => ih c
  | case2 way h =>
    rw [Watched.retreat, retreat_eq, if_neg h, if_neg h]
    exact watches_pure trivial

/-- The way back looks only for diagonals that the step of a row leads to: each row is one step further back, on a
neighbouring diagonal. -/
theorem watches_backtrack {way : Way} (rows : Rows a b history) (full : Full history)
    (hparity : (way.x - way.y - history.length) % 2 = 0) :
    Watches a b (fun _ => True) (Watched.backtrack a b history way) (backtrack a b history way) := by
  induction history generalizing way with
  | nil => exact watches_retreat 0 0 way
  | cons row history ih =>
    obtain ⟨ready, rows⟩ := rows
    obtain ⟨hsize, full⟩ := full
    rw [List.length_cons] at hparity
    have hget (k : Int) (hk : (k - history.length) % 2 = 0) :
        Watches a b (fun _ => True) (.touch (.saved row history.length k) (rowGet row history.length k))
          (rowGet row history.length k) :=
      watches_touch (rowGet_ok_iff row _ k) ⟨hsize, ready, hk⟩ fun _ _ => trivial
    rw [Watched.backtrack, backtrack]
    refine (watches_comesDown (hget _ (by omega)) (hget _ (by omega))).bind fun down _ _ => ?_
    refine (hget _ (by split <;> omega)).bind fun fromX _ _ => ?_
    -- the way goes on from the diagonal that was looked for in the row, whose parity is right
    split
    · refine (watches_retreat _ _ way).bind fun later _ _ => (watches_second _).bind fun c _ _ => ?_
      exact ih rows full (by simp only; omega)
    · refine (watches_retreat _ _ way).bind fun later _ _ => (watches_first _).bind fun c _ _ => ?_
      exact ih rows full (by simp only; omega)

/-! ## The whole search -/

/-- When the search has found the far corner, there is a row for each step before the first that leads there. -/
theorem search_found
    (h : search a b (min (a.size + b.size) editLimit + 1) 0 (.start (a.size + b.size)) [] = .ok (some history)) :
    Rows a b history ∧ IsLeast {e | Reaches a b e a.size b.size} history.length := by
  obtain ⟨hnone, -⟩ | ⟨found, hfound, rows, -, hleast⟩ := search_start_spec a b
  · rw [h] at hnone
    cases hnone
  · rw [h] at hfound
    cases hfound
    exact ⟨rows, hleast⟩

theorem watches_script (a b : Array Char) : Watches a b (fun _ => True) (Watched.script a b) (script a b) := by
  rw [Watched.script, script]
  have hspans : (Furthest.start (a.size + b.size)).Spans (a.size + b.size) := ⟨rfl, by simp [Furthest.start]⟩
  refine (watches_search hspans rfl (show Full [] from trivial)).bind fun found hfound hfull => ?_
  cases found with
  | none => exact watches_pure trivial
  | some history =>
    obtain ⟨rows, hleast⟩ := search_found hfound
    refine (watches_backtrack rows (hfull history rfl) ?_).bind fun way _ _ => watches_pure trivial
    exact hleast.1.onStep.parity

/-- No access of the search for a script from one text to another is out of range. -/
structure Confined (a b : Array Char) : Prop where
  /-- What is watched is the search. -/
  result_eq : (Watched.script a b).result = script a b
  /-- It ends without a fault. -/
  ends : ∃ outcome, script a b = .ok outcome
  /-- A character that is read is one of the first text, -/
  first : ∀ i : Int, .first i ∈ (Watched.script a b).accesses → 0 ≤ i ∧ i < a.size
  /-- or one of the second. -/
  second : ∀ i : Int, .second i ∈ (Watched.script a b).accesses → 0 ≤ i ∧ i < b.size
  /-- There are always as many cells, and the cell of a diagonal is one of them. -/
  cell : ∀ (v : Furthest) (k : Int), .cell v k ∈ (Watched.script a b).accesses →
    v.reach = a.size + b.size ∧ v.cells.size = 2 * (a.size + b.size) + 2 ∧
      0 ≤ k + v.reach ∧ k + v.reach < v.cells.size
  /-- The cells that are saved are among them, from the first to the last. -/
  row : ∀ (v : Furthest) (d : Nat), .row v d ∈ (Watched.script a b).accesses →
    v.reach = a.size + b.size ∧ v.cells.size = 2 * (a.size + b.size) + 2 ∧
      0 ≤ -(d : Int) + v.reach ∧ (d : Int) + v.reach < v.cells.size
  /-- A saved cell that is read is that of a diagonal that the step leads to, and it holds the greatest place there. -/
  saved : ∀ (cells : Array Int) (d : Nat) (k : Int), .saved cells d k ∈ (Watched.script a b).accesses →
    cells.size = 2 * d + 1 ∧ OnStep d k ∧ ∃ x, rowGet cells d k = .ok x ∧ IsGreatest (Reached a b d k) x
  /-- If the far corner is found, there is a row for each step before, and the way back ends in the corner. -/
  corner : ∀ history,
    search a b (min (a.size + b.size) editLimit + 1) 0 (.start (a.size + b.size)) [] = .ok (some history) →
      IsLeast {e | Reaches a b e a.size b.size} history.length ∧
        ∃ edits, backtrack a b history ⟨a.size, b.size, []⟩ = .ok ⟨0, 0, edits⟩

/-- Whatever the texts, no access of the search and of the way back is out of range, and the way back comes to the
corner. -/
theorem script_confined (a b : Array Char) : Confined a b := by
  obtain ⟨hresult, hok, hregular, -⟩ := watches_script a b
  have hends : ∃ outcome, script a b = .ok outcome := by
    obtain ⟨-, edits, hscript, -⟩ | ⟨-, hscript⟩ := script_spec a b
    · exact ⟨_, hscript⟩
    · exact ⟨_, hscript⟩
  have hin := hok.mp hends
  refine ⟨hresult, hends, fun i hmem => hin _ hmem, fun i hmem => hin _ hmem, fun v k hmem => ?_, fun v d hmem => ?_,
    fun cells d k hmem => ?_, fun history hfound => ?_⟩
  · obtain ⟨hreach, hsize⟩ := hregular _ hmem
    exact ⟨hreach, hsize, hin _ hmem⟩
  · obtain ⟨hreach, hsize⟩ := hregular _ hmem
    exact ⟨hreach, hsize, hin _ hmem⟩
  · obtain ⟨hsize, ready, hparity⟩ := hregular _ hmem
    obtain ⟨hleft, hright⟩ := hin _ hmem
    have hk : OnStep d k := ⟨by omega, by omega, hparity⟩
    exact ⟨hsize, hk, ready k hk⟩
  · obtain ⟨rows, hleast⟩ := search_found hfound
    obtain ⟨edits, hback, -⟩ := backtrack_corner rows hleast
    exact ⟨hleast, edits, hback⟩

-- a character that both texts have is read in both on the way out, and in the first again on the way back
example : (Watched.script #['a'] #['a']).accesses =
    [.cell (.start 2) 1, .first 0, .second 0, .cell (.start 2) 0, .first 0] := by
  cbv

end GoldenBench.Diff
