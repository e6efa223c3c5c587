import GoldenBench.Diff.Basic

/-!
# The search for a shortest edit script

The characters of two texts span a grid. A step right removes a character of the first text, a step down adds one
of the second, and a diagonal step keeps a character that both have. Diagonal `k` holds the points with
`x - y = k`. After step `d` the vector `Furthest` holds, for every diagonal that `d` unit steps reach, the
greatest `x` reached on it; the search ends when a point at or beyond the far corner is found, and the saved
vectors then lead the way back.

Every access is checked: an index outside a text or a vector is a `Fault`, never a made-up value.

* `search` looks for the corner with a limited number of unit steps, `backtrack` turns the saved vectors into a
  script, and `script` puts the two together.
-/

namespace GoldenBench.Diff

/-- An access out of range. -/
inductive Fault where
  /-- No cell is kept for a diagonal. -/
  | diagonal (k : Int)
  /-- A text has no character at a place. -/
  | character (index : Int)
  deriving DecidableEq

/-- The character of a text at a place. -/
def charAt (text : Array Char) (index : Int) : Except Fault Char :=
  if h : 0 ≤ index ∧ index.toNat < text.size then .ok text[index.toNat] else .error (.character index)

/-- The furthest `x` reached on each diagonal from `-reach` to `reach`, and one cell more on the right. -/
structure Furthest where
  /-- The number of diagonals on either side of the middle one. -/
  reach : Nat
  /-- The cell of diagonal `k` has the index `k + reach`. -/
  cells : Array Int

namespace Furthest

/-- No diagonal was visited. -/
def start (reach : Nat) : Furthest :=
  ⟨reach, Array.replicate (2 * reach + 2) 0⟩

/-- The cell of a diagonal. -/
def get (v : Furthest) (k : Int) : Except Fault Int :=
  if h : 0 ≤ k + v.reach ∧ (k + v.reach).toNat < v.cells.size then .ok v.cells[(k + v.reach).toNat]
  else .error (.diagonal k)

/-- Changes the cell of a diagonal. -/
def set (v : Furthest) (k x : Int) : Except Fault Furthest :=
  if h : 0 ≤ k + v.reach ∧ (k + v.reach).toNat < v.cells.size then
    .ok ⟨v.reach, v.cells.set (k + v.reach).toNat x h.2⟩
  else .error (.diagonal k)

/-- The cells of the diagonals from `-d` to `d`. -/
def row (v : Furthest) (d : Nat) : Except Fault (Array Int) :=
  if d ≤ v.reach ∧ v.reach + d + 1 ≤ v.cells.size then
    .ok (v.cells.extract (v.reach - d) (v.reach + d + 1))
  else .error (.diagonal d)

end Furthest

/-- The cell of a diagonal in the saved cells of the diagonals from `-d` to `d`. -/
def rowGet (row : Array Int) (d : Nat) (k : Int) : Except Fault Int :=
  if h : 0 ≤ k + d ∧ (k + d).toNat < row.size then .ok row[(k + d).toNat] else .error (.diagonal k)

/-- Follows equal characters from a point as far as they go. -/
def slide (a b : Array Char) (x y : Int) : Except Fault Int :=
  if x < a.size ∧ y < b.size then
    match charAt a x, charAt b y with
    | .ok c, .ok e => if c = e then slide a b (x + 1) (y + 1) else .ok x
    | .error fault, _ => .error fault
    | _, .error fault => .error fault
  else .ok x
termination_by (a.size - x).toNat

/-- Step `d` arrives on diagonal `k` by going down: from the only neighbour that it has, or from the one that
reached further. -/
def comesDown (get : Int → Except Fault Int) (d : Nat) (k : Int) : Except Fault Bool :=
  if k = -d then .ok true
  else if k = d then .ok false
  else do
    let left ← get (k - 1)
    let right ← get (k + 1)
    return decide (left < right)

/-- Visits `count` diagonals of step `d`, from `k` on and every other one. Says whether the far corner was
reached. -/
def sweep (a b : Array Char) (d count : Nat) (k : Int) (v : Furthest) : Except Fault (Bool × Furthest) :=
  match count with
  | 0 => .ok (false, v)
  | count + 1 => do
    let down ← comesDown v.get d k
    let x ← if down then v.get (k + 1) else (· + 1) <$> v.get (k - 1)
    let x ← slide a b x (x - k)
    let v ← v.set k x
    if a.size ≤ x ∧ b.size ≤ x - k then return (true, v) else sweep a b d count (k + 2) v

/-- Makes up to `steps` steps from step `d` on. When the far corner is reached, the answer is the saved cells of
the steps before, the latest first. -/
def search (a b : Array Char) (steps d : Nat) (v : Furthest) (history : List (Array Int)) :
    Except Fault (Option (List (Array Int))) :=
  match steps with
  | 0 => .ok none
  | steps + 1 => do
    let (reached, v) ← sweep a b d (d + 1) (-d) v
    if reached then return some history
    else
      let row ← v.row d
      search a b steps (d + 1) v (row :: history)

/-- A way back through the grid: where it has come to and the edits from there on. -/
structure Way where
  /-- The place in the first text. -/
  x : Int
  /-- The place in the second text. -/
  y : Int
  /-- The edits from this point to the far corner. -/
  edits : List Edit

/-- Goes back over equal characters while both coordinates exceed those of a point. -/
def retreat (a : Array Char) (toX toY : Int) (way : Way) : Except Fault Way :=
  if toX < way.x ∧ toY < way.y then
    match charAt a (way.x - 1) with
    | .ok c => retreat a toX toY ⟨way.x - 1, way.y - 1, (.unchanged, c) :: way.edits⟩
    | .error fault => .error fault
  else .ok way
termination_by (way.x - toX).toNat

/-- Goes back one step after another along the saved cells, and then over equal characters to the corner. -/
def backtrack (a b : Array Char) (history : List (Array Int)) (way : Way) : Except Fault Way :=
  match history with
  | [] => retreat a 0 0 way
  | row :: history => do
    let d := history.length + 1
    let k := way.x - way.y
    let down ← comesDown (rowGet row history.length) d k
    let fromK := if down then k + 1 else k - 1
    let fromX ← rowGet row history.length fromK
    let fromY := fromX - fromK
    if down then
      let way ← retreat a fromX (fromY + 1) way
      let c ← charAt b fromY
      backtrack a b history ⟨fromX, fromY, (.added, c) :: way.edits⟩
    else
      let way ← retreat a (fromX + 1) fromY way
      let c ← charAt a fromX
      backtrack a b history ⟨fromX, fromY, (.removed, c) :: way.edits⟩

/-- The most unit steps that are tried. -/
def editLimit : Nat := 1000

/-- A shortest script from one text to another, unless it needs more edits than the limit. -/
def script (a b : Array Char) : Except Fault (Option (List Edit)) := do
  let reach := a.size + b.size
  match ← search a b (min reach editLimit + 1) 0 (.start reach) [] with
  | none => return none
  | some history =>
    let way ← backtrack a b history ⟨a.size, b.size, []⟩
    return some way.edits

end GoldenBench.Diff
