import GoldenBench.Proofs.Run
import GoldenBench.Suite.Interop
import Mathlib.Data.List.Perm.Basic

/-!
# Loads settle in any order

A load comes to the same finding whenever it settles (`Pending.finding`), and its runner starts just if the load
resolves (`Pending.start?`).

* `settle_spec`: every load settles once, in some order.
* `exists_picks`: there are loads to settle in every order.
-/

namespace GoldenBench.Interop

variable (subject : Subject)

namespace Pending

variable (pending : Pending)

/-- What a load comes to: a runner is handed the instance of the binary that was loaded for it. -/
def outcome (loader : Loader) : Outcome :=
  match loader.load pending.binary with
  | .loaded live => pending.runner.outcome live
  | .rejected chain => .failure ("load rejected: " ++ chain.inline)
  | .panicked task message => interrupted task message

/-- The finding on a load. -/
def finding (loader : Loader) : Finding :=
  ⟨pending.fixture.name, pending.outcome loader, pending.notes⟩

/-- The start of the runner, if the load resolves. -/
def start? : Option Event :=
  match subject.loader.load pending.binary with
  | .loaded _ => some (.runnerStarted subject.name pending.fixture.id pending.fixture.name)
  | _ => none

end Pending

theorem finish_apply (pending : Pending) (world : World) :
    finish subject pending world =
      (pending.finding subject.loader, world.noted (pending.start? subject).toList) := by
  simp only [finish, Pending.finding, Pending.outcome, Pending.start?]
  cases subject.loader.load pending.binary with
  | loaded live => rfl
  | rejected chain => exact congrArg _ world.noted_nil.symm
  | panicked task message => exact congrArg _ world.noted_nil.symm

/-- The load that a pick stands for settles first. -/
theorem settle_cons (first : Pending) (others : List Pending) (world : World) :
    ∃ next rest, (next :: rest).Perm (first :: others) ∧
      settle subject (first :: others) world =
        (next.finding subject.loader ::
          (settle subject rest ((world.noted (next.start? subject).toList).ordered (world.picks.drop 1))).1,
          (settle subject rest ((world.noted (next.start? subject).toList).ordered (world.picks.drop 1))).2) ∧
      ∀ i, world.picks.head? = some i → (hi : i < (first :: others).length) →
        next = (first :: others)[i] ∧ rest = (first :: others).eraseIdx i := by
  have hlt : world.picks.headD 0 % (others.length + 1) < (first :: others).length := Nat.mod_lt _ (Nat.succ_pos _)
  refine ⟨(first :: others)[world.picks.headD 0 % (others.length + 1)], (first :: others).eraseIdx _,
    List.getElem_cons_eraseIdx_perm hlt, ?_, ?_⟩
  · rw [settle]
    simp only [Run.bind_apply, Run.pick_apply, finish_apply, List.getElem?_eq_getElem hlt, Option.getD_some]
    rfl
  · intro i hi hlt
    have hmod : world.picks.headD 0 % (others.length + 1) = i := by
      rw [List.headD_eq_head?_getD, hi, Option.getD_some]
      exact Nat.mod_eq_of_lt hlt
    simp only [hmod, and_self]

/-- Every load settles once, in some order, and the runners of those that resolve start in this order. -/
theorem settle_spec (loads : List Pending) (world : World) :
    ∃ order : List Pending, order.Perm loads ∧
      settle subject loads world = (order.map (·.finding subject.loader),
        (world.noted (order.filterMap (·.start? subject))).ordered (world.picks.drop loads.length)) := by
  induction hn : loads.length generalizing loads world with
  | zero =>
    obtain rfl := List.length_eq_zero_iff.mp hn
    refine ⟨[], .refl _, ?_⟩
    rw [settle, List.filterMap_nil, World.noted_nil]
    rfl
  | succ n ih =>
    obtain ⟨first, others, rfl⟩ := List.exists_cons_of_length_eq_add_one hn
    obtain ⟨next, rest, hperm, hsettle, -⟩ := settle_cons subject first others world
    have hlen : rest.length = n := by
      have := hperm.length_eq
      simp only [List.length_cons] at this hn
      omega
    obtain ⟨order, horder, hrest⟩ := ih rest
      ((world.noted (next.start? subject).toList).ordered (world.picks.drop 1)) hlen
    refine ⟨next :: order, (horder.cons next).trans hperm, ?_⟩
    rw [hsettle, hrest, List.map_cons, World.noted_ordered, World.noted_noted, World.picks_ordered,
      List.drop_drop, Nat.add_comm 1 n, List.filterMap_cons]
    cases next.start? subject with
    | none => rfl
    | some event => rfl

/-- Loads settle in every order: which one settles first is not up to anything that they do. -/
theorem exists_picks {order loads : List Pending} (h : order.Perm loads) :
    ∃ picks, ∀ world : World,
      (settle subject loads (world.ordered picks)).1 = order.map (·.finding subject.loader) := by
  induction order generalizing loads with
  | nil =>
    obtain rfl := h.nil_eq
    refine ⟨[], fun world => ?_⟩
    rw [settle]
    rfl
  | cons next order ih =>
    obtain ⟨i, hi, hnext⟩ := List.getElem_of_mem (h.subset List.mem_cons_self)
    have hrest : order.Perm (loads.eraseIdx i) := by
      have := h.trans (List.getElem_cons_eraseIdx_perm hi).symm
      rw [hnext] at this
      exact this.cons_inv
    obtain ⟨picks, hpicks⟩ := ih hrest
    refine ⟨i :: picks, fun world => ?_⟩
    cases loads with
    | nil => exact absurd hi (Nat.not_lt_zero i)
    | cons first others =>
      obtain ⟨next', rest, -, hsettle, hpick⟩ := settle_cons subject first others (world.ordered (i :: picks))
      obtain ⟨rfl, rfl⟩ := hpick i rfl hi
      rw [hsettle, hnext, List.map_cons]
      exact congrArg (next.finding subject.loader :: ·) (hpicks _)

end GoldenBench.Interop
