import GoldenBench.Proofs.Interop.Settle
import Mathlib.Data.List.Forall2

/-!
# The numbers of interrupted tasks

Loads are done by tasks, and the number of a task that is interrupted stands in the reason of its failure. How tasks are
numbered depends on all that has been started before, so what says how one run fares beside another leaves these numbers
aside.

* `Subject.Alike`: subjects that load in the same way, up to the numbers of interrupted tasks.
* `Finding.Alike` and `Report.Alike`: what such subjects come to.
* `InSomeOrder`: lists whose items are related one by one, once one of them is brought into another order.
-/

namespace GoldenBench

/-! ## Lists in some order -/

universe u v w z

/-- Items of two lists are related one by one in some order. -/
def InSomeOrder {α : Type u} {β : Type v} (R : α → β → Prop) (xs : List α) (ys : List β) : Prop :=
  ∃ order, List.Forall₂ R xs order ∧ order.Perm ys

namespace InSomeOrder

variable {α : Type u} {β : Type v} {γ : Type w} {δ : Type z} {R : α → β → Prop} {S : γ → δ → Prop}
  {xs xs' : List α} {ys ys' : List β}

theorem of_forall₂ (h : List.Forall₂ R xs ys) : InSomeOrder R xs ys := ⟨ys, h, .refl _⟩

/-- The order of the first list does not matter either. -/
theorem of_perm (hxs : xs.Perm xs') (h : InSomeOrder R xs' ys) : InSomeOrder R xs ys := by
  obtain ⟨order, hrelated, hperm⟩ := h
  obtain ⟨order', hrelated', hperm'⟩ := List.perm_comp_forall₂ hxs hrelated
  exact ⟨order', hrelated', hperm'.trans hperm⟩

theorem trans_perm (h : InSomeOrder R xs ys) (hys : ys.Perm ys') : InSomeOrder R xs ys' := by
  obtain ⟨order, hrelated, hperm⟩ := h
  exact ⟨order, hrelated, hperm.trans hys⟩

theorem append (h : InSomeOrder R xs ys) (h' : InSomeOrder R xs' ys') : InSomeOrder R (xs ++ xs') (ys ++ ys') := by
  obtain ⟨order, hrelated, hperm⟩ := h
  obtain ⟨order', hrelated', hperm'⟩ := h'
  exact ⟨order ++ order', List.rel_append hrelated hrelated', hperm.append hperm'⟩

theorem map {f : α → γ} {g : β → δ} (h : InSomeOrder R xs ys) (hS : ∀ x y, R x y → S (f x) (g y)) :
    InSomeOrder S (xs.map f) (ys.map g) := by
  obtain ⟨order, hrelated, hperm⟩ := h
  refine ⟨order.map g, ?_, hperm.map g⟩
  rw [List.forall₂_map_left_iff, List.forall₂_map_right_iff]
  exact hrelated.imp fun x y hxy => hS x y hxy

/-- What is kept of related items is related. -/
theorem filter {p : α → Bool} {q : β → Bool} (h : InSomeOrder R xs ys) (hpq : ∀ x y, R x y → p x = q y) :
    InSomeOrder R (xs.filter p) (ys.filter q) := by
  obtain ⟨order, hrelated, hperm⟩ := h
  refine ⟨order.filter q, ?_, hperm.filter q⟩
  clear hperm
  induction hrelated with
  | nil => exact .nil
  | @cons x y xs ys hxy _ ih =>
    rw [List.filter_cons, List.filter_cons, hpq x y hxy]
    split
    · exact .cons hxy ih
    · exact ih

theorem length_eq (h : InSomeOrder R xs ys) : xs.length = ys.length := by
  obtain ⟨order, hrelated, hperm⟩ := h
  exact hrelated.length_eq.trans hperm.length_eq

end InSomeOrder

/-! ## Loads -/

/-- Loads come to the same, up to the number of an interrupted task. -/
inductive Load.Alike : Load → Load → Prop
  /-- They come to the same. -/
  | same (load : Load) : Alike load load
  /-- Both are interrupted, with the same message. -/
  | panicked (task task' : Nat) (message : Option String) : Alike (.panicked task message) (.panicked task' message)

/-- Loaders do the same, up to the numbers of interrupted tasks. -/
structure Loader.Alike (one other : Loader) : Prop where
  /-- Modules can be executed by both or by neither. -/
  capability : one.capability = other.capability
  /-- They load binaries in the same way. -/
  load : ∀ binary, (one.load binary).Alike (other.load binary)

/-- Subjects that are the same but for the numbers of the tasks that are interrupted when they load. -/
def Subject.Alike (subject other : Subject) : Prop :=
  ∃ loader, subject.loader.Alike loader ∧ other = { subject with loader := loader }

theorem Loader.Alike.refl (loader : Loader) : loader.Alike loader := ⟨rfl, fun _ => .same _⟩

theorem Subject.Alike.refl (subject : Subject) : subject.Alike subject := ⟨_, .refl _, rfl⟩

/-! ## What comes of them -/

/-- Outcomes are the same, up to the number of an interrupted task. -/
inductive Outcome.Alike : Outcome → Outcome → Prop
  /-- They are the same. -/
  | same (outcome : Outcome) : Alike outcome outcome
  /-- Both tell of an interrupted task. -/
  | interrupted (task task' : Nat) (message : Option String) :
    Alike (Interop.interrupted task message) (Interop.interrupted task' message)

/-- Findings are the same, up to the number of an interrupted task. -/
structure Finding.Alike (one other : Finding) : Prop where
  /-- They are on the same fixture. -/
  fixture : one.fixture = other.fixture
  /-- They come to the same. -/
  outcome : one.outcome.Alike other.outcome
  /-- They have the same notes. -/
  notes : one.notes = other.notes

/-- Reports are the same, up to the number of an interrupted task. -/
structure Report.Alike (one other : Report) : Prop where
  /-- They have the same name. -/
  name : one.name = other.name
  /-- They come to the same. -/
  outcome : one.outcome.Alike other.outcome
  /-- They have the same notes. -/
  notes : one.notes = other.notes

theorem Finding.Alike.refl (finding : Finding) : finding.Alike finding := ⟨rfl, .same _, rfl⟩

theorem Report.Alike.refl (report : Report) : report.Alike report := ⟨rfl, .same _, rfl⟩

/-- They are of one kind. -/
theorem Outcome.Alike.kind_eq {one other : Outcome} (h : one.Alike other) :
    ∀ kind ∈ [isPassed, isCreated, isFailed, isSkipped], kind one = kind other := by
  cases h with
  | same => exact fun _ _ => rfl
  | interrupted task task' message => simp [Interop.interrupted, failure, isPassed, isCreated, isFailed, isSkipped]

theorem Finding.Alike.report {one other : Finding} (h : one.Alike other) (subject suite : String) :
    (one.report subject suite).Alike (other.report subject suite) where
  name := by rw [Finding.report, Finding.report, h.fixture]
  outcome := h.outcome
  notes := h.notes

/-- A load comes to the same with loaders that do the same. -/
theorem Interop.Pending.alike_finding {pending : Pending} {one other : Loader}
    (h : (one.load pending.binary).Alike (other.load pending.binary)) :
    (pending.finding one).Alike (pending.finding other) where
  fixture := rfl
  outcome := by
    rw [Pending.finding, Pending.finding, Pending.outcome, Pending.outcome]
    generalize one.load pending.binary = load at h ⊢
    generalize other.load pending.binary = load' at h ⊢
    cases h with
    | same => exact .same _
    | panicked task task' message => exact .interrupted task task' message
  notes := rfl

end GoldenBench
