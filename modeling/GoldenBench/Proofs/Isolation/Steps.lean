import GoldenBench.Proofs.Snapshot

/-!
# Two runs side by side

Steps agree on file trees that are related in some way if they give the same answers from related trees and leave
related trees. Journals, the order in which things happen and the number of scratch directories may differ.

* `Errand.Tidy`, `Run.Tidy`: a step that leaves the file tree as it finds it.
* `Errand.Relate`, `Run.Relate`: two steps whose answers are related.
* `Errand.Agree`, `Run.Agree`: two steps that agree, with one lemma for each way to put steps together.
* `Between`: only one tree is related to another one, and `Stays`: only one tree is related to itself. A step that
  agrees with itself there leaves this tree as it is, and answers the same whenever it finds it.
-/

namespace GoldenBench

variable {α α' β β' : Type} {R : Store → Store → Prop}

/-- The trees are these two. -/
def Between (first second one other : Store) : Prop :=
  one = first ∧ other = second

/-- Both trees are this one. -/
def Stays (files : Store) : Store → Store → Prop :=
  Between files files

/-- Both end in an error or with an answer, and what they come to is related. -/
def BothEnd (S : β → β' → Prop) (T : α → α' → Prop) : Except β α → Except β' α' → Prop
  | .ok answer, .ok answer' => T answer answer'
  | .error fault, .error fault' => S fault fault'
  | _, _ => False

namespace Errand

/-- An errand leaves the file tree as it finds it. -/
def Tidy (errand : Errand α) : Prop :=
  ∀ workspace, (errand workspace).2.files = workspace.files

/-- Errands give related answers from related file trees, and leave related ones. -/
def Relate (R : Store → Store → Prop) (S : α → α' → Prop) (first : Errand α) (second : Errand α') : Prop :=
  ∀ one other : Workspace, R one.files other.files →
    S (first one).1 (second other).1 ∧ R (first one).2.files (second other).2.files

/-- Errands give the same answers from related file trees, and leave related ones. -/
def Agree (R : Store → Store → Prop) (first second : Errand α) : Prop :=
  Relate R Eq first second

theorem tidy_pure (a : α) : Tidy (pure a : Errand α) := fun _ => rfl

theorem agree_pure (a : α) : Agree R (pure a : Errand α) (pure a) := fun _ _ hR => ⟨rfl, hR⟩

/-- Tidy errands agree if they give the same answers. -/
theorem Tidy.agree {first second : Errand α} (hfirst : Tidy first) (hsecond : Tidy second)
    (h : ∀ one other : Workspace, R one.files other.files → (first one).1 = (second other).1) :
    Agree R first second := by
  intro one other hR
  rw [hfirst, hsecond]
  exact ⟨h one other hR, hR⟩

end Errand

namespace Run

/-! ## Steps that leave the file tree alone -/

/-- A step leaves the file tree as it finds it. -/
def Tidy (step : Run α) : Prop :=
  ∀ world, (step world).2.files = world.files

theorem tidy_pure (a : α) : Tidy (pure a) := fun _ => rfl

theorem tidy_tell (event : Event) : Tidy (tell event) := fun _ => rfl

theorem tidy_readText (path : Path) : Tidy (readText path) := fun _ => rfl

theorem tidy_compareTexts (expected actual : String) : Tidy (compareTexts expected actual) := by
  intro world
  rw [compareTexts_apply]
  rfl

theorem tidy_lift {errand : Errand α} (h : errand.Tidy) : Tidy (liftM errand) := fun world => h world.workspace

/-- What follows need only be tidy after what the step can answer. -/
theorem Tidy.bind {step : Run α} {next : α → Run β} (h : Tidy step) (hnext : ∀ world, Tidy (next (step world).1)) :
    Tidy (step >>= next) := by
  intro world
  rw [bind_apply, hnext, h]

theorem composes_tidy : Composes Tidy := ⟨tidy_pure, fun h hnext => h.bind fun _ => hnext _⟩

/-- Tidy steps find the file tree as it was at first, and leave it so in the end. -/
theorem files_along {step : α → Run β} {items : List α} (h : ∀ item ∈ items, Tidy (step item)) (world : World) :
    (∀ turn ∈ along step items world, turn.1 ∈ items ∧ turn.2.files = world.files) ∧
      (items.mapM step world).2.files = world.files :=
  along_keeps (P := fun now => now.files = world.files) world
    (fun item hitem now hnow => (h item hitem now).trans hnow) rfl

/-! ## Steps that agree -/

/-- Steps give related answers from related file trees, and leave related ones. -/
def Relate (R : Store → Store → Prop) (S : α → α' → Prop) (first : Run α) (second : Run α') : Prop :=
  ∀ one other : World, R one.files other.files →
    S (first one).1 (second other).1 ∧ R (first one).2.files (second other).2.files

theorem relate_pure {S : α → α' → Prop} {a : α} {a' : α'} (h : S a a') : Relate R S (pure a) (pure a') :=
  fun _ _ hR => ⟨h, hR⟩

theorem relate_lift {S : α → α' → Prop} {first : Errand α} {second : Errand α'} (h : Errand.Relate R S first second) :
    Relate R S (liftM first) (liftM second) := fun one other hR => h one.workspace other.workspace hR

/-- What follows need only relate related answers. -/
theorem Relate.bind {S : α → α' → Prop} {T : β → β' → Prop} {first : Run α} {second : Run α'} {next : α → Run β}
    {next' : α' → Run β'} (h : Relate R S first second) (hnext : ∀ a a', S a a' → Relate R T (next a) (next' a')) :
    Relate R T (first >>= next) (second >>= next') := by
  intro one other hR
  obtain ⟨hanswer, hleft⟩ := h one other hR
  rw [bind_apply, bind_apply]
  exact hnext _ _ hanswer _ _ hleft

/-- Steps give the same answers from related file trees, and leave related ones. -/
def Agree (R : Store → Store → Prop) (first second : Run α) : Prop :=
  Relate R Eq first second

theorem agree_pure (a : α) : Agree R (pure a) (pure a) := fun _ _ hR => ⟨rfl, hR⟩

theorem agree_tell (event event' : Event) : Agree R (tell event) (tell event') := fun _ _ hR => ⟨rfl, hR⟩

theorem agree_readText {path : Path} (h : ∀ one other : Store, R one other → one.readText path = other.readText path) :
    Agree R (readText path) (readText path) := fun one other hR => ⟨h one.files other.files hR, hR⟩

theorem agree_compareTexts (expected actual : String) :
    Agree R (compareTexts expected actual) (compareTexts expected actual) := by
  intro one other hR
  rw [compareTexts_apply, compareTexts_apply]
  exact ⟨rfl, hR⟩

theorem agree_lift {first second : Errand α} (h : Errand.Agree R first second) :
    Agree R (liftM first) (liftM second) := relate_lift h

/-- What is kept by two steps that agree is kept by the first of them. -/
theorem Agree.files {files : Store} {first second : Run α} (h : Agree (Stays files) first second) {world : World}
    (hworld : world.files = files) : (first world).2.files = files :=
  (h world world ⟨hworld, hworld⟩).2.1

/-- What follows need only agree after what the first step can answer. -/
theorem Agree.bind {first second : Run α} {next next' : α → Run β} (h : Agree R first second)
    (hnext : ∀ world, Agree R (next (first world).1) (next' (first world).1)) :
    Agree R (first >>= next) (second >>= next') := by
  intro one other hR
  obtain ⟨hanswer, hleft⟩ := h one other hR
  rw [bind_apply, bind_apply, ← hanswer]
  exact hnext one _ _ hleft

theorem agree_mapM {first second : α → Run β} {items : List α}
    (h : ∀ item ∈ items, Agree R (first item) (second item)) : Agree R (items.mapM first) (items.mapM second) := by
  induction items with
  | nil => exact agree_pure _
  | cons item rest ih =>
    rw [List.mapM_cons, List.mapM_cons]
    refine (h item List.mem_cons_self).bind fun _ => ?_
    exact (ih fun item hitem => h item (List.mem_cons_of_mem _ hitem)).bind fun _ => agree_pure _

end Run

end GoldenBench
