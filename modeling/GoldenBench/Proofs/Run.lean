import GoldenBench.Invocation
import GoldenBench.Outcome
import Mathlib.Tactic.Common

/-!
# Steps of a run

* `World.noted` is a world with more events in its journal, and `World.after` one that an errand has come back to.
* `Run.along` pairs each item of a list with the world in which its turn starts; `Run.mapM_eq` says what a list of
  steps answers.
* `Run.Composes` is what holds of steps that are put together if it holds of each of them.
* `Run.Tells` is a step that tells of nothing but events of some kind.
* `Run.Orderless` is a step that does not depend on what happens next.
* `Invocation.run_apply` is one call of the compiler, and `Invocation.run_journal` what is told of it.
-/

namespace GoldenBench

namespace World

variable (world : World) (events more : List Event) (left : Workspace) (picks : List Nat)

/-- The world with more events in its journal. -/
def noted : World :=
  { world with journal := world.journal ++ events }

/-- The world once an errand has come back and left a workspace. -/
def after : World :=
  { world with
    files := left.files, scratches := left.scratches, journal := world.journal ++ left.strays.map Event.strayLine }

/-- The world with another order in store. -/
def ordered : World :=
  { world with picks := picks }

@[simp] theorem noted_nil : world.noted [] = world := by simp [noted]

@[simp] theorem noted_noted : (world.noted events).noted more = world.noted (events ++ more) := by
  simp [noted, List.append_assoc]

@[simp] theorem files_noted : (world.noted events).files = world.files := rfl

@[simp] theorem journal_noted : (world.noted events).journal = world.journal ++ events := rfl

@[simp] theorem picks_noted : (world.noted events).picks = world.picks := rfl

@[simp] theorem workspace_noted : (world.noted events).workspace = world.workspace := rfl

@[simp] theorem files_after : (world.after left).files = left.files := rfl

@[simp] theorem journal_after :
    (world.after left).journal = world.journal ++ left.strays.map Event.strayLine := rfl

@[simp] theorem picks_after : (world.after left).picks = world.picks := rfl

@[simp] theorem workspace_noted_after :
    ((world.noted events).after left).workspace = (world.after left).workspace := rfl

@[simp] theorem files_ordered : (world.ordered picks).files = world.files := rfl

@[simp] theorem picks_ordered : (world.ordered picks).picks = picks := rfl

@[simp] theorem journal_ordered : (world.ordered picks).journal = world.journal := rfl

@[simp] theorem workspace_ordered : (world.ordered picks).workspace = world.workspace := rfl

theorem noted_ordered : (world.ordered picks).noted events = (world.noted events).ordered picks := rfl

end World

namespace Run

variable {α β : Type} (world : World)

/-! ## Single steps -/

@[simp] theorem pure_apply (a : α) : (pure a : Run α) world = (a, world) := rfl

@[simp] theorem bind_apply (step : Run α) (next : α → Run β) :
    (step >>= next) world = next (step world).1 (step world).2 := rfl

@[simp] theorem map_apply (f : α → β) (step : Run α) : (f <$> step) world = (f (step world).1, (step world).2) := rfl

@[simp] theorem tell_apply (event : Event) : tell event world = ((), world.noted [event]) := rfl

@[simp] theorem files_apply : files world = (world.files, world) := rfl

@[simp] theorem readText_apply (path : Path) : readText path world = (world.files.readText path, world) := rfl

@[simp] theorem pick_apply : pick world = (world.picks.headD 0, world.ordered (world.picks.drop 1)) := rfl

@[simp] theorem lift_apply (errand : Errand α) :
    (liftM errand : Run α) world = ((errand world.workspace).1, world.after (errand world.workspace).2) := rfl

/-! ## Lists of steps -/

universe u

/-- Each item of a list with the world in which its turn starts, one turn after another. -/
def along {ι : Type u} (step : ι → Run β) : List ι → World → List (ι × World)
  | [], _ => []
  | item :: rest, world => (item, world) :: along step rest (step item world).2

theorem map_fst_along {ι : Type u} (step : ι → Run β) (items : List ι) :
    (along step items world).map (·.1) = items := by
  induction items generalizing world with
  | nil => rfl
  | cons item rest ih => rw [along, List.map_cons, ih]

/-- A list of steps answers what each of them answers at its turn. -/
theorem mapM_eq (step : α → Run β) (items : List α) :
    (items.mapM step world).1 = (along step items world).map fun turn => (step turn.1 turn.2).1 := by
  induction items generalizing world with
  | nil => rfl
  | cons item rest ih => rw [List.mapM_cons, along, List.map_cons, ← ih]; rfl

theorem mapM_cons_apply (step : α → Run β) (item : α) (rest : List α) :
    (item :: rest).mapM step world =
      ((step item world).1 :: (rest.mapM step (step item world).2).1, (rest.mapM step (step item world).2).2) := by
  rw [List.mapM_cons]
  rfl

/-- What every step keeps holds at every turn and in the end. -/
theorem along_keeps {P : World → Prop} {step : α → Run β} {items : List α}
    (hstep : ∀ item ∈ items, ∀ world, P world → P (step item world).2) (h : P world) :
    (∀ turn ∈ along step items world, turn.1 ∈ items ∧ P turn.2) ∧ P (items.mapM step world).2 := by
  induction items generalizing world with
  | nil => exact ⟨by simp [along], h⟩
  | cons item rest ih =>
    obtain ⟨hturns, hend⟩ := ih (step item world).2
      (fun item hitem => hstep item (List.mem_cons_of_mem _ hitem)) (hstep item List.mem_cons_self world h)
    refine ⟨fun turn hturn => ?_, by rwa [mapM_cons_apply]⟩
    rcases List.mem_cons.mp hturn with rfl | hturn
    · exact ⟨List.mem_cons_self, h⟩
    · exact ⟨List.mem_cons_of_mem _ (hturns turn hturn).1, (hturns turn hturn).2⟩

/-- What a list of steps told that tell one event for each item. -/
theorem forM_tell (event : α → Event) (items : List α) :
    items.forM (fun item => tell (event item)) world = ((), world.noted (items.map event)) := by
  induction items generalizing world with
  | nil => rw [List.map_nil, World.noted_nil]; rfl
  | cons item rest ih =>
    rw [List.forM, bind_apply, tell_apply, ih, World.noted_noted]
    rfl

/-! ## What holds of every step of a run -/

/-- What holds of a step that answers at once, and of two steps one after the other if it holds of both. -/
structure Composes (P : ∀ {α : Type}, Run α → Prop) : Prop where
  /-- An answer at once. -/
  pure : ∀ {α : Type} (a : α), P (pure a : Run α)
  /-- One step after the other. -/
  bind : ∀ {α β : Type} {step : Run α} {next : α → Run β}, P step → (∀ a, P (next a)) → P (step >>= next)

/-! ## What steps tell -/

/-- A step that adds nothing to the journal but events of some kind. -/
def Tells (P : Event → Prop) (step : Run α) : Prop :=
  ∀ world, ∃ told, (step world).2.journal = world.journal ++ told ∧ ∀ event ∈ told, P event

variable {P : Event → Prop}

theorem tells_pure (a : α) : Tells P (pure a) := fun _ => ⟨[], (List.append_nil _).symm, by simp⟩

theorem tells_readText (path : Path) : Tells P (readText path) := fun _ => ⟨[], (List.append_nil _).symm, by simp⟩

theorem tells_tell {event : Event} (h : P event) : Tells P (tell event) := fun _ => ⟨[event], rfl, by simpa using h⟩

theorem Tells.bind {step : Run α} {next : α → Run β} (h : Tells P step) (hnext : ∀ a, Tells P (next a)) :
    Tells P (step >>= next) := by
  intro world
  obtain ⟨first, hfirst, hkind⟩ := h world
  obtain ⟨later, hlater, hkinds⟩ := hnext (step world).1 (step world).2
  refine ⟨first ++ later, by rw [bind_apply, hlater, hfirst, List.append_assoc], fun event hevent => ?_⟩
  exact (List.mem_append.mp hevent).elim (hkind event) (hkinds event)

theorem composes_tells : Composes (Tells P) := ⟨tells_pure, .bind⟩

/-! ## Steps without a choice -/

/-- A step that does not look at what happens next, and decides nothing. -/
def Orderless (step : Run α) : Prop :=
  ∀ world picks, step (World.ordered world picks) = ((step world).1, (step world).2.ordered picks)

theorem orderless_pure (a : α) : Orderless (pure a) := fun _ _ => rfl

theorem orderless_tell (event : Event) : Orderless (tell event) := fun _ _ => rfl

theorem orderless_readText (path : Path) : Orderless (readText path) := fun _ _ => rfl

theorem Orderless.bind {step : Run α} {next : α → Run β} (h : Orderless step) (hnext : ∀ a, Orderless (next a)) :
    Orderless (step >>= next) := by
  intro world picks
  rw [bind_apply, h world picks, hnext, bind_apply]

theorem composes_orderless : Composes Orderless := ⟨orderless_pure, .bind⟩

end Run

/-! ## Outcomes -/

@[simp] theorem Outcome.isFailed_passed : Outcome.passed.isFailed = false := rfl

@[simp] theorem Outcome.isFailed_created (path : Path) : (Outcome.created path).isFailed = false := rfl

@[simp] theorem Outcome.isFailed_failure (reason : String) : (Outcome.failure reason).isFailed = true := rfl

@[simp] theorem Outcome.isFailed_failureWith (reason detail : String) :
    (Outcome.failureWith reason detail).isFailed = true := rfl

/-! ## Calls of the compiler -/

namespace Invocation

variable (compiler : Compiler) (input : CompilerInput) (options : CompilerOptions)

/-- What comes of a call of the compiler that finds a workspace. -/
def of (workspace : Workspace) : Invocation :=
  ofCompilation (compiler.compile input options workspace).1

/-- A call gives a module just if the compiler hands one back. -/
theorem result_of_eq_ok {workspace : Workspace} {made : Module} :
    (of compiler input options workspace).result = .ok made ↔
      (compiler.compile input options workspace).1.result = .ok made := by
  rw [of, ofCompilation]
  rcases (compiler.compile input options workspace).1.result with (chain | message) | made'
  · simp
  · simp
  · simp

/-- What the compiler said of a module that it handed back is kept. -/
theorem diagnostics_of {workspace : Workspace} {made : Module}
    (h : (compiler.compile input options workspace).1.result = .ok made) :
    (of compiler input options workspace).diagnostics =
      (compiler.compile input options workspace).1.diagnostics := by
  rw [of, ofCompilation, h]

/-- The event that tells of diagnostics, if there are any. -/
def report (invocation : Invocation) : List Event :=
  if invocation.diagnostics.isEmpty then [] else [.diagnosed input invocation.diagnostics.length]

theorem report_apply (invocation : Invocation) (world : World) :
    (do if !invocation.diagnostics.isEmpty then Run.tell (.diagnosed input invocation.diagnostics.length)
        return invocation : Run Invocation) world = (invocation, world.noted (report input invocation)) := by
  rw [report]
  cases invocation.diagnostics.isEmpty with
  | true => exact congrArg _ world.noted_nil.symm
  | false => rfl

/-- A call is told, made, and its diagnostics are told. -/
theorem run_apply (world : World) :
    run compiler input options world = (of compiler input options world.workspace,
      ((world.noted [.compiling input options]).after (compiler.compile input options world.workspace).2).noted
        (report input (of compiler input options world.workspace))) :=
  report_apply input _ _

theorem orderless_run : Run.Orderless (run compiler input options) := by
  intro world picks
  rw [run_apply, run_apply]
  rfl

/-- A call is followed by nothing but stray lines and the number of diagnostics. -/
theorem run_journal (world : World) :
    ∃ later, (run compiler input options world).2.journal = world.journal ++ .compiling input options :: later ∧
      ∀ event ∈ later, (∃ line, event = .strayLine line) ∨ ∃ count, event = .diagnosed input count := by
  refine ⟨(compiler.compile input options world.workspace).2.strays.map .strayLine ++
    report input (of compiler input options world.workspace), by simp [run_apply], fun event h => ?_⟩
  rcases List.mem_append.mp h with h | h
  · obtain ⟨line, -, rfl⟩ := List.mem_map.mp h
    exact .inl ⟨line, rfl⟩
  · rw [report] at h
    split at h
    · cases h
    · exact .inr ⟨_, List.mem_singleton.mp h⟩

end Invocation

end GoldenBench
