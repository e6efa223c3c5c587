import GoldenBench.Proofs.Interop.Dispatch

/-!
# When the interop suite passes

* `Runner.outcome_passes_iff`: a runner passes just if it comes to its end and no check on the way failed.
* `runSuite_passes_iff`: the suite passes just if there is nothing to run or every fixture is in order (`InOrder`).
-/

namespace GoldenBench

theorem Runner.verdict_passes_iff (ending : Except Failure Unit) (failed : List String) :
    (verdict ending failed).isFailed = false ↔ ending = .ok () ∧ failed = [] := by
  rcases ending with (chain | message) | ⟨⟩
  · simp [verdict, Outcome.isFailed]
  · simp [verdict, Outcome.isFailed]
  · cases failed with
    | nil => simp [verdict]
    | cons text failed => simp [verdict, Outcome.isFailed]

/-- A runner passes just if it comes to its end and no check on the way failed. -/
theorem Runner.outcome_passes_iff (runner : Runner) (live : Instance) :
    (runner.outcome live).isFailed = false ↔
      ∃ checks, runner.run (.start live) = (.ok (), checks) ∧ checks.failed = [] := by
  rw [outcome]
  obtain ⟨ending, checks⟩ := runner.run (.start live)
  rw [verdict_passes_iff, List.map_eq_nil_iff]
  constructor
  · rintro ⟨rfl, hfailed⟩
    exact ⟨checks, rfl, hfailed⟩
  · rintro ⟨checks', h, hfailed⟩
    cases h
    exact ⟨rfl, hfailed⟩

namespace Interop

variable {subject : Subject} {registry : Registry} {color : Bool} {fixtures : List InteropCase}

theorem isFailed_interrupted (task : Nat) (message : Option String) : (interrupted task message).isFailed = true := rfl

theorem Pending.outcome_passes_iff (pending : Pending) (loader : Loader) :
    (pending.outcome loader).isFailed = false ↔
      ∃ live, loader.load pending.binary = .loaded live ∧ (pending.runner.outcome live).isFailed = false := by
  rw [outcome]
  cases loader.load pending.binary with
  | loaded live => simp
  | rejected chain => simp
  | panicked task message => simp [isFailed_interrupted]

/-- A suite passes just if every fixture gets to its load and the load passes. -/
theorem Dispatched.passes_iff {world : World} {told before : List Event} {taken : List (InteropCase × World)}
    {early : List Finding} {result : List Nat → List Finding × World}
    (h : Dispatched subject registry color fixtures world told before taken early result) (picks : List Nat) :
    (∀ finding ∈ (result picks).1, finding.outcome.isFailed = false) ↔
      ∀ turn ∈ taken, ∃ pending, loadAt? subject registry color fixtures turn = some pending ∧
        (pending.outcome subject.loader).isFailed = false := by
  obtain ⟨order, horder, hfindings, -⟩ := h.settles picks
  have hearly := h.early_fails
  rw [hfindings]
  constructor
  · intro hall turn hturn
    cases hload : loadAt? subject registry color fixtures turn with
    | none =>
      have hmem : turn ∈ taken.filter fun turn => (loadAt? subject registry color fixtures turn).isNone :=
        List.mem_filter.mpr ⟨hturn, by rw [hload]; rfl⟩
      obtain ⟨i, hi, rfl⟩ := List.getElem_of_mem hmem
      have hi' : i < early.length := hearly.length_eq ▸ hi
      have hfails := (List.forall₂_iff_get.mp hearly).2 i hi hi'
      have hpasses := hall early[i] (List.mem_append_left _ (List.getElem_mem hi'))
      exact absurd hfails.2.1 (by simp [hpasses])
    | some pending =>
      have hmem : pending ∈ order := horder.mem_iff.mpr (List.mem_filterMap.mpr ⟨turn, hturn, hload⟩)
      exact ⟨pending, rfl, hall _ (List.mem_append_right _ (List.mem_map.mpr ⟨pending, hmem, rfl⟩))⟩
  · intro hall finding hfinding
    rcases List.mem_append.mp hfinding with hfinding | hfinding
    · have hnone : taken.filter (fun turn => (loadAt? subject registry color fixtures turn).isNone) = [] := by
        refine List.filter_eq_nil_iff.mpr fun turn hturn => ?_
        obtain ⟨pending, hload, -⟩ := hall turn hturn
        simp [hload]
      rw [hnone] at hearly
      cases hearly
      cases hfinding
    · obtain ⟨pending, hmem, rfl⟩ := List.mem_map.mp hfinding
      obtain ⟨turn, hturn, hload⟩ := List.mem_filterMap.mp (horder.mem_iff.mp hmem)
      obtain ⟨pending', hload', hpasses⟩ := hall turn hturn
      rw [hload] at hload'
      cases hload'
      exact hpasses

/-- A fixture that is in order at its turn: its id is its own and a runner's, its source can be read and its directive
line makes sense, it compiles to a module that emits a binary, the binary is loaded, and the runner comes to its end
with no check failed on the way. -/
def InOrder (subject : Subject) (registry : Registry) (fixtures : List InteropCase) (turn : InteropCase × World) :
    Prop :=
  ∃ runner source directed made binary live checks,
    (fixtures.filter (·.id = turn.1.id)).length ≤ 1 ∧
    registry.get? turn.1.id = some runner ∧
    turn.2.files.readText turn.1.source = .ok source ∧
    Directive.options source.toList = .ok directed ∧
    (subject.compiler.compile (.file turn.1.source) directed.silenced turn.2.workspace).1.result = .ok made ∧
    made.binary = .ok binary ∧
    subject.loader.load binary = .loaded live ∧
    runner.run (.start live) = (.ok (), checks) ∧ checks.failed = []

theorem inOrder_iff (turn : InteropCase × World) :
    InOrder subject registry fixtures turn ↔
      ∃ pending, loadAt? subject registry color fixtures turn = some pending ∧
        (pending.outcome subject.loader).isFailed = false := by
  constructor
  · rintro ⟨runner, source, directed, made, binary, live, checks, hown, hrunner, hread, hoptions, hmade, hbinary, hlive,
      hrun, hchecks⟩
    have hcall := (call?_eq_some _ _ _).mpr
      ⟨hown, ⟨runner, hrunner⟩, (directed?_eq_some turn.1).mpr ⟨source, directed, hread, hoptions, rfl⟩⟩
    refine ⟨_, (loadAt?_eq_some subject registry color fixtures).mpr ⟨runner, directed.silenced, made, binary, hrunner,
      hcall, hmade, hbinary, rfl⟩, ?_⟩
    have hverdict := (runner.outcome_passes_iff live).mpr ⟨checks, hrun, hchecks⟩
    exact (Pending.outcome_passes_iff _ _).mpr ⟨live, hlive, hverdict⟩
  · rintro ⟨pending, hload, hpasses⟩
    obtain ⟨runner, options, made, binary, hrunner, hcall, hmade, hbinary, rfl⟩ :=
      (loadAt?_eq_some subject registry color fixtures).mp hload
    obtain ⟨hown, -, hdirected⟩ := (call?_eq_some _ _ _).mp hcall
    obtain ⟨source, directed, hread, hoptions, rfl⟩ := (directed?_eq_some turn.1).mp hdirected
    obtain ⟨live, hlive, hverdict⟩ := (Pending.outcome_passes_iff _ _).mp hpasses
    obtain ⟨checks, hrun, hchecks⟩ := (runner.outcome_passes_iff live).mp hverdict
    exact ⟨runner, source, directed, made, binary, live, checks, hown, hrunner, hread, hoptions, hmade, hbinary, hlive,
      hrun, hchecks⟩

variable (subject registry)

/-- The fixtures that a filter accepts, with the worlds in which their turns start. -/
def turnsIn (environment : Environment) (options : RunOptions) (world : World) : List (InteropCase × World) :=
  turns subject registry options.color (casesIn environment options.filter world.files)
    (world.noted (found registry environment options world.files)) (casesIn environment options.filter world.files)

/-- The suite passes just if there is nothing to run, modules cannot be executed, or every fixture is in order. -/
theorem runSuite_passes_iff (environment : Environment) (options : RunOptions) (world : World) :
    (∀ finding ∈ (runSuite subject environment options registry world).1, finding.outcome.isFailed = false) ↔
      casesIn environment options.filter world.files = [] ∨
        (∃ reason, subject.loader.capability = .unsupported reason) ∨
        ∀ turn ∈ turnsIn subject registry environment options world,
          InOrder subject registry (casesIn environment options.filter world.files) turn := by
  cases hcapability : subject.loader.capability with
  | unsupported reason =>
    obtain ⟨told, -, hrun⟩ := runSuite_unsupported subject registry world environment options hcapability
    rw [hrun]
    refine ⟨fun _ => .inr (.inl ⟨reason, rfl⟩), fun _ finding h => ?_⟩
    dsimp only at h
    split at h
    · cases h
    · rw [List.mem_singleton.mp h]
      rfl
  | supported =>
    obtain ⟨before, taken, early, hdispatched⟩ := dispatched subject registry options.color
      (casesIn environment options.filter world.files) world _ (quiet_found registry environment options world.files)
    have hpasses := hdispatched.passes_iff world.picks
    simp only [hdispatched.taken_eq, ← inOrder_iff] at hpasses
    rw [runSuite_supported subject registry world environment options hcapability]
    refine hpasses.trans ⟨fun h => .inr (.inr h), ?_⟩
    rintro (hnone | ⟨reason, h⟩ | h)
    · rw [hnone]
      intro turn hturn
      cases hturn
    · cases h
    · exact h

end Interop

end GoldenBench
