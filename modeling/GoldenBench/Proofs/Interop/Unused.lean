import GoldenBench.Proofs.Interop.Filtered

/-!
# Runners without a fixture

A suite warns of each runner that the filter accepts, if no fixture that it selects is paired with it. The filter is
put to the name of a runner here and to the name of a fixture there, and the two names may differ: the name of a fixture
has directories, and dashes where the runner has underscores. So there are warnings of runners that a fixture is paired
with.

* `Event.warnsOf_iff`: the warning is known by its place in the log.
* `runSuite_journal`: all warnings of a suite are told before the first fixture has its turn.
* `runSuite_warns`: the runners that a suite warns of, and when all of these warnings are right.
* `falsely_warned`: a warning of a runner that a fixture is paired with.
-/

namespace GoldenBench

/-- An event stands in the log as the warning that a runner has no fixture. -/
structure Event.WarnsOf (event : Event) (runner : String) : Prop where
  /-- It is a warning. -/
  level_eq : event.level? = some .warn
  /-- It says so of the runner. -/
  message_eq : event.message = "Runner " ++ runner ++ " has no interop fixture"

/-- No other warning reads like it. -/
theorem Event.warnsOf_iff {event : Event} {runner : String} :
    event.WarnsOf runner ↔ event = .runnerUnused runner := by
  constructor
  · rintro ⟨hlevel, hmessage⟩
    cases event with
    | runnerUnused other =>
      change "Runner " ++ other ++ " has no interop fixture" = _ at hmessage
      rw [String.append_left_inj, String.append_right_inj] at hmessage
      rw [hmessage]
    | directoryMissing path =>
      -- the two differ in their first character
      change "Fixture directory " ++ path.text ++ " does not exist" = _ at hmessage
      have hchars := congrArg String.toList hmessage
      simp at hchars
    | optimizerReported subject count =>
      -- and these in their last one
      change subject ++ ": the optimizer reported " ++ toString count ++ " diagnostics" = _ at hmessage
      have hlast := congrArg (·.toList.getLast?) hmessage
      simp [List.getLast?_cons] at hlast
    | _ => cases hlevel
  · rintro rfl
    exact ⟨rfl, rfl⟩

namespace Interop

variable (subject : Subject) (registry : Registry) (color : Bool) (fixtures : List InteropCase)

/-- An event that is no warning of a runner without a fixture. -/
def Unalarming (event : Event) : Prop :=
  ∀ runner, event ≠ .runnerUnused runner

/-! ## Nothing is warned of on the way -/

theorem tells_invocation (input : CompilerInput) (asked : CompilerOptions) :
    Run.Tells Unalarming (Invocation.run subject.compiler input asked) := by
  intro world
  obtain ⟨later, hjournal, hlater⟩ := Invocation.run_journal subject.compiler input asked world
  refine ⟨_, hjournal, fun event hevent => ?_⟩
  rcases List.mem_cons.mp hevent with rfl | hevent
  · exact fun _ => by simp
  rcases hlater event hevent with ⟨line, rfl⟩ | ⟨count, rfl⟩
  · exact fun _ => by simp
  · exact fun _ => by simp

theorem tells_launch (rest : List InteropCase) :
    Run.Tells Unalarming (launch subject registry color fixtures rest) := by
  refine launch_composed Run.composes_tells (fun fixture => ?_) rest
  refine launchCase_composed Run.composes_tells (Run.tells_tell fun _ => by simp) ?_
  exact compileCase_composed Run.composes_tells (Run.tells_readText _) fun _ => tells_invocation subject _ _

theorem tells_settle (loads : List Pending) : Run.Tells Unalarming (settle subject loads) := by
  intro world
  obtain ⟨order, -, hsettle⟩ := settle_spec subject loads world
  refine ⟨order.filterMap (·.start? subject), by rw [hsettle]; rfl, fun event hevent => ?_⟩
  obtain ⟨pending, -, hstart⟩ := List.mem_filterMap.mp hevent
  rw [Pending.start?] at hstart
  split at hstart
  · cases hstart
    exact fun _ => by simp
  · cases hstart

theorem tells_dispatch : Run.Tells Unalarming (dispatch subject registry color fixtures) :=
  (tells_launch subject registry color fixtures fixtures).bind fun launched =>
    (tells_settle subject launched.2).bind fun _ => Run.tells_pure _

/-! ## The suite -/

variable (environment : Environment) (options : RunOptions) (world : World)

/-- All warnings are told before the first fixture has its turn. -/
theorem runSuite_journal :
    ∃ later, (runSuite subject environment options registry world).2.journal =
        world.journal ++ found registry environment options world.files ++ later ∧
      ∀ event ∈ later, Unalarming event := by
  rw [runSuite_apply]
  split
  · exact Run.tells_pure _ _
  · cases subject.loader.capability with
    | supported => exact tells_dispatch _ _ _ _ _
    | unsupported reason =>
      exact (Run.tells_tell fun _ => by simp).bind (fun _ => Run.tells_pure _) _

variable {registry environment options}

/-- A runner is warned of if the filter accepts it and none of the fixtures that are paired with it. -/
theorem mem_found_iff {files : Store} {runner : String} :
    .runnerUnused runner ∈ found registry environment options files ↔
      runner ∈ registry.names ∧ options.filter.accepts runner = true ∧
        ∀ fixture ∈ casesIn environment .all files, fixture.id = runner →
          options.filter.accepts fixture.name = false := by
  have hmissing : .runnerUnused runner ∉ files.missing environment.interopDirectory := by
    rw [Store.missing]
    split
    · exact List.not_mem_nil
    · simp
  have hignored : ∀ sources, .runnerUnused runner ∉ ignored environment sources := by
    intro sources h
    obtain ⟨file, -, hfile⟩ := List.mem_map.mp h
    cases hfile
  have hrejected : (∀ fixture ∈ casesIn environment options.filter files, fixture.id ≠ runner) ↔
      ∀ fixture ∈ casesIn environment .all files, fixture.id = runner →
        options.filter.accepts fixture.name = false := by
    rw [casesIn_eq_filter environment options.filter]
    simp only [List.mem_filter, and_imp]
    refine forall₂_congr fun fixture _ => ?_
    rw [← Bool.not_eq_true, ne_eq, imp_not_comm]
  rw [← hrejected]
  simp only [found, List.mem_append, hmissing, hignored, false_or, unused, List.mem_map, List.mem_filter,
    Event.runnerUnused.injEq, exists_eq_right, Bool.and_eq_true, Bool.not_eq_true', List.any_eq_false,
    decide_eq_true_eq, ne_eq]

/-- A suite warns of the runners that the filter accepts and that no fixture is paired with whose name it accepts. All
of these warnings are of runners without a fixture just if the filter accepts a runner that a fixture is paired with
only where it accepts the name of such a fixture. -/
theorem runSuite_warns (subject : Subject) (environment : Environment) (options : RunOptions) (registry : Registry)
    (world : World) :
    ∃ told, (runSuite subject environment options registry world).2.journal = world.journal ++ told ∧
      (∀ runner, (∃ event ∈ told, event.WarnsOf runner) ↔
        runner ∈ registry.names ∧ options.filter.accepts runner = true ∧
          ∀ fixture ∈ (discover environment .all world).1, fixture.id = runner →
            options.filter.accepts fixture.name = false) ∧
      ((∀ runner, (∃ event ∈ told, event.WarnsOf runner) →
          ∀ fixture ∈ (discover environment .all world).1, fixture.id ≠ runner) ↔
        ∀ fixture ∈ (discover environment .all world).1,
          fixture.id ∈ registry.names → options.filter.accepts fixture.id = true →
            ∃ other ∈ (discover environment .all world).1, other.id = fixture.id ∧
              options.filter.accepts other.name = true) := by
  obtain ⟨later, hjournal, hlater⟩ := runSuite_journal subject registry environment options world
  have hwarned : ∀ runner, (∃ event ∈ found registry environment options world.files ++ later,
      event.WarnsOf runner) ↔ .runnerUnused runner ∈ found registry environment options world.files := by
    intro runner
    simp only [Event.warnsOf_iff, exists_eq_right, List.mem_append]
    exact or_iff_left fun h => hlater _ h runner rfl
  rw [discover_apply]
  refine ⟨_, by rw [hjournal, List.append_assoc], fun runner => (hwarned runner).trans mem_found_iff, ?_⟩
  simp only [hwarned, mem_found_iff]
  constructor
  · intro h fixture hfixture hname haccepts
    by_contra hnone
    refine h fixture.id ⟨hname, haccepts, fun other hother hid => ?_⟩ fixture hfixture rfl
    exact Bool.eq_false_iff.mpr fun htrue => hnone ⟨other, hother, hid, htrue⟩
  · rintro h runner ⟨hname, haccepts, hrejected⟩ fixture hfixture rfl
    obtain ⟨other, hother, hid, htrue⟩ := h fixture hfixture hname haccepts
    rw [hrejected other hother hid] at htrue
    cases htrue

/-! ## A fixture with a dash -/

open Snapshot (rootEnvironment)

/-- A tree with the source of the fixture with the dash only. -/
def lone : Store :=
  ⟨[(["a-b.test.ts"], .file "".toUTF8)], []⟩

/-- The filter that accepts the name with the underscore only. -/
def underscoreOnly : Filter :=
  ⟨some ⟨[.char 'a', .char '_', .char 'b']⟩⟩

theorem casesIn_lone : casesIn rootEnvironment .all lone = [dashed] := by
  have hsources : lone.sources ⟨"/"⟩ "ts" = [⟨"a-b.test", ⟨"/a-b.test.ts"⟩⟩] := by
    rw [Store.sources_of_directory (Snapshot.locate_root _)]
    simp only [lone, List.filterMap_cons, Snapshot.sourceAt?_root, List.filterMap_nil]
    decide
  rw [casesIn, rootEnvironment, hsources]
  decide

theorem underscoreOnly_accepts :
    underscoreOnly.accepts dashed.id = true ∧ underscoreOnly.accepts dashed.name = false := by
  decide +kernel

/-- The runner of the only fixture is warned of, since the filter accepts the name of the runner and not that of the
fixture. -/
theorem falsely_warned :
    ∃ event ∈ (runSuite loading rootEnvironment ⟨false, false, underscoreOnly⟩ oneRunner (.start lone [])).2.journal,
      event.WarnsOf "a_b" ∧ ∃ fixture ∈ (discover rootEnvironment .all (.start lone [])).1, fixture.id = "a_b" := by
  obtain ⟨later, hjournal, -⟩ := runSuite_journal loading oneRunner rootEnvironment ⟨false, false, underscoreOnly⟩
    (.start lone [])
  obtain ⟨haccepts, hrejects⟩ := underscoreOnly_accepts
  have hfound : .runnerUnused "a_b" ∈ found oneRunner rootEnvironment ⟨false, false, underscoreOnly⟩ lone := by
    refine mem_found_iff.mpr ⟨by decide, haccepts, fun fixture hfixture _ => ?_⟩
    rw [casesIn_lone, List.mem_singleton] at hfixture
    rw [hfixture]
    exact hrejects
  refine ⟨.runnerUnused "a_b", ?_, Event.warnsOf_iff.mpr rfl, dashed, ?_, rfl⟩
  · rw [hjournal]
    exact List.mem_append_left _ (List.mem_append_right _ hfound)
  · rw [discover_apply]
    exact casesIn_lone ▸ List.mem_cons_self

end Interop

end GoldenBench
