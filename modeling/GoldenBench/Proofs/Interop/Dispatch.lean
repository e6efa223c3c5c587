import GoldenBench.Proofs.Files.Write
import GoldenBench.Proofs.Discovery
import GoldenBench.Proofs.Interop.Launch
import GoldenBench.Proofs.Interop.Settle

/-!
# Every interop fixture is reported once

* `runSuite_dispatches`: what becomes of each fixture does not depend on the order in which loads settle
  (`Dispatched`).
* `not_compiled_of_undirected`: a runner and an id of its own do not get a fixture to the compiler.
-/

namespace GoldenBench.Interop

variable {subject : Subject} {registry : Registry} {color : Bool} {fixtures : List InteropCase}

/-! ## Loads and fixtures -/

theorem fixture_loadAt? {turn : InteropCase × World} {pending : Pending}
    (h : loadAt? subject registry color fixtures turn = some pending) : pending.fixture = turn.1 := by
  obtain ⟨runner, options, made, binary, -, -, -, -, rfl⟩ := (loadAt?_eq_some subject registry color fixtures).mp h
  rfl

theorem names_loads (turns : List (InteropCase × World)) :
    (turns.filterMap (loadAt? subject registry color fixtures)).map (·.fixture.name) =
      (turns.filter fun turn => !(loadAt? subject registry color fixtures turn).isNone).map (·.1.name) := by
  induction turns with
  | nil => rfl
  | cons turn turns ih =>
    cases hload : loadAt? subject registry color fixtures turn with
    | none => simp [hload, ih]
    | some pending => simp [hload, ih, fixture_loadAt? hload]

theorem names_early {turns : List (InteropCase × World)} {early : List Finding}
    (h : List.Forall₂ (FailsAs subject registry color fixtures) turns early) :
    early.map (·.fixture) = turns.map (·.1.name) := by
  induction h with
  | nil => rfl
  | cons hfails _ ih => rw [List.map_cons, List.map_cons, hfails.1, ih]

theorem names_turns (world : World) (rest : List InteropCase) :
    (turns subject registry color fixtures world rest).map (·.1.name) = rest.map (·.name) := by
  conv_rhs => rw [← Run.map_fst_along world (launchCase subject registry color fixtures) rest, List.map_map]
  rfl

/-- Each fixture is reported once, early or when its load has settled. -/
theorem names_perm {turns : List (InteropCase × World)} {early : List Finding} {order : List Pending}
    (hearly : List.Forall₂ (FailsAs subject registry color fixtures)
      (turns.filter fun turn => (loadAt? subject registry color fixtures turn).isNone) early)
    (horder : order.Perm (turns.filterMap (loadAt? subject registry color fixtures))) :
    ((early ++ order.map (·.finding subject.loader)).map (·.fixture)).Perm (turns.map (·.1.name)) := by
  have hnames : (order.map (·.finding subject.loader)).map (·.fixture) = order.map (·.fixture.name) := by
    rw [List.map_map]
    rfl
  rw [List.map_append, names_early hearly, hnames]
  refine (((horder.map _).trans (.of_eq (names_loads turns))).append_left _).trans ?_
  rw [← List.map_append]
  exact (List.filter_append_perm _ turns).map _

/-! ## The suite -/

/-- An event that is neither a call of the compiler nor the start of a runner. -/
def Quiet (event : Event) : Prop :=
  event.isCompilation = false ∧ startsRunner event = false

/-- How a suite deals with its fixtures. Once `told` has been told they take their turns, as `taken`; those that are
not loaded are reported in `early`, and `before` is all that is told until the first load settles. What comes of the
suite is given for every order that loads can settle in. -/
structure Dispatched (subject : Subject) (registry : Registry) (color : Bool) (fixtures : List InteropCase)
    (world : World) (told before : List Event) (taken : List (InteropCase × World)) (early : List Finding)
    (result : List Nat → List Finding × World) : Prop where
  /-- Nothing was compiled before the first turn. -/
  quiet : ∀ event ∈ told, Quiet event
  /-- The fixtures take their turns in the order of discovery. -/
  taken_eq : taken = turns subject registry color fixtures (world.noted told) fixtures
  /-- The fixtures that are not loaded fail, and they are reported in the order of discovery. -/
  early_fails : List.Forall₂ (FailsAs subject registry color fixtures)
    (taken.filter fun turn => (loadAt? subject registry color fixtures turn).isNone) early
  /-- The compiler is called in the order of discovery, for just the fixtures that have an id of their own, a runner,
  a source that can be read and a directive line that makes sense. -/
  calls : before.filter Event.isCompilation =
    taken.filterMap fun turn => callEvent? registry fixtures turn.1 turn.2.files
  /-- No runner starts before all these calls were made. -/
  no_runner : ∀ event ∈ before, startsRunner event = false
  /-- In any order, each load settles once and comes to the same finding, and its runner starts once if it
  resolves. -/
  settles : ∀ picks, ∃ order : List Pending,
    order.Perm (taken.filterMap (loadAt? subject registry color fixtures)) ∧
    (result picks).1 = early ++ order.map (·.finding subject.loader) ∧
    (result picks).2.journal = world.journal ++ before ++ order.filterMap (·.start? subject)
  /-- Loads settle in every order. -/
  every_order : ∀ order : List Pending,
    order.Perm (taken.filterMap (loadAt? subject registry color fixtures)) →
    ∃ picks, (result picks).1 = early ++ order.map (·.finding subject.loader)
  /-- In any order, each fixture is reported once. -/
  reported : ∀ picks, ((result picks).1.map (·.fixture)).Perm (fixtures.map (·.name))

/-- The calls of the compiler are those before the first load settles. -/
theorem Dispatched.compilations {world : World} {told before : List Event} {taken : List (InteropCase × World)}
    {early : List Finding} {result : List Nat → List Finding × World}
    (h : Dispatched subject registry color fixtures world told before taken early result) (picks : List Nat) :
    (result picks).2.journal.filter Event.isCompilation = world.journal.filter Event.isCompilation ++
      taken.filterMap fun turn => callEvent? registry fixtures turn.1 turn.2.files := by
  obtain ⟨order, -, -, hjournal⟩ := h.settles picks
  have hstarts : (order.filterMap (·.start? subject)).filter Event.isCompilation = [] := by
    refine List.filter_eq_nil_iff.mpr fun event hevent => ?_
    obtain ⟨pending, -, hstart⟩ := List.mem_filterMap.mp hevent
    rw [Pending.start?] at hstart
    split at hstart
    · cases hstart
      exact Bool.false_ne_true
    · cases hstart
  rw [hjournal, List.filter_append, List.filter_append, h.calls, hstarts, List.append_nil]

variable (subject registry color fixtures)
variable (world : World)

/-- The suite from the point where its fixtures are known. -/
def dispatch : Run (List Finding) := do
  let (findings, loads) ← launch subject registry color fixtures fixtures
  let settled ← settle subject loads
  return findings ++ settled

/-- The order in which loads settle matters to nothing that comes before. -/
theorem dispatch_ordered (picks : List Nat) {findings : List Finding} {loads : List Pending} {left : World}
    (h : launch subject registry color fixtures fixtures world = ((findings, loads), left)) :
    dispatch subject registry color fixtures (world.ordered picks) =
      (findings ++ (settle subject loads (left.ordered picks)).1, (settle subject loads (left.ordered picks)).2) := by
  rw [dispatch, Run.bind_apply, orderless_launch, h]
  rfl

theorem dispatched (told : List Event) (quiet : ∀ event ∈ told, Quiet event) :
    ∃ before taken early, Dispatched subject registry color fixtures world told before taken early fun picks =>
      dispatch subject registry color fixtures ((world.noted told).ordered picks) := by
  obtain ⟨hloads, hearly⟩ := launch_answer subject registry color fixtures (world.noted told) fixtures
  obtain ⟨events, hjournal, hcalls, hevents⟩ :=
    launch_events subject registry color fixtures (world.noted told) fixtures
  have hrun := dispatch_ordered subject registry color fixtures (world.noted told)
  generalize hlaunch : launch subject registry color fixtures fixtures (world.noted told) = launched at *
  obtain ⟨⟨findings, loads⟩, left⟩ := launched
  dsimp only at hloads hearly hjournal
  have hquiet : told.filter Event.isCompilation = [] :=
    List.filter_eq_nil_iff.mpr fun event h => by simp [(quiet event h).1]
  have hsettles : ∀ picks, ∃ order : List Pending, order.Perm loads ∧
      (dispatch subject registry color fixtures ((world.noted told).ordered picks)).1 =
        findings ++ order.map (·.finding subject.loader) ∧
      (dispatch subject registry color fixtures ((world.noted told).ordered picks)).2.journal =
        world.journal ++ (told ++ events) ++ order.filterMap (·.start? subject) := by
    intro picks
    obtain ⟨order, horder, hsettle⟩ := settle_spec subject loads (left.ordered picks)
    refine ⟨order, horder, ?_, ?_⟩
    · rw [hrun picks rfl, hsettle]
    · rw [hrun picks rfl, hsettle, World.journal_ordered, World.journal_noted, World.journal_ordered, hjournal,
        World.journal_noted, List.append_assoc world.journal]
  refine ⟨told ++ events, _, findings, quiet, rfl, hearly, ?_, ?_, hloads ▸ hsettles, ?_, ?_⟩
  · rw [List.filter_append, hquiet, List.nil_append, hcalls]
  · intro event h
    rcases List.mem_append.mp h with h | h
    · exact (quiet event h).2
    · exact hevents event h
  · intro order horder
    obtain ⟨picks, hpicks⟩ := exists_picks subject horder
    exact ⟨picks, by rw [hrun picks rfl, hloads, hpicks]⟩
  · intro picks
    obtain ⟨order, horder, hresult, -⟩ := hsettles picks
    have hnames := names_perm hearly (hloads ▸ horder)
    rwa [← hresult, names_turns] at hnames

variable (environment : Environment) (options : RunOptions)

/-- What is told until the fixtures in a file tree are known. -/
def found (files : Store) : List Event :=
  files.missing environment.interopDirectory ++
    ignored environment (files.sources environment.interopDirectory environment.sourceExtension) ++
    unused options.filter registry (casesIn environment options.filter files)

theorem quiet_found (files : Store) : ∀ event ∈ found registry environment options files, Quiet event := by
  intro event h
  rcases List.mem_append.mp h with h | h
  · rcases List.mem_append.mp h with h | h
    · rw [Store.missing] at h
      split at h
      · cases h
      · rw [List.mem_singleton.mp h]
        exact ⟨rfl, rfl⟩
    · obtain ⟨file, -, rfl⟩ := List.mem_map.mp h
      exact ⟨rfl, rfl⟩
  · obtain ⟨name, -, rfl⟩ := List.mem_map.mp h
    exact ⟨rfl, rfl⟩

theorem runSuite_apply : runSuite subject environment options registry world =
    (if (casesIn environment options.filter world.files).isEmpty then pure []
      else match subject.loader.capability with
        | .unsupported reason => do
          Run.tell (.interopSkipped subject.name reason)
          return [⟨"*", .skipped reason, []⟩]
        | .supported => dispatch subject registry options.color (casesIn environment options.filter world.files) :
      Run (List Finding)) (world.noted (found registry environment options world.files)) := by
  rw [runSuite, Run.bind_apply, discover_apply, Run.bind_apply, warnUnused_apply, World.noted_noted, ← found]
  rfl

theorem runSuite_supported (h : subject.loader.capability = .supported) :
    runSuite subject environment options registry world =
      dispatch subject registry options.color (casesIn environment options.filter world.files)
        (world.noted (found registry environment options world.files)) := by
  rw [runSuite_apply]
  by_cases hempty : (casesIn environment options.filter world.files).isEmpty = true
  · rw [if_pos hempty]
    simp [dispatch, launch, settle, List.isEmpty_iff.mp hempty]
  · rw [if_neg hempty, h]

theorem runSuite_unsupported {reason : String} (h : subject.loader.capability = .unsupported reason) :
    ∃ told, (∀ event ∈ told, Quiet event) ∧ runSuite subject environment options registry world =
      (if (casesIn environment options.filter world.files).isEmpty then [] else [⟨"*", .skipped reason, []⟩],
        world.noted told) := by
  have hfound := quiet_found registry environment options world.files
  rw [runSuite_apply]
  by_cases hempty : (casesIn environment options.filter world.files).isEmpty = true
  · exact ⟨_, hfound, by rw [if_pos hempty, if_pos hempty, Run.pure_apply]⟩
  · refine ⟨found registry environment options world.files ++ [.interopSkipped subject.name reason], ?_, ?_⟩
    · intro event hevent
      rcases List.mem_append.mp hevent with hevent | hevent
      · exact hfound event hevent
      · rw [List.mem_singleton.mp hevent]
        exact ⟨rfl, rfl⟩
    · rw [if_neg hempty, if_neg hempty, h, ← World.noted_noted]
      rfl

theorem compilations_runSuite (h : subject.loader.capability = .supported) :
    (runSuite subject environment options registry world).2.journal.filter Event.isCompilation =
      world.journal.filter Event.isCompilation ++
        (turns subject registry options.color (casesIn environment options.filter world.files)
          (world.noted (found registry environment options world.files))
          (casesIn environment options.filter world.files)).filterMap fun turn =>
            callEvent? registry (casesIn environment options.filter world.files) turn.1 turn.2.files := by
  obtain ⟨before, taken, early, hdispatched⟩ := dispatched subject registry options.color
    (casesIn environment options.filter world.files) world _ (quiet_found registry environment options world.files)
  rw [runSuite_supported subject registry world environment options h, ← hdispatched.taken_eq]
  exact hdispatched.compilations world.picks

/-- If modules can be executed, each fixture is reported once and fares the same in whatever order loads settle. If
they cannot, one skipped test stands for all fixtures and nothing is compiled. -/
theorem runSuite_dispatches :
    match subject.loader.capability with
    | .supported => ∃ told before taken early,
      Dispatched subject registry options.color (discover environment options.filter world).1 world told before taken
        early fun picks => runSuite subject environment options registry (world.ordered picks)
    | .unsupported reason => ∃ told, (∀ event ∈ told, Quiet event) ∧
      runSuite subject environment options registry world =
        (if (discover environment options.filter world).1.isEmpty then [] else [⟨"*", .skipped reason, []⟩],
          world.noted told) := by
  rw [discover_apply]
  cases h : subject.loader.capability with
  | supported =>
    obtain ⟨before, taken, early, hdispatched⟩ := dispatched subject registry options.color
      (casesIn environment options.filter world.files) world _ (quiet_found registry environment options world.files)
    refine ⟨found registry environment options world.files, before, taken, early, ?_⟩
    simp only [runSuite_supported subject registry _ environment options h]
    exact hdispatched
  | unsupported reason => exact runSuite_unsupported subject registry world environment options h

/-- A tree with one interop fixture whose directive line is empty. -/
def undirected : Store :=
  ⟨[(["interop"], .directory), (["interop", "a.test.ts"], .file "//!".toUTF8)], []⟩

theorem locate_undirected : undirected.locate true ⟨"/interop"⟩ = .ok (.found ["interop"] .directory) ∧
    undirected.locate true ⟨"/interop/a.test.ts"⟩ = .ok (.found ["interop", "a.test.ts"] (.file "//!".toUTF8)) := by
  have hroot : undirected.find? [] = some .directory := rfl
  have hdirectory : undirected.find? ["interop"] = some .directory := by decide
  have hfile : undirected.find? ["interop", "a.test.ts"] = some (.file "//!".toUTF8) := by decide
  constructor
  · have hpieces : (Path.mk "/interop").pieces = ["", "interop"] := by decide
    have hfault : (Path.mk "/interop").fault? = none := Path.fault?_eq_none.mpr ⟨by simp, by simp, by decide⟩
    simp only [Store.locate, hfault, hpieces, Store.locateFrom, hroot, hdirectory, List.nil_append]
    decide
  · have hpieces : (Path.mk "/interop/a.test.ts").pieces = ["", "interop", "a.test.ts"] := by decide
    have hfault : (Path.mk "/interop/a.test.ts").fault? = none :=
      Path.fault?_eq_none.mpr ⟨by simp, by simp, by decide⟩
    simp only [Store.locate, hfault, hpieces, Store.locateFrom, hroot, hdirectory, hfile, List.nil_append,
      List.cons_append]
    decide

theorem sources_undirected : undirected.sources ⟨"/interop"⟩ "ts" = [⟨"a.test", ⟨"/interop/a.test.ts"⟩⟩] := by
  simp only [Store.sources, Store.holds, Store.sourceFiles, Store.filesUnder, locate_undirected.1]
  decide

theorem directed?_undirected : directed? ⟨"a", "a", ⟨"/interop/a.test.ts"⟩⟩ undirected = none := by
  simp only [directed?, Store.readText, Store.read, locate_undirected.2]
  decide

/-- Without a directive line that makes sense the compiler is not called, runner or not. -/
theorem not_compiled_of_undirected :
    ∃ (subject : Subject) (registry : Registry) (environment : Environment) (options : RunOptions) (world : World)
      (fixture : InteropCase), subject.loader.capability = .supported ∧
      (discover environment options.filter world).1 = [fixture] ∧ (registry.get? fixture.id).isSome ∧
      (runSuite subject environment options registry world).2.journal.filter Event.isCompilation = [] := by
  have hcases : casesIn ⟨⟨"/compiler"⟩, ⟨"/interop"⟩, "ts", "wat", "test", ""⟩ .all undirected =
      [⟨"a", "a", ⟨"/interop/a.test.ts"⟩⟩] := by
    rw [casesIn, sources_undirected]
    decide +kernel
  refine ⟨⟨"dev", ⟨fun _ _ => pure ⟨.error (.panic none), []⟩⟩,
    ⟨fun _ _ => pure (.ok .empty), fun _ _ => pure (.ok "")⟩, ⟨.supported, fun _ => .rejected (.plain "")⟩⟩,
    ⟨[("a", .finish)]⟩, ⟨⟨"/compiler"⟩, ⟨"/interop"⟩, "ts", "wat", "test", ""⟩, ⟨false, false, .all⟩,
    .start undirected [], ⟨"a", "a", ⟨"/interop/a.test.ts"⟩⟩, rfl, ?_, by decide, ?_⟩
  · rw [discover_apply]
    exact hcases
  · have hcall : call? ⟨[("a", .finish)]⟩ [⟨"a", "a", ⟨"/interop/a.test.ts"⟩⟩] ⟨"a", "a", ⟨"/interop/a.test.ts"⟩⟩
        undirected = none := by
      rw [call?, directed?_undirected]
      decide
    rw [compilations_runSuite _ _ _ _ _ rfl, show (World.start undirected []).files = undirected from rfl, hcases,
      turns, Run.along, Run.along, List.filterMap_cons, callEvent?, World.files_noted]
    rw [show (World.start undirected []).files = undirected from rfl, hcall]
    rfl

end GoldenBench.Interop
