import GoldenBench.Proofs.Additions
import GoldenBench.Proofs.Interop.Dispatch
import GoldenBench.Proofs.Isolation.Fixtures

/-!
# What is reported

Whatever becomes of a fixture, it is reported: a tool that fails or is interrupted costs no report, neither its own nor
any later one. Which reports there are is decided by what is discovered, by the filter and by whether modules can be
executed (`inventory`).

* `Snapshot.names_runSuite`, `Interop.names_runSuite`, `Smoke.names_runSuite` and `RoundTrip.names_runSuite`: the
  reports of each suite.
* `Session.runSubject_inventory`: the reports of a subject.
* `Session.runAll_inventory`: the reports of a whole run.
-/

namespace GoldenBench

variable {environment : Environment} {options : RunOptions} {registry : Registry} {subject : Subject}

/-! ## The reports that there are to be -/

/-- The names of reports on fixtures of a suite. -/
def reportNames (subject suite : String) (fixtures : List String) : List String :=
  fixtures.map fun fixture => subject ++ "/" ++ suite ++ "/" ++ fixture

/-- What the reports on interop fixtures go by: their names, or one asterisk for all of them if modules cannot be
executed. -/
def Interop.reported (capability : Capability) (fixtures : List InteropCase) : List String :=
  match capability with
  | .supported => fixtures.map (·.name)
  | .unsupported _ => if fixtures.isEmpty then [] else ["*"]

/-- A name, if the filter accepts it. -/
def Filter.accepted (filter : Filter) (name : String) : List String :=
  if filter.accepts name then [name] else []

/-- The names of the reports that there are to be on a subject, given the fixtures that are discovered. -/
def inventory (subject : Subject) (filter : Filter) (snapshots : List SnapshotCase) (interop : List InteropCase) :
    List String :=
  reportNames subject.name "compiler" (snapshots.map (·.name)) ++
    reportNames subject.name "interop" (Interop.reported subject.loader.capability interop) ++
    reportNames subject.name "smoke" (filter.accepted "string-compile") ++
    reportNames subject.name "roundtrip" (filter.accepted "text-binary-text")

/-- A summary is that of a subject and has just the reports that there are to be, each as often. -/
structure Inventoried (filter : Filter) (subject : Subject) (snapshots : List SnapshotCase)
    (interop : List InteropCase) (summary : Summary) : Prop where
  /-- The summary goes by the subject. -/
  named : summary.subject = subject.name
  /-- It has these reports. -/
  reports : (summary.reports.map (·.name)).Perm (inventory subject filter snapshots interop)

theorem names_reports (subject suite : String) (findings : List Finding) :
    (findings.map (·.report subject suite)).map (·.name) = reportNames subject suite (findings.map (·.fixture)) := by
  rw [reportNames, List.map_map, List.map_map]
  rfl

/-! ## The reports of each suite -/

/-- A run that an extension does not end at once discovers nothing if that extension has a slash in it. -/
theorem Snapshot.casesIn_of_discovers (h : Path.isBadExtension environment.goldenExtension = true) {filter : Filter}
    {world : World} {fixtures : List SnapshotCase} (hrun : (discover environment filter world).1 = .ok fixtures) :
    casesIn environment filter world.files = [] ∧ fixtures = [] := by
  simp only [discover, Run.bind_apply, Run.sourceFiles_apply, h, Bool.and_true] at hrun
  cases hsources : world.files.sources environment.fixturesDirectory environment.sourceExtension with
  | nil =>
    rw [hsources] at hrun
    cases hrun
    refine ⟨?_, rfl⟩
    rw [casesIn, hsources]
    rfl
  | cons first rest =>
    rw [hsources] at hrun
    cases hrun

/-- Every snapshot fixture that is discovered is reported, in the order of discovery. -/
theorem Snapshot.names_runSuite {world : World} {findings : List Finding}
    (hrun : (runSuite subject environment options world).1 = .ok findings) :
    findings.map (·.fixture) = (casesIn environment options.filter world.files).map (·.name) := by
  cases hextension : Path.isBadExtension environment.goldenExtension with
  | true =>
    rw [runSuite, Run.bind_apply] at hrun
    cases hfound : (discover environment options.filter world).1 with
    | error abort =>
      rw [hfound] at hrun
      cases hrun
    | ok fixtures =>
      obtain ⟨hnone, rfl⟩ := casesIn_of_discovers hextension hfound
      rw [hfound] at hrun
      cases hrun
      rw [hnone]
      rfl
  | false =>
    rw [runSuite_apply hextension] at hrun
    cases hrun
    have hturns := Run.map_fst_along (world.noted (world.files.missing environment.fixturesDirectory))
      (fun fixture => runCase subject fixture options) (casesIn environment options.filter world.files)
    rw [Run.mapM_eq, List.map_map]
    conv_rhs => rw [← hturns, List.map_map]
    exact List.map_congr_left fun turn _ => runCase_fixture turn.1 turn.2

/-- Every interop fixture that is discovered is reported once, in whatever order loads settle. -/
theorem Interop.names_runSuite (subject : Subject) (registry : Registry) (environment : Environment)
    (options : RunOptions) (world : World) :
    ((runSuite subject environment options registry world).1.map (·.fixture)).Perm
      (reported subject.loader.capability (casesIn environment options.filter world.files)) := by
  cases hcapability : subject.loader.capability with
  | supported =>
    obtain ⟨before, taken, early, hdispatched⟩ := dispatched subject registry options.color
      (casesIn environment options.filter world.files) world _ (quiet_found registry environment options world.files)
    rw [runSuite_supported subject registry world environment options hcapability]
    exact hdispatched.reported world.picks
  | unsupported reason =>
    obtain ⟨told, -, hrun⟩ := runSuite_unsupported subject registry world environment options hcapability
    rw [hrun, reported]
    split
    · exact .refl _
    · exact .refl _

theorem Smoke.fixture_run (subject : Subject) (environment : Environment) (color : Bool) (world : World) :
    (run subject environment color world).1.fixture = name := by
  rw [run, Run.bind_apply]
  rcases Invocation.run subject.compiler (.memory fileName environment.smokeSource) .base world with ⟨invocation, left⟩
  cases invocation.result with
  | error failure => rfl
  | ok made =>
    dsimp only
    split
    · rfl
    · rw [Run.bind_apply]
      rcases ((liftM made.optimizeOnce : Run _) left).1 with chain | ⟨_ | ⟨diagnostic, diagnostics⟩, emitted⟩
      · rfl
      · rfl
      · rfl

/-- The smoke test is reported just if the filter accepts it. -/
theorem Smoke.names_runSuite (subject : Subject) (environment : Environment) (options : RunOptions) (world : World) :
    (runSuite subject environment options world).1.map (·.fixture) = options.filter.accepted name := by
  rw [runSuite, Filter.accepted]
  cases options.filter.accepts name with
  | false => rfl
  | true => exact congrArg (fun fixture => [fixture]) (fixture_run subject environment options.color _)

/-- The round trip is reported just if the filter accepts it. -/
theorem RoundTrip.names_runSuite (subject : Subject) (options : RunOptions) (world : World) :
    (runSuite subject options world).1.map (·.fixture) = options.filter.accepted name := by
  rw [runSuite, Filter.accepted]
  cases options.filter.accepts name with
  | false => rfl
  | true => rfl

/-! ## The reports of a run -/

namespace Session

/-- A subject is reported on what its suites discover when they start. -/
theorem runSubject_inventory {world : World} {summary : Summary}
    (hrun : (runSubject subject environment options registry world).1 = .ok summary) :
    Inventoried options.filter subject (Snapshot.casesIn environment options.filter world.files)
      (Interop.casesIn environment options.filter (afterSnapshots subject environment options world).files)
      summary := by
  obtain ⟨snapshots, hsnapshots, rfl⟩ := runSubject_eq_ok subject environment options registry world hrun
  have hinterop := Interop.names_runSuite subject registry environment options
    (afterSnapshots subject environment options world)
  have hnames := Snapshot.names_runSuite hsnapshots
  refine ⟨rfl, ?_⟩
  rw [List.map_append, List.map_append, List.map_append, names_reports, names_reports, names_reports, names_reports,
    hnames, Smoke.names_runSuite, RoundTrip.names_runSuite]
  exact (((hinterop.map _).append_left _).append_right _).append_right _

/-- A run has one summary for each subject, in order. -/
theorem runAll_inventories {subjects : List Subject} {world : World} {summaries : List Summary}
    (hrun : (runAll environment options registry subjects world).1 = .ok summaries) :
    List.Forall₂ (fun turn summary => Inventoried options.filter turn.1
        (Snapshot.casesIn environment options.filter turn.2.files)
        (Interop.casesIn environment options.filter (afterSnapshots turn.1 environment options turn.2).files) summary)
      (turns environment options registry world subjects) summaries := by
  induction subjects generalizing world summaries with
  | nil =>
    cases hrun
    exact .nil
  | cons subject rest ih =>
    obtain ⟨summary, others, hfirst, hrest, rfl⟩ :=
      runAll_cons_eq_ok subject environment options registry world hrun
    exact .cons (runSubject_inventory hfirst) (ih hrest)

/-- With tidy tools all subjects discover the same fixtures. -/
theorem casesIn_turns {initial : Store} (henv : environment.SetsApart) (hplain : initial.IsPlain)
    {subjects : List Subject} (htidy : ∀ subject ∈ subjects, subject.Tidy) (registry : Registry) {world : World}
    (h : GoldensAdded environment options.filter initial world.files) :
    ∀ turn ∈ turns environment options registry world subjects,
      Snapshot.casesIn environment options.filter turn.2.files = Snapshot.casesIn environment options.filter initial ∧
      Interop.casesIn environment options.filter (afterSnapshots turn.1 environment options turn.2).files =
        Interop.casesIn environment options.filter initial := by
  induction subjects generalizing world with
  | nil => simp [turns, Run.along]
  | cons subject rest ih =>
    obtain ⟨hsnapshots, hleft⟩ := h.runSubject henv hplain (htidy subject List.mem_cons_self) registry
    rintro turn (_ | ⟨_, hturn⟩)
    · exact ⟨h.casesIn_eq henv hplain _, hsnapshots.interop_casesIn_eq henv hplain _⟩
    · exact ih (fun subject hmem => htidy subject (List.mem_cons_of_mem _ hmem)) hleft turn hturn

/-- Whatever the tools of the subjects do, a run comes to its end with one summary for each subject, in order. The
reports of a subject are one for each snapshot fixture that it discovers, one for each interop fixture that it
discovers or a single one for all of them if modules cannot be executed, and those on the smoke test and the round trip
that the filter accepts. With tidy tools every subject discovers the fixtures of the file tree that the run starts
with. -/
theorem runAll_inventory (world : World) (h : Path.isBadExtension environment.goldenExtension = false)
    (options : RunOptions) (registry : Registry) (subjects : List Subject) :
    ∃ summaries, (runAll environment options registry subjects world).1 = .ok summaries ∧
      (turns environment options registry world subjects).map (·.1) = subjects ∧
      List.Forall₂ (fun turn summary => Inventoried options.filter turn.1
          (Snapshot.casesIn environment options.filter turn.2.files)
          (Interop.casesIn environment options.filter (afterSnapshots turn.1 environment options turn.2).files) summary)
        (turns environment options registry world subjects) summaries ∧
      (environment.SetsApart → world.files.IsPlain → (∀ subject ∈ subjects, subject.Tidy) →
        List.Forall₂ (fun subject summary => Inventoried options.filter subject
            (Snapshot.casesIn environment options.filter world.files)
            (Interop.casesIn environment options.filter world.files) summary) subjects summaries) := by
  obtain ⟨summaries, hrun, -⟩ := runAll_spec environment options registry world h subjects
  have hall := runAll_inventories hrun
  have hsubjects : (turns environment options registry world subjects).map (·.1) = subjects :=
    Run.map_fst_along world _ subjects
  refine ⟨summaries, hrun, hsubjects, hall, fun henv hplain htidy => ?_⟩
  -- wherever a turn starts, only golden files have been added
  have hcases : ∀ turn ∈ turns environment options registry world subjects, _ :=
    casesIn_turns henv hplain htidy registry (.refl hplain)
  rw [← hsubjects]
  refine List.forall₂_map_left_iff.mpr (((List.forall₂_and_left _ _).mpr ⟨hcases, hall⟩).imp ?_)
  rintro turn summary ⟨⟨hsnapshots, hinterop⟩, hinventoried⟩
  rwa [hsnapshots, hinterop] at hinventoried

/-- A subject all of whose tools are interrupted is reported on as the next one is, but for interop fixtures: its
modules cannot be executed. -/
theorem runAll_interrupted_inventory :
    Path.isBadExtension Snapshot.rootEnvironment.goldenExtension = false ∧
      ∃ first second, (runAll Snapshot.rootEnvironment ⟨false, false, .all⟩ .empty [interrupted, executing]
          (.start (Snapshot.twoSources "".toUTF8) [])).1 = .ok [first, second] ∧
        (first.reports.map (·.name)).Perm ["old/compiler/a.test", "old/compiler/b.test", "old/interop/*",
          "old/smoke/string-compile", "old/roundtrip/text-binary-text"] ∧
        (second.reports.map (·.name)).Perm ["dev/compiler/a.test", "dev/compiler/b.test", "dev/interop/a",
          "dev/interop/b", "dev/smoke/string-compile", "dev/roundtrip/text-binary-text"] := by
  have hextension := Snapshot.setsApart_rootEnvironment.isBadExtension
  obtain ⟨summaries, hrun, -, -, htidy⟩ := runAll_inventory (.start (Snapshot.twoSources "".toUTF8) []) hextension
    ⟨false, false, .all⟩ .empty [interrupted, executing]
  have hall := htidy Snapshot.setsApart_rootEnvironment (Snapshot.isPlain_twoSources _) fun subject hmem => by
    rcases List.mem_pair.mp hmem with rfl | rfl
    · exact tidy_interrupted
    · exact tidy_faultless.withLoader
  rw [World.start, Snapshot.casesIn_twoSources, interopCases_twoSources] at hall
  obtain ⟨first, rest, ⟨-, hfirst⟩, hrest, rfl⟩ := List.forall₂_cons_left_iff.mp hall
  obtain ⟨second, others, ⟨-, hsecond⟩, hothers, rfl⟩ := List.forall₂_cons_left_iff.mp hrest
  obtain rfl := List.forall₂_nil_left_iff.mp hothers
  exact ⟨hextension, first, second, hrun, hfirst, hsecond⟩

end Session

end GoldenBench
