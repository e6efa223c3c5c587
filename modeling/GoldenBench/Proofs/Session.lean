import GoldenBench.Program.Basic
import GoldenBench.Proofs.Interop.Passing
import GoldenBench.Proofs.Isolation.Steps
import GoldenBench.Proofs.Probes
import GoldenBench.Proofs.Seats

/-!
# No failure is masked

* `runSubject_passes_iff`: no test of a subject fails just if the subject is in order (`InOrder`).
* `runAll_passes_iff`: a run succeeds just if every subject is in order when its turn comes.
-/

namespace GoldenBench.Session

variable (subject : Subject) (environment : Environment) (options : RunOptions) (registry : Registry)
variable (world : World)

/-! ## One subject -/

/-- The world in which the snapshot fixtures of a subject start. -/
def started : World :=
  world.noted [.subjectStarted subject.name]

/-- The world that the snapshot fixtures leave. -/
def afterSnapshots : World :=
  (Snapshot.runSuite subject environment options (started subject world)).2

/-- The world that the interop fixtures leave. -/
def afterInterop : World :=
  (Interop.runSuite subject environment options registry (afterSnapshots subject environment options world)).2

/-- The world that the smoke test leaves. -/
def afterSmoke : World :=
  (Smoke.runSuite subject environment options (afterInterop subject environment options registry world)).2

/-- A subject is in order at its turn. -/
structure InOrder : Prop where
  /-- Every snapshot fixture that is discovered when the subject starts is in order. -/
  snapshots : ∀ turn ∈ Snapshot.turns subject options (started subject world) environment,
    Snapshot.InOrder subject options turn
  /-- There is no interop fixture, modules cannot be executed, or every interop fixture is in order. -/
  interop : Interop.casesIn environment options.filter (afterSnapshots subject environment options world).files = [] ∨
    (∃ reason, subject.loader.capability = .unsupported reason) ∨
    ∀ turn ∈ Interop.turnsIn subject registry environment options (afterSnapshots subject environment options world),
      Interop.InOrder subject registry
        (Interop.casesIn environment options.filter (afterSnapshots subject environment options world).files) turn
  /-- The compiler is in order, unless the smoke test is filtered out. -/
  smoke : options.filter.accepts Smoke.name = true →
    Smoke.InOrder subject environment (afterInterop subject environment options registry world)
  /-- The converter is in order, unless the round trip is filtered out. -/
  roundTrip : options.filter.accepts RoundTrip.name = true →
    RoundTrip.InOrder subject.converter (afterSmoke subject environment options registry world) RoundTrip.builtIn

theorem allPassed_iff (summary : Summary) :
    summary.allPassed = true ↔ ∀ report ∈ summary.reports, report.outcome.isFailed = false := by
  rw [Summary.allPassed, beq_iff_eq, Summary.count, List.length_eq_zero_iff, List.filter_eq_nil_iff]
  simp only [Bool.not_eq_true]

theorem reports_pass_iff (suite : String) (findings : List Finding) :
    (∀ report ∈ findings.map (·.report subject.name suite), report.outcome.isFailed = false) ↔
      ∀ finding ∈ findings, finding.outcome.isFailed = false := by
  rw [List.forall_mem_map]
  rfl

/-- What comes of a subject once its snapshot fixtures have come to their end. -/
theorem runSubject_apply {snapshots : List Finding}
    (h : (Snapshot.runSuite subject environment options (started subject world)).1 = .ok snapshots) :
    runSubject subject environment options registry world = (.ok ⟨subject.name,
      snapshots.map (·.report subject.name Snapshot.suite) ++
      (Interop.runSuite subject environment options registry
        (afterSnapshots subject environment options world)).1.map (·.report subject.name Interop.suite) ++
      (Smoke.runSuite subject environment options
        (afterInterop subject environment options registry world)).1.map (·.report subject.name Smoke.suite) ++
      (RoundTrip.runSuite subject options
        (afterSmoke subject environment options registry world)).1.map (·.report subject.name RoundTrip.suite)⟩,
      (RoundTrip.runSuite subject options (afterSmoke subject environment options registry world)).2) := by
  rw [runSubject, Run.bind_apply, Run.tell_apply, Run.bind_apply]
  simp only [started] at h
  rw [h]
  rfl

/-- The summary of a subject holds what its suites come to. -/
theorem runSubject_eq_ok {summary : Summary}
    (h : (runSubject subject environment options registry world).1 = .ok summary) :
    ∃ snapshots, (Snapshot.runSuite subject environment options (started subject world)).1 = .ok snapshots ∧
      summary = ⟨subject.name, snapshots.map (·.report subject.name Snapshot.suite) ++
        (Interop.runSuite subject environment options registry
          (afterSnapshots subject environment options world)).1.map (·.report subject.name Interop.suite) ++
        (Smoke.runSuite subject environment options
          (afterInterop subject environment options registry world)).1.map (·.report subject.name Smoke.suite) ++
        (RoundTrip.runSuite subject options
          (afterSmoke subject environment options registry world)).1.map (·.report subject.name RoundTrip.suite)⟩ := by
  cases hsnapshots : (Snapshot.runSuite subject environment options (started subject world)).1 with
  | ok snapshots =>
    rw [runSubject_apply subject environment options registry world hsnapshots] at h
    cases h
    exact ⟨snapshots, rfl, rfl⟩
  | error abort =>
    rw [runSubject, Run.bind_apply, Run.tell_apply, Run.bind_apply] at h
    rw [started] at hsnapshots
    rw [hsnapshots] at h
    cases h

/-- A subject comes to its end, and no test of it fails just if it is in order. -/
theorem runSubject_passes_iff (h : Path.isBadExtension environment.goldenExtension = false) :
    ∃ summary, (runSubject subject environment options registry world).1 = .ok summary ∧
      (summary.allPassed = true ↔ InOrder subject environment options registry world) := by
  obtain ⟨snapshots, hsnapshots, hpass⟩ := Snapshot.runSuite_passes_iff subject options (started subject world)
    environment h
  have hinterop := Interop.runSuite_passes_iff subject registry environment options
    (afterSnapshots subject environment options world)
  have hsmoke := Smoke.runSuite_passes_iff subject environment
    (afterInterop subject environment options registry world) options
  have hround := RoundTrip.runSuite_passes_iff (afterSmoke subject environment options registry world) subject options
  refine ⟨_, congrArg Prod.fst (runSubject_apply subject environment options registry world hsnapshots), ?_⟩
  rw [allPassed_iff]
  simp only [List.forall_mem_append, reports_pass_iff, hpass, hinterop, hsmoke, hround]
  constructor
  · rintro ⟨⟨⟨hsnapshots, hinterop⟩, hsmoke⟩, hround⟩
    exact ⟨hsnapshots, hinterop, hsmoke, hround⟩
  · rintro ⟨hsnapshots, hinterop, hsmoke, hround⟩
    exact ⟨⟨⟨hsnapshots, hinterop⟩, hsmoke⟩, hround⟩

/-! ## All subjects -/

/-- The subjects with the worlds in which their turns start. -/
def turns (subjects : List Subject) : List (Subject × World) :=
  Run.along (fun subject => runSubject subject environment options registry) subjects world

theorem runAll_cons_apply {summary : Summary} {summaries : List Summary} {rest : List Subject}
    (hfirst : (runSubject subject environment options registry world).1 = .ok summary)
    (hrest : (runAll environment options registry rest
      (runSubject subject environment options registry world).2).1 = .ok summaries) :
    runAll environment options registry (subject :: rest) world = (.ok (summary :: summaries),
      (runAll environment options registry rest (runSubject subject environment options registry world).2).2) := by
  rw [runAll, Run.bind_apply, hfirst]
  simp only [Run.bind_apply, hrest]
  rfl

theorem runAll_cons_eq_ok {summaries : List Summary} {rest : List Subject}
    (h : (runAll environment options registry (subject :: rest) world).1 = .ok summaries) :
    ∃ summary others, (runSubject subject environment options registry world).1 = .ok summary ∧
      (runAll environment options registry rest
        (runSubject subject environment options registry world).2).1 = .ok others ∧ summaries = summary :: others := by
  rw [runAll, Run.bind_apply] at h
  cases hfirst : (runSubject subject environment options registry world).1 with
  | error abort =>
    rw [hfirst] at h
    cases h
  | ok summary =>
    rw [hfirst] at h
    simp only [Run.bind_apply] at h
    cases hrest : (runAll environment options registry rest
        (runSubject subject environment options registry world).2).1 with
    | error abort =>
      rw [hrest] at h
      cases h
    | ok others =>
      rw [hrest] at h
      cases h
      exact ⟨summary, others, rfl, rfl, rfl⟩

theorem runAll_spec (h : Path.isBadExtension environment.goldenExtension = false) (subjects : List Subject) :
    ∃ summaries, (runAll environment options registry subjects world).1 = .ok summaries ∧
      ((∀ summary ∈ summaries, summary.allPassed = true) ↔
        ∀ turn ∈ turns environment options registry world subjects,
          InOrder turn.1 environment options registry turn.2) := by
  induction subjects generalizing world with
  | nil => exact ⟨[], rfl, by simp [turns, Run.along]⟩
  | cons subject rest ih =>
    obtain ⟨summary, hrun, hpass⟩ := runSubject_passes_iff subject environment options registry world h
    obtain ⟨summaries, hrest, hpasses⟩ := ih (runSubject subject environment options registry world).2
    refine ⟨summary :: summaries, ?_, ?_⟩
    · rw [runAll_cons_apply subject environment options registry world hrun hrest]
    · rw [List.forall_mem_cons, hpass, hpasses, turns, turns, Run.along, List.forall_mem_cons]

/-- The program exits with 0 just if no test failed, and else with 1. -/
theorem status_finished (summaries : List Summary) :
    ((Ending.finished summaries).status = 0 ↔ ∀ summary ∈ summaries, summary.allPassed = true) ∧
      ((Ending.finished summaries).status = 0 ∨ (Ending.finished summaries).status = 1) := by
  have hstatus : (Ending.finished summaries).status =
      if ∀ summary ∈ summaries, summary.allPassed = true then 0 else 1 := by
    simp only [Ending.status, List.all_eq_true]
  rw [hstatus]
  split
  · rename_i hpass
    exact ⟨⟨fun _ => hpass, fun _ => rfl⟩, .inl rfl⟩
  · rename_i hfail
    exact ⟨⟨fun h => absurd h (by decide), fun hpass => absurd hpass hfail⟩, .inr rfl⟩

/-- A run comes to its end, and no test of any subject fails just if every subject is in order when its turn comes.
Then the program exits with 0, and else with 1. -/
theorem runAll_passes_iff (h : Path.isBadExtension environment.goldenExtension = false) (subjects : List Subject) :
    ∃ summaries, (runAll environment options registry subjects world).1 = .ok summaries ∧
      ((∀ summary ∈ summaries, summary.allPassed = true) ↔
        ∀ turn ∈ turns environment options registry world subjects,
          InOrder turn.1 environment options registry turn.2) ∧
      ((Ending.finished summaries).status = 0 ↔
        ∀ turn ∈ turns environment options registry world subjects,
          InOrder turn.1 environment options registry turn.2) ∧
      ((Ending.finished summaries).status = 0 ∨ (Ending.finished summaries).status = 1) ∧
      ∀ host loader configuration specs, configuration.environment = environment →
        specs.map (External.subject host · configuration.base loader) = subjects →
        (Program.runSubjects host loader configuration options registry specs world).1 = .finished summaries := by
  obtain ⟨summaries, hrun, hpasses⟩ := runAll_spec environment options registry world h subjects
  obtain ⟨hzero, hstatus⟩ := status_finished summaries
  refine ⟨summaries, hrun, hpasses, hzero.trans hpasses, hstatus, ?_⟩
  rintro host loader configuration specs rfl rfl
  rw [Program.runSubjects, Run.bind_apply, hrun]
  rfl

/-- A subject whose tools never fail. -/
def faultless : Subject :=
  let emission : Emission := ⟨.ok (), .ok "(module)", .ok .empty⟩
  ⟨"dev", ⟨fun _ _ => pure ⟨.ok ⟨emission, [], fun kept => pure (.ok ([], emission), kept)⟩, []⟩⟩,
    ⟨fun _ _ => pure (.ok .empty), fun _ _ => pure (.ok RoundTrip.builtIn)⟩, .unsupported "no runtime"⟩

/-- A subject all of whose tools are interrupted. -/
def interrupted : Subject :=
  ⟨"old", ⟨fun _ _ => pure ⟨.error (.panic none), []⟩⟩,
    ⟨fun _ _ => pure (.error (.panic none)), fun _ _ => pure (.error (.panic none))⟩, .unsupported "no runtime"⟩

/-! ## Two sources with their golden files -/

open Snapshot (rootEnvironment firstCase secondCase)

/-- The same subject, with a loader that never fails either. -/
def capable : Subject :=
  { faultless with loader := ⟨.supported, fun _ => .loaded ⟨Unit, (), [], fun _ _ _ => (.values [], ())⟩⟩ }

/-- Runners that come to their end at once. -/
def finishing : Registry :=
  ⟨[("a", .finish), ("b", .finish)]⟩

/-- The fixtures of these runners. -/
def paired : List InteropCase :=
  [⟨"a", "a", firstCase.source⟩, ⟨"b", "b", secondCase.source⟩]

/-- A tree with two sources and their golden files. -/
def settled : Store :=
  ⟨[(["a.test.ts"], .file "".toUTF8), (["a.test.wat"], .file "(module)".toUTF8), (["b.test.ts"], .file "".toUTF8),
    (["b.test.wat"], .file "(module)".toUTF8)], []⟩

theorem sources_settled : settled.sources ⟨"/"⟩ "ts" = [⟨"a.test", ⟨"/a.test.ts"⟩⟩, ⟨"b.test", ⟨"/b.test.ts"⟩⟩] := by
  rw [Store.sources_of_directory (Snapshot.locate_root _)]
  simp only [settled, List.filterMap_cons, Snapshot.sourceAt?_root, List.filterMap_nil]
  decide

theorem snapshots_settled : Snapshot.casesIn rootEnvironment .all settled = [firstCase, secondCase] := by
  rw [Snapshot.casesIn, rootEnvironment, sources_settled]
  decide

theorem interop_settled : Interop.casesIn rootEnvironment .all settled = paired := by
  rw [Interop.casesIn, rootEnvironment, sources_settled]
  decide

theorem readText_settled : ∀ fixture ∈ [firstCase, secondCase],
    settled.readText fixture.source = .ok "" ∧ settled.readText fixture.golden = .ok "(module)" := by
  have hfaults := Snapshot.fault?_twoSources
  simp only [List.forall_mem_cons, List.not_mem_nil, false_implies, implies_true, and_true] at hfaults ⊢
  obtain ⟨⟨hsource, hgolden⟩, hsource', hgolden'⟩ := hfaults
  exact ⟨⟨Golden.readText_root "a.test.ts" (by decide) (by decide) ⟨hsource, by decide⟩ rfl,
    Golden.readText_root "a.test.wat" (by decide) (by decide) ⟨hgolden, by decide⟩ rfl⟩,
    Golden.readText_root "b.test.ts" (by decide) (by decide) ⟨hsource', by decide⟩ rfl,
    Golden.readText_root "b.test.wat" (by decide) (by decide) ⟨hgolden', by decide⟩ rfl⟩

/-- A snapshot fixture is in order wherever the tree is this one, and leaves it as it is. -/
theorem snapshot_settled {fixture : SnapshotCase} (hfixture : fixture ∈ [firstCase, secondCase]) {world : World}
    (hfiles : world.files = settled) : Snapshot.InOrder capable ⟨false, false, .all⟩ (fixture, world) ∧
      (Snapshot.runCase capable fixture ⟨false, false, .all⟩ world).2.files = settled := by
  obtain ⟨hsource, hgolden⟩ := readText_settled fixture hfixture
  rw [← hfiles] at hsource
  have hoptions : Directive.options "".toList = .ok .base := rfl
  obtain ⟨-, hleft⟩ := Snapshot.runCase_made capable ⟨false, false, .all⟩ fixture world hsource hoptions rfl
  have hend : (Snapshot.runCase capable fixture ⟨false, false, .all⟩ world).2.files = settled := by
    rw [hleft]
    simp only [Snapshot.checkModule, capable, faultless]
    rw [Run.bind_apply, Run.pure_apply, (Golden.compare_apply _ _ _ _).2, Golden.judge_files]
    exact hfiles
  exact ⟨⟨_, _, _, "(module)", "(module)", hsource, hoptions, rfl, rfl, rfl, hend ▸ hgolden, rfl⟩, hend⟩

/-- An interop fixture is in order wherever the tree is this one. -/
theorem interop_inOrder_settled {fixture : InteropCase} (hfixture : fixture ∈ paired) {world : World}
    (hfiles : world.files = settled) : Interop.InOrder capable finishing paired (fixture, world) := by
  have hoptions : Directive.options "".toList = .ok .base := rfl
  rcases List.mem_pair.mp hfixture with rfl | rfl
  · have hread : world.files.readText firstCase.source = .ok "" := hfiles ▸ (readText_settled firstCase (by simp)).1
    exact ⟨_, _, _, _, _, _, _, by simp [paired], rfl, hread, hoptions, rfl, rfl, rfl, rfl, rfl⟩
  · have hread : world.files.readText secondCase.source = .ok "" := hfiles ▸ (readText_settled secondCase (by simp)).1
    exact ⟨_, _, _, _, _, _, _, by simp [paired], rfl, hread, hoptions, rfl, rfl, rfl, rfl, rfl⟩

/-- Where the tree is this one, the subject is in order. -/
theorem inOrder_capable {world : World} (hfiles : world.files = settled) :
    InOrder capable rootEnvironment ⟨false, false, .all⟩ finishing world := by
  have hstart : (started capable world).files = settled := hfiles
  have hsnapshots := @Run.along_keeps _ _ ((started capable world).noted
      (settled.missing rootEnvironment.fixturesDirectory)) (fun now => now.files = settled)
    (fun fixture => Snapshot.runCase capable fixture ⟨false, false, .all⟩) [firstCase, secondCase]
    (fun fixture hfixture now hnow => (snapshot_settled hfixture hnow).2) hstart
  obtain ⟨hturns, hend⟩ := hsnapshots
  have hleft : (afterSnapshots capable rootEnvironment ⟨false, false, .all⟩ world).files = settled := by
    rw [afterSnapshots, Snapshot.runSuite_apply Snapshot.setsApart_rootEnvironment.isBadExtension, hstart,
      snapshots_settled]
    exact hend
  refine ⟨fun turn hturn => ?_, .inr (.inr fun turn hturn => ?_), fun _ => ?_, fun _ => ⟨.empty, rfl, rfl⟩⟩
  · rw [Snapshot.turns, hstart, snapshots_settled] at hturn
    obtain ⟨hfixture, hnow⟩ := hturns turn hturn
    exact (snapshot_settled hfixture hnow).1
  · rw [Interop.turnsIn, hleft, interop_settled] at hturn
    rw [hleft, interop_settled]
    have htidy : ∀ fixture ∈ paired, Run.Tidy (Interop.launchCase capable finishing false paired fixture) := fun _ _ =>
      Interop.launchCase_composed Run.composes_tidy (Run.tidy_tell _)
        (Interop.compileCase_composed Run.composes_tidy (Run.tidy_readText _) fun _ _ => rfl)
    obtain ⟨hfixture, hnow⟩ := (Run.files_along htidy _).1 turn hturn
    exact interop_inOrder_settled hfixture (hnow.trans hleft)
  · exact ⟨_, _, _, "(module)", rfl, rfl, rfl, rfl, by decide +kernel⟩

/-- A subject whose tools are interrupted is not in order. -/
theorem not_inOrder_interrupted (environment : Environment) (create color : Bool) (registry : Registry)
    (world : World) : ¬ InOrder interrupted environment ⟨create, color, .all⟩ registry world := by
  intro h
  obtain ⟨made, -, -, -, hmade, -⟩ := h.smoke rfl
  cases hmade

/-- A subject whose tools never fail passes on two sources with their golden files, and the program exits with 0. Beside
a subject whose tools are interrupted, it exits with 1. -/
theorem runAll_faultless :
    Path.isBadExtension rootEnvironment.goldenExtension = false ∧
      (∃ summaries, (runAll rootEnvironment ⟨false, false, .all⟩ finishing [capable] (.start settled [])).1 =
          .ok summaries ∧ (Ending.finished summaries).status = 0) ∧
      ∃ summaries, (runAll rootEnvironment ⟨false, false, .all⟩ finishing [capable, interrupted]
          (.start settled [])).1 = .ok summaries ∧ (Ending.finished summaries).status = 1 := by
  have hextension := Snapshot.setsApart_rootEnvironment.isBadExtension
  refine ⟨hextension, ?_, ?_⟩
  · obtain ⟨summaries, hrun, -, hstatus, -⟩ := runAll_passes_iff rootEnvironment ⟨false, false, .all⟩ finishing
      (.start settled []) hextension [capable]
    refine ⟨summaries, hrun, hstatus.mpr fun turn hturn => ?_⟩
    obtain rfl := List.mem_singleton.mp hturn
    exact inOrder_capable rfl
  · obtain ⟨summaries, hrun, -, hstatus, heither, -⟩ := runAll_passes_iff rootEnvironment ⟨false, false, .all⟩ finishing
      (.start settled []) hextension [capable, interrupted]
    refine ⟨summaries, hrun, heither.resolve_left fun hzero => ?_⟩
    have hsecond : ∃ now, (interrupted, now) ∈ turns rootEnvironment ⟨false, false, .all⟩ finishing (.start settled [])
        [capable, interrupted] := ⟨_, List.mem_cons_of_mem _ List.mem_cons_self⟩
    obtain ⟨now, hmem⟩ := hsecond
    exact not_inOrder_interrupted _ _ _ _ _ (hstatus.mp hzero _ hmem)

end GoldenBench.Session
