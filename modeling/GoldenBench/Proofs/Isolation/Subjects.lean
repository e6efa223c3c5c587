import GoldenBench.Proofs.Interop.Tasks
import GoldenBench.Proofs.Isolation.Scribe

/-!
# Subjects do not see each other

As long as no golden file may be created, and no tool of a subject changes a file, a run leaves the file tree as it is.
So each subject comes to the summary that it comes to when it is run alone (`Summary.Agrees`), whatever other subjects
there are and whenever its turn comes. Only the order in which loads settle is anyone's guess, and how the tasks are
numbered that do them.

* `Session.relate_runSubject`: one subject in two worlds with the same files.
* `Session.runAll_isolated`: all subjects of a run, each alone, and any permutation of them.
* `Session.not_isolated`: a compiler that leaves a file behind.
-/

namespace GoldenBench

variable {subject other : Subject} {environment : Environment} {options : RunOptions} {registry : Registry}
  {files : Store}

/-! ## Summaries up to the order of interop tests -/

/-- A test of the interop suite, by its name. -/
def Summary.isInterop (subject : String) (report : Report) : Bool :=
  (subject ++ "/" ++ Interop.suite ++ "/").toList.isPrefixOf report.name.toList

/-- Summaries that differ at most in the order of the interop tests and in the numbers of interrupted tasks. -/
structure Summary.Agrees (first second : Summary) : Prop where
  /-- They are of the same subject. -/
  subject : first.subject = second.subject
  /-- They have the same tests of the other suites, in the same order. -/
  others : first.reports.filter (fun report => !isInterop first.subject report) =
    second.reports.filter fun report => !isInterop second.subject report
  /-- They have the same interop tests. -/
  interop : InSomeOrder Report.Alike (first.reports.filter (isInterop first.subject))
    (second.reports.filter (isInterop second.subject))

/-- They count the same outcomes. -/
theorem Summary.Agrees.count_eq {first second : Summary} (h : first.Agrees second) :
    ∀ kind ∈ [Outcome.isPassed, Outcome.isCreated, Outcome.isFailed, Outcome.isSkipped],
      first.count kind = second.count kind := by
  intro kind hkind
  have hcount : ∀ summary : Summary, summary.count kind =
      ((summary.reports.filter (isInterop summary.subject)).filter fun report => kind report.outcome).length +
        ((summary.reports.filter fun report => !isInterop summary.subject report).filter fun report =>
          kind report.outcome).length := fun summary => by
    rw [← List.length_append, ← List.filter_append]
    exact ((List.filter_append_perm (isInterop summary.subject) summary.reports).filter _).length_eq.symm
  rw [hcount, hcount, h.others,
    (h.interop.filter fun one other halike => halike.outcome.kind_eq kind hkind).length_eq]

theorem isInterop_report (finding : Finding) (subject : String) :
    Summary.isInterop subject (finding.report subject Interop.suite) = true := by
  have hname : (finding.report subject Interop.suite).name =
      (subject ++ "/" ++ Interop.suite ++ "/") ++ finding.fixture := rfl
  rw [Summary.isInterop, List.isPrefixOf_iff_prefix, hname]
  generalize subject ++ "/" ++ Interop.suite ++ "/" = start
  rw [String.toList_append]
  exact List.prefix_append _ _

/-- Findings of the interop suite in another order make for a summary that agrees. -/
theorem agrees_of_inSomeOrder {interop interop' : List Finding} (h : InSomeOrder Finding.Alike interop interop')
    (name : String) (snapshots smoke roundTrip : List Finding) :
    Summary.Agrees
      ⟨name, snapshots.map (·.report name Snapshot.suite) ++ interop.map (·.report name Interop.suite) ++
        smoke.map (·.report name Smoke.suite) ++ roundTrip.map (·.report name RoundTrip.suite)⟩
      ⟨name, snapshots.map (·.report name Snapshot.suite) ++ interop'.map (·.report name Interop.suite) ++
        smoke.map (·.report name Smoke.suite) ++ roundTrip.map (·.report name RoundTrip.suite)⟩ where
  subject := rfl
  others := by
    have hnone : ∀ findings : List Finding, (findings.map (·.report name Interop.suite)).filter
        (fun report => !Summary.isInterop name report) = [] := fun findings => by
      refine List.filter_eq_nil_iff.mpr fun report hreport => ?_
      obtain ⟨finding, -, rfl⟩ := List.mem_map.mp hreport
      simp [isInterop_report]
    simp only [List.filter_append, hnone]
  interop := by
    have hrefl : ∀ reports : List Report, InSomeOrder Report.Alike reports reports := fun reports =>
      .of_forall₂ (List.forall₂_same.mpr fun report _ => .refl report)
    have hname : ∀ one two : Report, one.Alike two → Summary.isInterop name one = Summary.isInterop name two :=
      fun one two halike => by rw [Summary.isInterop, Summary.isInterop, halike.name]
    have hreports := h.map (S := Report.Alike) fun _ _ halike => halike.report name Interop.suite
    exact ((((hrefl _).append hreports).append (hrefl _)).append (hrefl _)).filter hname

/-! ## Suites in worlds with the same files -/

namespace Snapshot

variable {fixture : SnapshotCase}

/-- Turns of a fixture agree where the files are the same, and leave them so. -/
theorem agree_runCase_isolated (h : subject.Isolated files) (hcreate : options.create = false)
    (fixture : SnapshotCase) :
    Run.Agree (Stays files) (runCase subject fixture options) (runCase subject fixture options) := by
  refine agree_runCase ?_ (fun asked => h.file _ asked) fun _ => agree_compare ?_
  · rintro _ _ ⟨rfl, rfl⟩
    rfl
  · rintro _ _ ⟨rfl, rfl⟩
    rw [hcreate, Golden.judge_files]
    exact ⟨rfl, rfl, rfl⟩

/-- The snapshot suite comes to the same findings where the files are the same. -/
theorem relate_runSuite (h : subject.Isolated files)
    (hgolden : Path.isBadExtension environment.goldenExtension = false) (hcreate : options.create = false) :
    Run.Relate (Stays files) (fun one two => ∃ findings, one = .ok findings ∧ two = .ok findings)
      (runSuite subject environment options) (runSuite subject environment options) := by
  rintro one two ⟨hone, htwo⟩
  obtain ⟨hanswer, hleft⟩ := Run.agree_mapM
    (fun fixture (_ : fixture ∈ casesIn environment options.filter files) => agree_runCase_isolated h hcreate fixture)
    (one.noted (files.missing environment.fixturesDirectory))
    (two.noted (files.missing environment.fixturesDirectory)) ⟨hone, htwo⟩
  rw [runSuite_apply hgolden, runSuite_apply hgolden, hone, htwo]
  exact ⟨⟨_, rfl, congrArg Except.ok hanswer.symm⟩, hleft⟩

end Snapshot

namespace Interop

/-- The loads that are under way settle in some order, whatever numbers their tasks have. -/
theorem relate_settle {loader : Loader} (h : subject.loader.Alike loader) (loads : List Pending) :
    Run.Relate (Stays files) (InSomeOrder Finding.Alike) (settle subject loads)
      (settle { subject with loader := loader } loads) := by
  rintro one two ⟨hone, htwo⟩
  obtain ⟨order, horder, hsettle⟩ := settle_spec subject loads one
  obtain ⟨order', horder', hsettle'⟩ := settle_spec { subject with loader := loader } loads two
  rw [hsettle, hsettle']
  refine ⟨?_, hone, htwo⟩
  refine .of_perm (horder.map _) (.trans_perm (.of_forall₂ ?_) (horder'.map _).symm)
  rw [List.forall₂_map_left_iff, List.forall₂_map_right_iff]
  exact List.forall₂_same.mpr fun pending _ => Pending.alike_finding (h.load pending.binary)

/-- The interop suite comes to the same findings where the files are the same, in some order. -/
theorem relate_runSuite (h : subject.Isolated files) {loader : Loader} (hloader : subject.loader.Alike loader) :
    Run.Relate (Stays files) (InSomeOrder Finding.Alike) (runSuite subject environment options registry)
      (runSuite { subject with loader := loader } environment options registry) := by
  rintro one two ⟨rfl, hfiles⟩
  cases hcapability : subject.loader.capability with
  | unsupported reason =>
    obtain ⟨told, -, hrun⟩ := runSuite_unsupported subject registry one environment options hcapability
    obtain ⟨told', -, hrun'⟩ := runSuite_unsupported { subject with loader := loader } registry two environment options
      (hloader.capability.symm.trans hcapability)
    rw [hrun, hrun', hfiles]
    exact ⟨.of_forall₂ (List.forall₂_same.mpr fun finding _ => .refl finding), rfl, hfiles⟩
  | supported =>
    rw [runSuite_supported subject registry one environment options hcapability,
      runSuite_supported { subject with loader := loader } registry two environment options
        (hloader.capability.symm.trans hcapability), hfiles]
    generalize casesIn environment options.filter one.files = fixtures
    have hlaunch : Run.Agree (Stays one.files) (launch subject registry options.color fixtures fixtures)
        (launch { subject with loader := loader } registry options.color fixtures fixtures) :=
      agree_launch fixtures fun fixture _ => agree_launchCase (fun _ _ hsame => by rw [hsame.1, hsame.2])
        (fun asked => h.file _ asked) (.inl rfl)
    -- both have the same loads to settle, each in an order of its own
    refine Run.Relate.bind hlaunch ?_ (one.noted _) (two.noted _) ⟨rfl, hfiles⟩
    rintro ⟨findings, loads⟩ _ rfl
    refine (relate_settle hloader loads).bind fun settled settled' hsettled => Run.relate_pure ?_
    exact .append (.of_forall₂ (List.forall₂_same.mpr fun finding _ => .refl finding)) hsettled

end Interop

namespace Session

/-- In two worlds with the same files, a subject comes to the same summary, and leaves the files as they are. -/
theorem relate_runSubject (h : subject.Isolated files) (halike : subject.Alike other)
    (hgolden : Path.isBadExtension environment.goldenExtension = false) (hcreate : options.create = false)
    (registry : Registry) :
    Run.Relate (Stays files)
      (fun one two => ∃ summary summary', one = .ok summary ∧ two = .ok summary' ∧ summary.Agrees summary')
      (runSubject subject environment options registry) (runSubject other environment options registry) := by
  obtain ⟨loader, hloader, rfl⟩ := halike
  refine Run.Relate.bind (Run.agree_tell _ _) fun _ _ _ => ?_
  refine Run.Relate.bind (Snapshot.relate_runSuite h hgolden hcreate) ?_
  rintro _ _ ⟨snapshots, rfl, rfl⟩
  refine (Interop.relate_runSuite h hloader).bind fun interop interop' hinterop => ?_
  refine Run.Relate.bind (Smoke.agree_runSuite h environment options) ?_
  rintro smoke _ rfl
  refine Run.Relate.bind (RoundTrip.agree_runSuite h options) ?_
  rintro roundTrip _ rfl
  exact Run.relate_pure ⟨_, _, rfl, rfl, agrees_of_inSomeOrder hinterop subject.name snapshots smoke roundTrip⟩

/-- A subject has come to a summary, where the files were these. -/
def CameTo (environment : Environment) (options : RunOptions) (registry : Registry) (files : Store) (subject : Subject)
    (summary : Summary) : Prop :=
  ∃ found : World, found.files = files ∧ (runSubject subject environment options registry found).1 = .ok summary

/-- What a subject comes to does not depend on when and beside what it is run. -/
theorem CameTo.agrees (hgolden : Path.isBadExtension environment.goldenExtension = false)
    (hcreate : options.create = false) (h : subject.Isolated files) (halike : subject.Alike other)
    {summary summary' : Summary} (hfirst : CameTo environment options registry files subject summary)
    (hsecond : CameTo environment options registry files other summary') : summary.Agrees summary' := by
  obtain ⟨found, hfound, hrun⟩ := hfirst
  obtain ⟨found', hfound', hrun'⟩ := hsecond
  obtain ⟨⟨_, _, hown, hown', hagrees⟩, -⟩ := relate_runSubject h halike hgolden hcreate registry found found'
    ⟨hfound, hfound'⟩
  rw [hrun] at hown
  rw [hrun'] at hown'
  cases hown
  cases hown'
  exact hagrees

/-- A run leaves the files as they are, and each subject finds them so. -/
theorem runAll_cameTo (hgolden : Path.isBadExtension environment.goldenExtension = false)
    (hcreate : options.create = false) {subjects : List Subject} (h : ∀ subject ∈ subjects, subject.Isolated files)
    (registry : Registry) {world : World} (hfiles : world.files = files) :
    (runAll environment options registry subjects world).2.files = files ∧
      ∃ summaries, (runAll environment options registry subjects world).1 = .ok summaries ∧
        List.Forall₂ (CameTo environment options registry files) subjects summaries := by
  induction subjects generalizing world with
  | nil => exact ⟨hfiles, [], rfl, .nil⟩
  | cons subject rest ih =>
    obtain ⟨⟨summary, -, hrun, -, -⟩, hleft, -⟩ := relate_runSubject (h subject List.mem_cons_self) (.refl subject)
      hgolden hcreate registry world world ⟨hfiles, hfiles⟩
    -- the subjects that follow start from the files of the first one, since it left them as they were
    obtain ⟨hend, summaries, hrest, hcame⟩ := ih (fun subject hmem => h subject (List.mem_cons_of_mem _ hmem)) hleft
    rw [runAll_cons_apply subject environment options registry world hrun hrest]
    exact ⟨hend, _, rfl, .cons ⟨world, hfiles, hrun⟩ hcame⟩

theorem exists_summary {subjects : List Subject} {summaries : List Summary}
    (h : List.Forall₂ (CameTo environment options registry files) subjects summaries) {i : Nat}
    (hi : subjects[i]? = some subject) :
    ∃ summary, summaries[i]? = some summary ∧ CameTo environment options registry files subject summary := by
  obtain ⟨hlt, rfl⟩ := List.getElem?_eq_some_iff.mp hi
  have hlt' : i < summaries.length := h.length_eq ▸ hlt
  exact ⟨summaries[i], List.getElem?_eq_getElem hlt', (List.forall₂_iff_get.mp h).2 i hlt hlt'⟩

/-- Subjects that are the same one by one come to summaries that agree one by one. -/
theorem forall₂_agrees (hgolden : Path.isBadExtension environment.goldenExtension = false)
    (hcreate : options.create = false) {subjects others : List Subject} {summaries summaries' : List Summary}
    (h : ∀ subject ∈ subjects, subject.Isolated files) (halike : List.Forall₂ Subject.Alike subjects others)
    (hcame : List.Forall₂ (CameTo environment options registry files) subjects summaries)
    (hcame' : List.Forall₂ (CameTo environment options registry files) others summaries') :
    List.Forall₂ Summary.Agrees summaries summaries' := by
  induction halike generalizing summaries summaries' with
  | nil =>
    cases hcame
    cases hcame'
    exact .nil
  | cons hfirst _ ih =>
    obtain _ | ⟨hown, hrest⟩ := hcame
    obtain _ | ⟨hown', hrest'⟩ := hcame'
    exact .cons (hown.agrees hgolden hcreate (h _ List.mem_cons_self) hfirst hown')
      (ih (fun subject hmem => h subject (List.mem_cons_of_mem _ hmem)) hrest hrest')

/-- As long as no golden file may be created, a run leaves the files as they are, and each subject comes to the summary
that it comes to alone. So the summaries of any other run on the same files agree wherever the subjects are the same,
and with the subjects in another order they are the same summaries in that order. -/
theorem runAll_isolated (hgolden : Path.isBadExtension environment.goldenExtension = false)
    (hcreate : options.create = false) {subjects : List Subject} (world : World)
    (h : ∀ subject ∈ subjects, subject.Isolated world.files) :
    (runAll environment options registry subjects world).2.files = world.files ∧
    ∃ summaries, (runAll environment options registry subjects world).1 = .ok summaries ∧
      List.Forall₂ (fun subject summary => ∀ (other : Subject) (alone : World), other.Alike subject →
        alone.files = world.files → ∃ own, (runSubject other environment options registry alone).1 = .ok own ∧
          own.Agrees summary ∧ ∀ kind ∈ [Outcome.isPassed, Outcome.isCreated, Outcome.isFailed, Outcome.isSkipped],
            own.count kind = summary.count kind) subjects summaries ∧
      ∀ (others : List Subject) (world' : World), (∀ subject ∈ others, subject.Isolated world.files) →
        world'.files = world.files →
        ∃ summaries', (runAll environment options registry others world').1 = .ok summaries' ∧
          (∀ (i j : Nat) (subject other : Subject), subjects[i]? = some subject → others[j]? = some other →
            other.Alike subject → ∃ summary summary' : Summary, summaries[i]? = some summary ∧
              summaries'[j]? = some summary' ∧ summary'.Agrees summary) ∧
          (InSomeOrder Subject.Alike others subjects → InSomeOrder Summary.Agrees summaries' summaries) := by
  obtain ⟨hleft, summaries, hrun, hcame⟩ := runAll_cameTo hgolden hcreate h registry (Eq.refl world.files)
  refine ⟨hleft, summaries, hrun, ?_, fun others world' hothers hfiles => ?_⟩
  · refine List.forall₂_iff_get.mpr ⟨hcame.length_eq, fun i hi hi' other alone halike halone => ?_⟩
    have hother : other.Isolated world.files := by
      have hsubject := h _ (List.get_mem subjects ⟨i, hi⟩)
      obtain ⟨loader, -, hsame⟩ := halike
      exact (hsame ▸ hsubject).withLoader
    obtain ⟨⟨own, -, hown, -, -⟩, -⟩ := relate_runSubject hother (.refl other) hgolden hcreate registry alone alone
      ⟨halone, halone⟩
    have hagrees := CameTo.agrees hgolden hcreate hother halike ⟨alone, halone, hown⟩
      ((List.forall₂_iff_get.mp hcame).2 i hi hi')
    exact ⟨own, hown, hagrees, hagrees.count_eq⟩
  obtain ⟨-, summaries', hrun', hcame'⟩ := runAll_cameTo hgolden hcreate hothers registry hfiles
  refine ⟨summaries', hrun', fun i j subject other hi hj halike => ?_, fun ⟨order, halike, hperm⟩ => ?_⟩
  · obtain ⟨summary, hsummary, hown⟩ := exists_summary hcame hi
    obtain ⟨summary', hsummary', hown'⟩ := exists_summary hcame' hj
    exact ⟨summary, summary', hsummary, hsummary',
      hown'.agrees hgolden hcreate (hothers other (List.mem_of_getElem? hj)) halike hown⟩
  · obtain ⟨ordered, hordered, hsame⟩ := List.perm_comp_forall₂ hperm hcame
    exact ⟨ordered, forall₂_agrees hgolden hcreate hothers halike hcame' hordered, hsame⟩

/-! ## Two subjects in either order -/

open Snapshot (rootEnvironment firstCase secondCase)

/-- A tree with two sources, and with a directory for scratch directories. -/
def furnished : Store :=
  ⟨[(["a.test.ts"], .file "".toUTF8), (["b.test.ts"], .file "".toUTF8), (["tmp"], .directory),
    (["tmp", "scratch"], .directory)], []⟩

theorem casesIn_furnished : Snapshot.casesIn rootEnvironment .all furnished = [firstCase, secondCase] ∧
    Interop.casesIn rootEnvironment .all furnished = paired := by
  have hsources : furnished.sources ⟨"/"⟩ "ts" = [⟨"a.test", ⟨"/a.test.ts"⟩⟩, ⟨"b.test", ⟨"/b.test.ts"⟩⟩] := by
    rw [Store.sources_of_directory (Snapshot.locate_root _)]
    simp only [furnished, List.filterMap_cons, List.filterMap_nil, Store.sourceAt?]
    decide
  rw [Snapshot.casesIn, Interop.casesIn, rootEnvironment, hsources]
  decide

theorem roomy_furnished : furnished.Roomy 4 :=
  ⟨⟨_, Store.locate_scratchRoot rfl rfl, by simp [furnished]⟩, Nat.le_refl 4⟩

/-- A subject that consists of programs. Its loads are interrupted, and the tasks that do them have this number. -/
def scribing (task : Nat) : Subject :=
  External.subject External.scribe External.scribeSpec ⟨"/"⟩ ⟨.supported, fun _ => .panicked task none⟩

/-- A subject that consists of programs and an interrupted one can take their turns in either order. -/
theorem runAll_either_order :
    Path.isBadExtension rootEnvironment.goldenExtension = false ∧
    (Snapshot.casesIn rootEnvironment .all furnished = [firstCase, secondCase] ∧
      Interop.casesIn rootEnvironment .all furnished = paired) ∧
    (∀ subject ∈ [scribing 1, interrupted, scribing 2], subject.Isolated furnished) ∧
    (runAll rootEnvironment ⟨false, false, .all⟩ finishing [scribing 1, interrupted] (.start furnished [])).2.files =
      furnished ∧
    ∃ summaries summaries' : List Summary,
      (runAll rootEnvironment ⟨false, false, .all⟩ finishing [scribing 1, interrupted] (.start furnished [])).1 =
        .ok summaries ∧
      (runAll rootEnvironment ⟨false, false, .all⟩ finishing [interrupted, scribing 2] (.start furnished [])).1 =
        .ok summaries' ∧
      InSomeOrder Summary.Agrees summaries' summaries := by
  have hextension := Snapshot.setsApart_rootEnvironment.isBadExtension
  have hscribing : ∀ task, (scribing task).Isolated furnished := fun task =>
    External.isolated_scribe ⟨"/"⟩ roomy_furnished (by decide)
  have hinterrupted := isolated_interrupted furnished
  have hothers : ∀ subject ∈ [interrupted, scribing 2], subject.Isolated furnished :=
    List.forall_mem_cons.mpr ⟨hinterrupted, List.forall_mem_singleton.mpr (hscribing 2)⟩
  obtain ⟨hleft, summaries, hrun, -, hagain⟩ := @runAll_isolated rootEnvironment ⟨false, false, .all⟩ finishing
    hextension rfl [scribing 1, interrupted] (.start furnished [])
    (List.forall_mem_cons.mpr ⟨hscribing 1, List.forall_mem_singleton.mpr hinterrupted⟩)
  obtain ⟨summaries', hrun', -, horder⟩ := hagain [interrupted, scribing 2] (.start furnished []) hothers rfl
  have halike : (scribing 2).Alike (scribing 1) :=
    ⟨(scribing 1).loader, ⟨rfl, fun _ => .panicked 2 1 none⟩, rfl⟩
  have hisolated := List.forall_mem_cons.mpr ⟨hscribing 1, hothers⟩
  refine ⟨hextension, casesIn_furnished, hisolated, hleft, summaries, summaries', hrun, hrun', horder ?_⟩
  exact ⟨[interrupted, scribing 1], .cons (.refl _) (.cons halike .nil), .swap _ _ _⟩

/-! ## A compiler that leaves a file behind -/

/-- The same subject, by another name, with a compiler that leaves a file behind, and fails where it finds one. -/
def littering (name : String) : Subject :=
  let compile (input : CompilerInput) (asked : CompilerOptions) : Errand Compilation := do
    let files ← Errand.files
    match files.find? ["left"] with
    | some _ => return ⟨.error (.error (.plain "compiler exited with exit status: 1")), []⟩
    | none =>
      Errand.setFiles (files.insert ["left"] (.file .empty))
      faultless.compiler.compile input asked
  { faultless with name := name, compiler := ⟨compile⟩ }

/-- What it leaves. -/
def littered : Store :=
  ⟨[(["left"], .file .empty)], []⟩

theorem casesIn_littered : ∀ files ∈ [.empty, littered], Snapshot.casesIn rootEnvironment .all files = [] := by
  simp only [List.forall_mem_cons, List.not_mem_nil, false_implies, implies_true, and_true, Snapshot.casesIn,
    rootEnvironment, Store.sources_of_directory (Snapshot.locate_root _)]
  decide

/-- Without fixtures, the smoke test finds the tree as it was at first. -/
theorem files_afterInterop {name : String} {world : World} (hfiles : world.files ∈ [.empty, littered]) :
    (afterInterop (littering name) rootEnvironment ⟨false, false, .all⟩ .empty world).files = world.files ∧
      (Snapshot.runSuite (littering name) rootEnvironment ⟨false, false, .all⟩
        (started (littering name) world)).1 = .ok [] := by
  have hsuite := Snapshot.runSuite_apply Snapshot.setsApart_rootEnvironment.isBadExtension (littering name)
    ⟨false, false, .all⟩ (started (littering name) world)
  have hstart : (started (littering name) world).files = world.files := rfl
  rw [hstart, casesIn_littered _ hfiles] at hsuite
  obtain ⟨told, -, hinterop⟩ := Interop.runSuite_unsupported (littering name) .empty
    (afterSnapshots (littering name) rootEnvironment ⟨false, false, .all⟩ world) rootEnvironment
    ⟨false, false, .all⟩ rfl
  rw [afterInterop, hinterop, afterSnapshots, hsuite]
  exact ⟨rfl, rfl⟩

/-- It compiles where nothing is left, and leaves a file. -/
theorem compile_littering (name : String) (input : CompilerInput) (asked : CompilerOptions) (workspace : Workspace)
    (hfiles : workspace.files = .empty) : (littering name).compiler.compile input asked workspace =
      ((faultless.compiler.compile input asked workspace).1, { workspace with files := littered }) := by
  have hnone : Store.empty.find? ["left"] = none := rfl
  simp only [littering, Errand.bind_apply, Errand.files_apply, hfiles, hnone]
  rfl

/-- It fails where a file is left. -/
theorem compile_littering_again (name : String) (input : CompilerInput) (asked : CompilerOptions)
    (workspace : Workspace) (hfiles : workspace.files = littered) :
    (littering name).compiler.compile input asked workspace =
      (⟨.error (.error (.plain "compiler exited with exit status: 1")), []⟩, workspace) := by
  have hsome : littered.find? ["left"] = some (.file .empty) := rfl
  simp only [littering, Errand.bind_apply, Errand.files_apply, hfiles, hsome]
  rfl

theorem inOrder_littering (name : String) {world : World} (hfiles : world.files = .empty) :
    InOrder (littering name) rootEnvironment ⟨false, false, .all⟩ .empty world := by
  obtain ⟨hfound, -⟩ := @files_afterInterop name world (by simp [hfiles])
  refine ⟨fun turn hturn => ?_, .inr (.inl ⟨_, rfl⟩), fun _ => ?_, fun _ => ⟨.empty, rfl, rfl⟩⟩
  · have hstart : (started (littering name) world).files = world.files := rfl
    rw [Snapshot.turns, hstart, casesIn_littered _ (by simp [hfiles])] at hturn
    cases hturn
  · rw [Smoke.InOrder, Smoke.compiled, compile_littering name _ _ _ (hfound.trans hfiles)]
    exact ⟨_, _, _, "(module)", rfl, rfl, rfl, rfl, by decide +kernel⟩

theorem not_inOrder_littering (name : String) {world : World} (hfiles : world.files = littered) :
    ¬ InOrder (littering name) rootEnvironment ⟨false, false, .all⟩ .empty world := by
  intro h
  obtain ⟨hfound, -⟩ := @files_afterInterop name world (by simp [hfiles])
  obtain ⟨made, -, -, -, hmade, -⟩ := h.smoke rfl
  rw [Smoke.compiled, compile_littering_again name _ _ _ (hfound.trans hfiles)] at hmade
  cases hmade

/-- The file is there in the end. -/
theorem files_littering (name : String) {world : World} (hfiles : world.files ∈ [.empty, littered]) :
    (runSubject (littering name) rootEnvironment ⟨false, false, .all⟩ .empty world).2.files = littered := by
  obtain ⟨hfound, hsnapshots⟩ := @files_afterInterop name world hfiles
  have hsmoke : (afterSmoke (littering name) rootEnvironment ⟨false, false, .all⟩ .empty world).files = littered := by
    rw [afterSmoke]
    generalize afterInterop (littering name) rootEnvironment ⟨false, false, .all⟩ .empty world = now at hfound
    have haccepts : Filter.all.accepts Smoke.name = true := rfl
    simp only [Smoke.runSuite, haccepts, Bool.not_true, Bool.false_eq_true, ↓reduceIte, Smoke.run, Run.bind_apply,
      Run.tell_apply, Invocation.run_apply, World.workspace_noted, Invocation.of]
    rcases List.mem_pair.mp hfiles with hempty | hleft
    · rw [compile_littering name _ _ now.workspace (hfound.trans hempty)]
      rfl
    · rw [compile_littering_again name _ _ now.workspace (hfound.trans hleft)]
      exact hfound.trans hleft
  have hround : Run.Tidy (RoundTrip.runSuite (littering name) ⟨false, false, .all⟩) := by
    unfold RoundTrip.runSuite
    split
    · exact Run.tidy_pure _
    · have hrun : Run.Tidy (RoundTrip.run (littering name).converter RoundTrip.builtIn false) :=
        RoundTrip.tidy_run tidy_faultless RoundTrip.builtIn false
      exact (Run.tidy_tell _).bind fun _ => hrun.bind fun _ => Run.tidy_pure _
  calc (runSubject (littering name) rootEnvironment ⟨false, false, .all⟩ .empty world).2.files
    _ = (RoundTrip.runSuite (littering name) ⟨false, false, .all⟩
          (afterSmoke (littering name) rootEnvironment ⟨false, false, .all⟩ .empty world)).2.files := by
      rw [runSubject_apply _ _ _ _ _ hsnapshots]
    _ = (afterSmoke (littering name) rootEnvironment ⟨false, false, .all⟩ .empty world).files := hround _
    _ = littered := hsmoke

/-- A compiler that leaves a file behind changes the files in a run that may not create any, and a subject that passes
alone fails behind it. -/
theorem not_isolated :
    Path.isBadExtension rootEnvironment.goldenExtension = false ∧
    (runAll rootEnvironment ⟨false, false, .all⟩ .empty [littering "one", littering "two"]
      (.start .empty [])).2.files ≠ .empty ∧
    ∃ first second alone : Summary,
      (runAll rootEnvironment ⟨false, false, .all⟩ .empty [littering "one", littering "two"] (.start .empty [])).1 =
        .ok [first, second] ∧
      (runSubject (littering "two") rootEnvironment ⟨false, false, .all⟩ .empty (.start .empty [])).1 = .ok alone ∧
      alone.allPassed = true ∧ second.allPassed = false := by
  have hextension := Snapshot.setsApart_rootEnvironment.isBadExtension
  have hstart : (World.start .empty []).files = .empty := rfl
  have hlittered := @files_littering "one" (.start .empty []) (by simp [hstart])
  obtain ⟨first, hfirst, -⟩ := runSubject_passes_iff (littering "one") rootEnvironment ⟨false, false, .all⟩ .empty
    (.start .empty []) hextension
  obtain ⟨alone, halone, hpasses⟩ := runSubject_passes_iff (littering "two") rootEnvironment ⟨false, false, .all⟩ .empty
    (.start .empty []) hextension
  obtain ⟨second, hsecond, hfails⟩ := runSubject_passes_iff (littering "two") rootEnvironment ⟨false, false, .all⟩
    .empty (runSubject (littering "one") rootEnvironment ⟨false, false, .all⟩ .empty (.start .empty [])).2 hextension
  have hrest := @runAll_cons_apply (littering "two") rootEnvironment ⟨false, false, .all⟩ .empty _ second [] []
    hsecond rfl
  have hrun := runAll_cons_apply (littering "one") rootEnvironment ⟨false, false, .all⟩ .empty _ hfirst
    (congrArg Prod.fst hrest)
  refine ⟨hextension, ?_, first, second, alone, congrArg Prod.fst hrun, halone,
    hpasses.mpr (inOrder_littering "two" hstart), ?_⟩
  · have hend : (runAll rootEnvironment ⟨false, false, .all⟩ .empty [littering "one", littering "two"]
        (.start .empty [])).2.files = littered := by
      rw [hrun, hrest]
      exact files_littering "two" (by simp [hlittered])
    rw [hend]
    exact fun hsame => by cases hsame
  · exact Bool.eq_false_iff.mpr fun htrue => not_inOrder_littering "two" hlittered (hfails.mp htrue)

end Session

end GoldenBench
