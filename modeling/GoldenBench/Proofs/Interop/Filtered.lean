import GoldenBench.Proofs.Isolation.Fixtures

/-!
# Interop fixtures under a filter

A filter is applied when fixtures are discovered, before it is known which of them are paired with one runner. A
fixture therefore fares under a filter as it does without one, unless the filter rejects a fixture that is paired with
the same runner: then the id may be its own under the filter, although it is shared without one. Only the numbers of
interrupted tasks may be others, since fewer tasks are started under a filter.

* `verdict` is the finding on a fixture among others, and `perm_verdicts` says that a run comes to the verdicts.
* `runSuite_filtered`: the findings with a filter and without one (`Filtered`).
* `not_perm_filter_of_shared`: a fixture that passes under a filter and fails without one.
-/

namespace GoldenBench.Interop

variable {subject other : Subject} {registry : Registry} {color : Bool} {files : Store} {filter : Filter}
  {fixtures others every : List InteropCase} {fixture : InteropCase}

/-! ## The verdict on a fixture -/

/-- The finding on a fixture that runs among others. -/
def verdict (subject : Subject) (registry : Registry) (color : Bool) (files : Store) (fixtures : List InteropCase)
    (fixture : InteropCase) : Finding :=
  match (launchCase subject registry color fixtures fixture (.start files [])).1 with
  | .error finding => finding
  | .ok pending => pending.finding subject.loader

/-- The finding on a fixture whose id is that of others too. -/
def sharedFinding (fixtures : List InteropCase) (fixture : InteropCase) : Finding :=
  ⟨fixture.name, .failureWith ("runner id " ++ fixture.id ++ " is shared by " ++
    toString (sharing fixtures fixture.id).length ++ " fixtures") (Text.joinLines (sharing fixtures fixture.id)), []⟩

/-- A verdict goes by the name of the fixture. -/
theorem fixture_verdict (fixtures : List InteropCase) (fixture : InteropCase) :
    (verdict subject registry color files fixtures fixture).fixture = fixture.name := by
  rw [verdict]
  rcases early_or_load subject registry color fixtures (fixture, .start files []) with
    ⟨finding, hname, hanswer, -, -⟩ | ⟨pending, hpending, hanswer, -, -⟩
  · simp only [hanswer]
    exact hname
  · simp only [hanswer]
    exact congrArg InteropCase.name hpending

/-- All that a verdict depends on of the other fixtures is which of them share the id. -/
theorem verdict_congr (h : sharing fixtures fixture.id = sharing others fixture.id) :
    verdict subject registry color files fixtures fixture = verdict subject registry color files others fixture := by
  rw [verdict, verdict, launchCase, launchCase, h]

theorem verdict_shared (h : 1 < (sharing fixtures fixture.id).length) :
    verdict subject registry color files fixtures fixture = sharedFinding fixtures fixture := by
  rw [verdict, launchCase]
  simp only [if_pos h]
  rfl

/-- A fixture with an id of its own fares as it does alone. -/
theorem verdict_alone (hfixture : fixture ∈ fixtures) (h : ¬ 1 < (sharing fixtures fixture.id).length) :
    verdict subject registry color files fixtures fixture =
      verdict subject registry color files [fixture] fixture := by
  have hmem : fixture ∈ fixtures.filter (·.id = fixture.id) := List.mem_filter.mpr ⟨hfixture, by simp⟩
  refine verdict_congr ?_
  rw [sharing, List.length_map] at h
  rw [sharing, sharing]
  generalize fixtures.filter (·.id = fixture.id) = shared at hmem h ⊢
  rcases shared with _ | ⟨first, _ | ⟨second, rest⟩⟩
  · cases hmem
  · rw [List.mem_singleton.mp hmem]
    simp
  · simp at h

/-- Subjects that load in the same way come to the same verdict, up to the numbers of interrupted tasks. -/
theorem alike_verdict (h : other.Alike subject) (fixtures : List InteropCase) (fixture : InteropCase) :
    (verdict other registry color files fixtures fixture).Alike
      (verdict subject registry color files fixtures fixture) := by
  obtain ⟨loader, hloader, rfl⟩ := h
  change Finding.Alike (match (launchCase other registry color fixtures fixture (.start files [])).1 with
    | .error finding => finding
    | .ok pending => pending.finding other.loader) (match (launchCase other registry color fixtures fixture
      (.start files [])).1 with
    | .error finding => finding
    | .ok pending => pending.finding loader)
  cases (launchCase other registry color fixtures fixture (.start files [])).1 with
  | error finding => exact .refl finding
  | ok pending => exact Pending.alike_finding (hloader.load pending.binary)

/-! ## A run comes to the verdicts -/

/-- What a turn comes to is the verdict, early or when the load has settled. -/
theorem perm_findings (hcompile : ∀ path asked, Errand.Agree (Stays files)
      (subject.compiler.compile (.file path) asked) (subject.compiler.compile (.file path) asked))
    {turns : List (InteropCase × World)} (hturns : ∀ turn ∈ turns, turn.2.files = files) :
    ((turns.filterMap (early? subject registry color fixtures)).map (·.2) ++
        (turns.filterMap (loadAt? subject registry color fixtures)).map (·.finding subject.loader)).Perm
      (turns.map fun turn => verdict subject registry color files fixtures turn.1) := by
  induction turns with
  | nil => exact .refl _
  | cons turn turns ih =>
    have hrest := ih fun turn hmem => hturns turn (List.mem_cons_of_mem _ hmem)
    have hanswer : (launchCase subject registry color fixtures turn.1 turn.2).1 =
        (launchCase subject registry color fixtures turn.1 (.start files [])).1 :=
      (agree_launchCase_stays (hcompile _) turn.2 (.start files []) ⟨hturns turn List.mem_cons_self, rfl⟩).1
    -- the verdict comes before the loads of the later turns or among them
    rw [List.map_cons, verdict, ← hanswer]
    rcases early_or_load subject registry color fixtures turn with
      ⟨finding, -, hfinding, hearly, hload⟩ | ⟨pending, -, hpending, hearly, hload⟩
    · rw [List.filterMap_cons_some hearly, List.filterMap_cons_none hload, hfinding]
      exact hrest.cons _
    · rw [List.filterMap_cons_none hearly, List.filterMap_cons_some hload, hpending]
      exact List.perm_middle.trans (hrest.cons _)

/-- The findings of a run are the verdicts on its fixtures, in some order. -/
theorem perm_verdicts (hsupported : subject.loader.capability = .supported) (world : World)
    (hcompile : ∀ path asked, Errand.Agree (Stays world.files) (subject.compiler.compile (.file path) asked)
      (subject.compiler.compile (.file path) asked))
    (registry : Registry) (environment : Environment) (options : RunOptions) :
    (runSuite subject environment options registry world).1.Perm
      ((casesIn environment options.filter world.files).map
        (verdict subject registry options.color world.files (casesIn environment options.filter world.files))) := by
  obtain ⟨order, horder, hrun⟩ := (runSuite_settled hsupported registry environment options world).1 world.picks
  have hself : world.ordered world.picks = world := rfl
  have hturns : ∀ turn ∈ taken subject registry environment options world, turn.2.files = world.files :=
    fun turn hturn => ((Run.along_keeps (P := fun now => now.files = world.files) (world.noted _)
      (fun fixture _ now hnow => (agree_launchCase_stays (hcompile fixture.source)).files hnow) rfl).1 turn hturn).2
  have hverdicts := congrArg (List.map (verdict subject registry options.color world.files
    (casesIn environment options.filter world.files))) (Run.map_fst_along (world.noted _) _ _ :
      (taken subject registry environment options world).map (·.1) = casesIn environment options.filter world.files)
  rw [List.map_map] at hverdicts
  rw [hself] at hrun
  rw [hrun, settled, List.map_append, List.map_map, ← hverdicts]
  exact ((horder.map _).append_left _).trans (perm_findings hcompile hturns)

/-! ## With a filter and without one -/

/-- The fixtures under a filter are those that it accepts. -/
theorem casesIn_eq_filter (environment : Environment) (filter : Filter) (files : Store) :
    casesIn environment filter files =
      (casesIn environment .all files).filter fun fixture => filter.accepts fixture.name := by
  have hall : casesIn environment .all files =
      (files.sources environment.interopDirectory environment.sourceExtension).filterMap (caseOf? environment) :=
    List.filter_eq_self.mpr fun _ _ => rfl
  rw [hall]
  rfl

/-- What becomes of the fixtures of a suite, `every` one of them without a filter and those that were `kept` with one,
given the findings on one subject without the filter, `whole`, and on another with it, `part`. -/
structure Filtered (subject other : Subject) (registry : Registry) (color : Bool) (files : Store) (filter : Filter)
    (every kept : List InteropCase) (whole part : List Finding) : Prop where
  /-- The filter keeps the fixtures that it accepts, in order. -/
  kept_eq : kept = every.filter fun fixture => filter.accepts fixture.name
  /-- Without the filter the findings are the verdicts on all fixtures, in some order. -/
  unfiltered : whole.Perm (every.map (verdict subject registry color files every))
  /-- With the filter they are the verdicts on those that were kept. -/
  filtered : part.Perm (kept.map (verdict other registry color files kept))
  /-- A fixture fares the same in both runs if no fixture with its id is filtered out. -/
  same : ∀ fixture ∈ kept, (∀ twin ∈ every, twin.id = fixture.id → filter.accepts twin.name = true) →
    (verdict other registry color files kept fixture).Alike (verdict subject registry color files every fixture)
  /-- If one is, the id is shared without the filter. With the filter it is shared if another fixture with the id was
  kept, and else the fixture fares as it does alone. -/
  shared : ∀ fixture ∈ kept, (∃ twin ∈ every, twin.id = fixture.id ∧ filter.accepts twin.name = false) →
    verdict subject registry color files every fixture = sharedFinding every fixture ∧
      verdict other registry color files kept fixture =
        if 1 < (sharing kept fixture.id).length then sharedFinding kept fixture
        else verdict other registry color files [fixture] fixture
  /-- If no fixture with the id of one that was kept is filtered out, then the findings with the filter are just those
  without it on the fixtures that it accepts, each as often. -/
  perm : (∀ fixture ∈ kept, ∀ twin ∈ every, twin.id = fixture.id → filter.accepts twin.name = true) →
    InSomeOrder Finding.Alike part (whole.filter fun finding => filter.accepts finding.fixture)

/-- Fixtures with an id are kept together if the filter accepts all of them. -/
theorem sharing_filter {id : String} (h : ∀ other ∈ every, other.id = id → filter.accepts other.name = true) :
    sharing (every.filter fun fixture => filter.accepts fixture.name) id = sharing every id := by
  rw [sharing, sharing, List.filter_filter]
  refine congrArg _ (List.filter_congr fun other hother => ?_)
  by_cases hid : other.id = id
  · simp [hid, h other hother hid]
  · simp [hid]

/-- Verdicts on kept fixtures are findings that the filter keeps. -/
theorem filter_verdicts (filter : Filter) (fixtures every : List InteropCase) :
    ((every.map (verdict subject registry color files fixtures)).filter fun finding =>
        filter.accepts finding.fixture) =
      (every.filter fun fixture => filter.accepts fixture.name).map
        (verdict subject registry color files fixtures) := by
  rw [List.filter_map]
  refine congrArg _ (List.filter_congr fun fixture _ => ?_)
  exact congrArg filter.accepts (fixture_verdict fixtures fixture)

/-- A run under a filter and a run without one on the same files, in whatever orders their loads settle and however
their tasks are numbered. -/
theorem runSuite_filtered (hsupported : subject.loader.capability = .supported) (halike : other.Alike subject)
    {world world' : World} (hfiles : world'.files = world.files)
    (hcompile : ∀ path asked, Errand.Agree (Stays world.files) (subject.compiler.compile (.file path) asked)
      (subject.compiler.compile (.file path) asked))
    (registry : Registry) (environment : Environment) {options options' : RunOptions} (hall : options'.filter = .all)
    (hcolor : options'.color = options.color) :
    Filtered subject other registry options.color world.files options.filter
      (discover environment options'.filter world').1 (discover environment options.filter world).1
      (runSuite subject environment options' registry world').1
      (runSuite other environment options registry world).1 := by
  have hsame : other.compiler = subject.compiler ∧ other.loader.capability = subject.loader.capability := by
    obtain ⟨loader, hloader, rfl⟩ := halike
    exact ⟨rfl, hloader.capability⟩
  have hfiltered := perm_verdicts (hsame.2.trans hsupported) world (hsame.1 ▸ hcompile) registry environment options
  have hunfiltered := perm_verdicts hsupported world' (hfiles ▸ hcompile) registry environment options'
  rw [hall, hcolor, hfiles] at hunfiltered
  rw [discover_apply, discover_apply, hall, hfiles]
  have hkept := casesIn_eq_filter environment options.filter world.files
  generalize casesIn environment .all world.files = every at *
  generalize casesIn environment options.filter world.files = kept at *
  subst hkept
  have hverdict : ∀ fixture ∈ every.filter (fun fixture => options.filter.accepts fixture.name),
      (∀ twin ∈ every, twin.id = fixture.id → options.filter.accepts twin.name = true) →
      (verdict other registry options.color world.files
          (every.filter fun fixture => options.filter.accepts fixture.name) fixture).Alike
        (verdict subject registry options.color world.files every fixture) := fun fixture _ htwins => by
    rw [verdict_congr (sharing_filter htwins)]
    exact alike_verdict halike every fixture
  refine ⟨rfl, hunfiltered, hfiltered, hverdict, fun fixture hfixture htwin => ?_, fun htwins => ?_⟩
  · obtain ⟨twin, htwin, hid, hrejected⟩ := htwin
    obtain ⟨hmem, haccepted⟩ := List.mem_filter.mp hfixture
    have hne : fixture ≠ twin := by
      rintro rfl
      rw [hrejected] at haccepted
      cases haccepted
    -- the one that was kept and the one that was not share the id where both run
    refine ⟨verdict_shared (one_lt_length_sharing hmem htwin hid hne), ?_⟩
    split
    · rename_i hshared
      exact verdict_shared hshared
    · rename_i hshared
      exact verdict_alone hfixture hshared
  -- a finding is kept just if its fixture is, and each that was kept fares the same
  · refine .of_perm hfiltered (.trans_perm (.of_forall₂ ?_) (hunfiltered.filter _).symm)
    rw [filter_verdicts, List.forall₂_map_left_iff, List.forall₂_map_right_iff]
    exact List.forall₂_same.mpr fun fixture hfixture => hverdict fixture hfixture (htwins fixture hfixture)

/-! ## Two fixtures with one id -/

open Snapshot (rootEnvironment)

/-- A tree with two sources whose names differ in a dash and an underscore. -/
def twins : Store :=
  ⟨[(["a-b.test.ts"], .file "".toUTF8), (["a_b.test.ts"], .file "".toUTF8)], []⟩

/-- The fixture of the source with the dash. -/
def dashed : InteropCase :=
  ⟨"a-b", "a_b", ⟨"/a-b.test.ts"⟩⟩

/-- The fixture of the source with the underscore. -/
def underscored : InteropCase :=
  ⟨"a_b", "a_b", ⟨"/a_b.test.ts"⟩⟩

/-- The filter that accepts the name with the dash only. -/
def dashOnly : Filter :=
  ⟨some ⟨[.char 'a', .char '-', .char 'b']⟩⟩

/-- A subject whose modules are loaded. -/
def loading : Subject :=
  { Session.faultless with
    loader := ⟨.supported, fun _ => .loaded ⟨Unit, (), [], fun _ _ _ => (.values [], ())⟩⟩ }

/-- A registry with the runner of the two fixtures. -/
def oneRunner : Registry :=
  ⟨[("a_b", .finish)]⟩

theorem casesIn_twins : casesIn rootEnvironment .all twins = [dashed, underscored] := by
  have hsources : twins.sources ⟨"/"⟩ "ts" = [⟨"a-b.test", ⟨"/a-b.test.ts"⟩⟩, ⟨"a_b.test", ⟨"/a_b.test.ts"⟩⟩] := by
    rw [Store.sources_of_directory (Snapshot.locate_root _)]
    simp only [twins, List.filterMap_cons, Snapshot.sourceAt?_root, List.filterMap_nil]
    decide
  rw [casesIn, rootEnvironment, hsources]
  decide

theorem dashOnly_accepts : dashOnly.accepts dashed.name = true ∧ dashOnly.accepts underscored.name = false := by
  decide +kernel

/-- The fixture with the dash passes where its id is its own. -/
theorem verdict_dashed : (verdict loading oneRunner false twins [dashed] dashed).outcome = .passed := by
  have hfault : dashed.source.fault? = none := Path.fault?_eq_none.mpr ⟨by simp [dashed], by decide, by decide⟩
  have hread : twins.readText dashed.source = .ok "" :=
    Golden.readText_root "a-b.test.ts" (by decide) (by decide) ⟨hfault, by decide⟩ rfl
  obtain ⟨directed, hdirected⟩ : ∃ directed, Directive.options "".toList = .ok directed := ⟨_, rfl⟩
  have hload : load? loading oneRunner false [dashed] dashed (World.start twins []).workspace =
      some ⟨dashed, .finish, [], .empty⟩ := by
    have hcall : call? oneRunner [dashed] dashed (World.start twins []).workspace.files = some directed.silenced :=
      (call?_eq_some oneRunner [dashed] dashed).mpr
        ⟨by decide, ⟨.finish, rfl⟩, (directed?_eq_some dashed).mpr ⟨"", directed, hread, hdirected, rfl⟩⟩
    rw [load?, invocation?, hcall]
    rfl
  have hanswer := launchCase_answer loading oneRunner false [dashed] dashed (.start twins [])
  rw [hload] at hanswer
  rw [verdict, hanswer]
  rfl

theorem casesIn_dashOnly : casesIn rootEnvironment dashOnly twins = [dashed] := by
  obtain ⟨haccepted, hrejected⟩ := dashOnly_accepts
  rw [casesIn_eq_filter, casesIn_twins]
  simp [haccepted, hrejected]

theorem isolated_loading (files : Store) : loading.Isolated files :=
  (Session.isolated_faultless files).withLoader

/-- The other fixture has the same id. -/
theorem shared_twins : ∀ fixture ∈ [dashed, underscored], 1 < (sharing [dashed, underscored] fixture.id).length := by
  decide

/-- The fixture with the dash is the only one with its id under the filter, and one of two without it. -/
theorem runSuite_filtered_twins :
    loading.loader.capability = .supported ∧ loading.Isolated twins ∧
      Filtered loading loading oneRunner false twins dashOnly [dashed, underscored] [dashed]
        (runSuite loading rootEnvironment ⟨false, false, .all⟩ oneRunner (.start twins [])).1
        (runSuite loading rootEnvironment ⟨false, false, dashOnly⟩ oneRunner (.start twins [])).1 ∧
      verdict loading oneRunner false twins [dashed, underscored] dashed =
        sharedFinding [dashed, underscored] dashed ∧
      (verdict loading oneRunner false twins [dashed] dashed).outcome = .passed := by
  have hfiltered := @runSuite_filtered loading loading rfl (.refl loading) (.start twins []) (.start twins []) rfl
    (isolated_loading twins).file oneRunner rootEnvironment ⟨false, false, dashOnly⟩ ⟨false, false, .all⟩ rfl rfl
  rw [discover_apply, discover_apply, World.start, casesIn_twins, casesIn_dashOnly] at hfiltered
  obtain ⟨-, hrejected⟩ := dashOnly_accepts
  obtain ⟨hshared, -⟩ := hfiltered.shared dashed List.mem_cons_self ⟨underscored, by simp, rfl, hrejected⟩
  exact ⟨rfl, isolated_loading twins, hfiltered, hshared, verdict_dashed⟩

/-- With the filter the fixture passes, and without it the fixture fails, since the other one has the same id. -/
theorem not_perm_filter_of_shared :
    ∃ (subject : Subject) (registry : Registry) (environment : Environment) (filter : Filter) (world : World),
      subject.loader.capability = .supported ∧ subject.Isolated world.files ∧
      ¬ (runSuite subject environment ⟨false, false, filter⟩ registry world).1.Perm
        ((runSuite subject environment ⟨false, false, .all⟩ registry world).1.filter fun finding =>
          filter.accepts finding.fixture) := by
  refine ⟨loading, oneRunner, rootEnvironment, dashOnly, .start twins [], rfl, isolated_loading twins, fun hperm => ?_⟩
  have hfiltered := perm_verdicts rfl (.start twins []) (isolated_loading twins).file oneRunner rootEnvironment
    ⟨false, false, dashOnly⟩
  have hunfiltered := perm_verdicts rfl (.start twins []) (isolated_loading twins).file oneRunner rootEnvironment
    ⟨false, false, .all⟩
  rw [World.start] at hfiltered hunfiltered hperm
  rw [casesIn_dashOnly] at hfiltered
  rw [casesIn_twins] at hunfiltered
  have hmem := hperm.subset (hfiltered.symm.subset List.mem_cons_self)
  obtain ⟨fixture, hfixture, hverdict⟩ := List.mem_map.mp (hunfiltered.subset (List.mem_filter.mp hmem).1)
  rw [verdict_shared (shared_twins fixture hfixture)] at hverdict
  have hpassed := verdict_dashed
  rw [← hverdict] at hpassed
  cases hpassed

end GoldenBench.Interop
