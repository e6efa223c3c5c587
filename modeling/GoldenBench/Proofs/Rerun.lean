import GoldenBench.Proofs.Baseline
import GoldenBench.Proofs.Isolation.Scribe

/-!
# Running once more

A run that may create golden files leaves nothing to create: run once more, it finds every golden file that it created
to hold the text that it is compared with, and comes to the same as before everywhere else.

* `Snapshot.Seat.judge_again`: a comparison that is made once more.
* `Snapshot.runCase_again`: a turn.
* `Snapshot.runSuite_again`: all fixtures.
-/

namespace GoldenBench

open Store (Grows)

/-- What a test comes to when it is run once more: a golden file that was created is found. -/
def Outcome.again : Outcome → Outcome
  | .created _ => .passed
  | outcome => outcome

/-- A finding once more. -/
def Finding.again (finding : Finding) : Finding :=
  { finding with outcome := finding.outcome.again }

/-- A compiler leaves file trees as it finds them, and it answers the same on a fixture in all trees that came from one
tree by nothing but golden files being added. -/
structure Compiler.Steady (environment : Environment) (filter : Filter) (initial : Store) (compiler : Compiler) :
    Prop where
  /-- The compiler leaves file trees as it finds them. -/
  tidy : ∀ path asked, (compiler.compile (.file path) asked).Tidy
  /-- It answers the same. -/
  same : ∀ fixture ∈ Snapshot.casesIn environment filter initial, ∀ asked (found found' : Workspace),
    GoldensAdded environment filter initial found.files → GoldensAdded environment filter initial found'.files →
      (compiler.compile (.file fixture.source) asked found).1 = (compiler.compile (.file fixture.source) asked found').1

variable {environment : Environment} {filter : Filter} {initial files after : Store} {directory : Key}
  {stem : List Char} {fixture : SnapshotCase} {subject : Subject} {options : RunOptions}

/-- A compiler that looks at nothing but the source and the options answers the same. -/
theorem Compiler.steady_of_source {compiler : Compiler}
    (answer : Path → Except FileFault String → CompilerOptions → Compilation) (henv : environment.SetsApart)
    (hplain : initial.IsPlain) (htidy : ∀ path asked, (compiler.compile (.file path) asked).Tidy)
    (h : ∀ source asked found,
      (compiler.compile (.file source) asked found).1 = answer source (found.files.readText source) asked) :
    compiler.Steady environment filter initial where
  tidy := htidy
  same fixture hfixture asked found found' hfound hfound' := by
    rw [h, h, hfound.readText_source henv hplain hfixture, hfound'.readText_source henv hplain hfixture]

/-- So does an external compiler that answers the same in all roomy trees, if there is room for the golden files. -/
theorem External.compiler_steady_scribe {room : Nat} (home : Path) (hroomy : initial.Roomy room)
    (hroom : room + (Snapshot.casesIn environment filter initial).length ≤ 10 ^ 40) :
    (External.compiler scribe scribeSpec.compiler home).Steady environment filter initial where
  tidy path asked := tidy_compile (confined_scribe home) (named_file path) asked
  same fixture _ asked _ _ hfound hfound' :=
    (compile_file_scribe home (hfound.roomy hroomy) hroom fixture.source asked).trans
      (compile_file_scribe home (hfound'.roomy hroomy) hroom fixture.source asked).symm

theorem Outcome.again_of_isFailed {outcome : Outcome} (h : outcome.isFailed = true) : outcome.again = outcome := by
  cases outcome with
  | created path => cases h
  | _ => rfl

/-! ## A comparison once more -/

namespace Golden

variable {golden : Path} {text : String}

/-- A golden file that can be looked up is not created, and where the same is read a comparison comes to the same. -/
theorem judge_of_readText_eq (hfound : files.readText golden ≠ .error .notFound)
    (hread : after.readText golden = files.readText golden) (text : String) (color mayCreate mayCreate' : Bool) :
    Snapshot.verdictOutcome golden color (judge text golden mayCreate' after).1 =
        (Snapshot.verdictOutcome golden color (judge text golden mayCreate files).1).again ∧
      (judge text golden mayCreate' after).2 = after := by
  rw [judge, judge, hread]
  cases hkept : files.readText golden with
  | ok kept =>
    refine ⟨?_, rfl⟩
    dsimp only
    split <;> rfl
  | error fault =>
    cases fault with
    | notFound => exact absurd hkept hfound
    | _ => exact ⟨rfl, rfl⟩

/-- A text that was written is found. -/
theorem judge_written (hread : after.readText golden = .ok text) (hcanonical : Canonical.ofText text = text)
    (mayCreate : Bool) : judge text golden mayCreate after = (.ok .matched, after) := by
  obtain ⟨hleft, ⟨-, hmatched⟩ | ⟨hne, -⟩⟩ := judge_read hread text mayCreate
  · exact Prod.ext hmatched hleft
  · exact absurd hcanonical hne

end Golden

namespace Snapshot

/-- A comparison that is made once more creates nothing. -/
theorem Seat.judge_again {text : String} (h : Seat environment files fixture directory stem)
    (henv : environment.SetsApart) (hplain : files.IsPlain) (hafter : after.IsPlain)
    (hcanonical : Canonical.ofText text = text)
    (hopen : ∀ key, files.locate true fixture.golden = .ok (.absent key) → files.isSealed key = false)
    (hgrows : Grows (Golden.judge text fixture.golden true files).2 after) (color mayCreate : Bool) :
    verdictOutcome fixture.golden color (Golden.judge text fixture.golden mayCreate after).1 =
        (verdictOutcome fixture.golden color (Golden.judge text fixture.golden true files).1).again ∧
      (Golden.judge text fixture.golden mayCreate after).2 = after := by
  have hsince := (Golden.grows_judge text fixture.golden true files).trans hgrows
  rcases h.golden.readText_grows (renamed_ne henv h.source.stem_ne) hplain hafter hsince with
    ⟨key, habsent⟩ | ⟨hfound, hread⟩
  -- what was missing was created, and the file still holds the text
  · obtain ⟨rfl, hnone, hplaced, hfits⟩ := h.placed_of_absent henv hplain habsent
    have hcreated := hplaced.judge_created (hplaced.readText_notFound_iff.mpr ⟨hnone, hfits⟩) (hopen _ habsent) text
    rw [hcreated] at hgrows ⊢
    have hfile : after.find? _ = some (.file text.toUTF8) :=
      hgrows.kept _ _ (Store.IsEnd.find?_insert_self (.inl hnone))
    rw [Golden.judge_written ((hplaced.grows hsince).readText_of_file hfits hfile) hcanonical]
    exact ⟨rfl, rfl⟩
  -- what was there is still there
  · exact Golden.judge_of_readText_eq hfound hread text color true mayCreate

/-! ## A turn once more -/

/-- A turn that is run once more, whatever may be created, in a tree that has grown from what it left. -/
theorem runCase_again {world last : World} {options' : RunOptions}
    (htidy : ∀ asked, (subject.compiler.compile (.file fixture.source) asked).Tidy)
    (hseat : Seat environment world.files fixture directory stem) (henv : environment.SetsApart)
    (hplain : world.files.IsPlain) (hlast : last.files.IsPlain)
    (halike : Alike subject fixture world.workspace last.workspace) (hcreate : options.create = true)
    (hcolor : options'.color = options.color)
    (hopen : ∀ key, world.files.locate true fixture.golden = .ok (.absent key) → world.files.isSealed key = false)
    (hgrows : Grows (runCase subject fixture options world).2.files last.files) :
    (runCase subject fixture options' last).1 = (runCase subject fixture options world).1.again ∧
      (runCase subject fixture options' last).2.files = last.files := by
  have hself : Alike subject fixture world.workspace world.workspace := ⟨rfl, fun _ => rfl⟩
  have hturn := runCase_alike htidy options.color world.workspace
  cases hemission : emission? subject fixture world.workspace with
  | none =>
    rw [hemission] at hturn
    obtain ⟨finding, hfailed, hturn⟩ := hturn
    obtain ⟨hfirst, -⟩ := hturn options world rfl hself
    obtain ⟨hsecond, hleft⟩ := hturn options' last hcolor halike
    rw [hfirst, hsecond, Finding.again, Outcome.again_of_isFailed hfailed]
    exact ⟨rfl, hleft⟩
  | some text =>
    rw [hemission] at hturn
    obtain ⟨notes, hturn⟩ := hturn
    obtain ⟨hfirst, hleft⟩ := hturn options world rfl hself
    obtain ⟨hsecond, hleft'⟩ := hturn options' last hcolor halike
    rw [hleft, hcreate] at hgrows
    obtain ⟨hverdict, hstays⟩ :=
      hseat.judge_again henv hplain hlast (Canonical.ofText_ofText text) hopen hgrows options.color options'.create
    rw [hfirst, hsecond, hleft', hverdict, hcreate]
    exact ⟨rfl, hstays⟩

/-! ## All fixtures once more -/

/-- Turns leave trees that grow. -/
theorem grows_mapM_runCase (htidy : ∀ path asked, (subject.compiler.compile (.file path) asked).Tidy)
    (fixtures : List SnapshotCase) (options : RunOptions) (world : World) :
    Grows world.files (fixtures.mapM (fun fixture => runCase subject fixture options) world).2.files :=
  (Run.along_keeps (P := fun now => Grows world.files now.files) world
    (fun fixture _ now hnow => by
      rcases runCase_left (htidy fixture.source) options now with hleft | ⟨text, hleft⟩
      · exact hleft.symm ▸ hnow
      · exact hleft.symm ▸ hnow.trans (Golden.grows_judge text fixture.golden options.create now.files)) (.refl _)).2

/-- Fixtures one after another, in a tree that has grown from what the last of them left. -/
theorem mapM_again {world last : World} {options' : RunOptions} (henv : environment.SetsApart)
    (hplain : initial.IsPlain) (hopen : Unsealed initial (casesIn environment filter initial))
    (hsteady : subject.compiler.Steady environment filter initial) (hcreate : options.create = true)
    (hcolor : options'.color = options.color) {fixtures : List SnapshotCase}
    (hfixtures : ∀ fixture ∈ fixtures, fixture ∈ casesIn environment filter initial)
    (h : GoldensAdded environment filter initial world.files)
    (hlast : GoldensAdded environment filter initial last.files)
    (hgrows : Grows (fixtures.mapM (fun fixture => runCase subject fixture options) world).2.files last.files) :
    (fixtures.mapM (fun fixture => runCase subject fixture options') last).1 =
        (fixtures.mapM (fun fixture => runCase subject fixture options) world).1.map Finding.again ∧
      (fixtures.mapM (fun fixture => runCase subject fixture options') last).2.files = last.files := by
  induction fixtures generalizing world last with
  | nil => exact ⟨rfl, rfl⟩
  | cons fixture rest ih =>
    have hfixture := hfixtures fixture List.mem_cons_self
    obtain ⟨directory, stem, hseat, -⟩ := exists_seat henv hplain hfixture
    have halike : Alike subject fixture world.workspace last.workspace :=
      ⟨(hlast.readText_source henv hplain hfixture).trans (h.readText_source henv hplain hfixture).symm,
        fun asked => hsteady.same fixture hfixture asked _ _ hlast h⟩
    have hunsealed : ∀ key, world.files.locate true fixture.golden = .ok (.absent key) →
        world.files.isSealed key = false := fun key habsent => by
      have hnone : world.files.find? key = none := Store.holds_of_locate habsent
      have hinitial : initial.find? key = none := by
        cases hfind : initial.find? key with
        | none => rfl
        | some entry =>
          rw [h.grows.kept _ _ hfind] at hnone
          cases hnone
      rw [h.grows.isSealed_eq]
      exact hopen fixture hfixture key (h.absent_initial henv hplain hseat hinitial habsent)
    -- the first turn finds all that the later ones left and leaves it so, which is where they start once more
    rw [Run.mapM_cons_apply] at hgrows
    obtain ⟨hturn, hstays⟩ := runCase_again (hsteady.tidy _) (hseat.grows h.grows) henv h.plain hlast.plain halike
      hcreate hcolor hunsealed ((grows_mapM_runCase hsteady.tidy rest options _).trans hgrows)
    obtain ⟨hrest, hend⟩ := ih (fun fixture hmem => hfixtures fixture (List.mem_cons_of_mem _ hmem))
      (h.runCase henv hplain hfixture (hsteady.tidy _) options) (hstays.symm ▸ hlast) (hstays.symm ▸ hgrows)
    rw [Run.mapM_cons_apply, Run.mapM_cons_apply, hturn, hrest, hend]
    exact ⟨rfl, hstays⟩

/-- A run of the suite that may create golden files leaves nothing to create. Run once more on the files that it left,
the suite discovers the same fixtures in the same order, changes no file, passes every fixture whose golden file was
created, and comes to the same outcome and notes on every other fixture, whatever may be created this time. -/
theorem runSuite_again (world : World) (henv : environment.SetsApart) (hplain : world.files.IsPlain)
    (hopen : Unsealed world.files (casesIn environment options.filter world.files))
    (hsteady : subject.compiler.Steady environment options.filter world.files) (hcreate : options.create = true) :
    ∃ findings, (runSuite subject environment options world).1 = .ok findings ∧
      ∀ (last : World) (options' : RunOptions),
        last.files = (runSuite subject environment options world).2.files →
        options'.filter = options.filter → options'.color = options.color →
          (discover environment options'.filter last).1 = (discover environment options.filter world).1 ∧
          (runSuite subject environment options' last).1 = .ok (findings.map Finding.again) ∧
          (runSuite subject environment options' last).2.files = last.files := by
  refine ⟨_, congrArg Prod.fst (runSuite_apply henv.isBadExtension subject options world), ?_⟩
  intro last options' hfiles hfilter hcolor
  have hstart : GoldensAdded environment options.filter world.files
      (world.noted (world.files.missing environment.fixturesDirectory)).files := .refl hplain
  have hlast : GoldensAdded environment options.filter world.files
      (last.noted (last.files.missing environment.fixturesDirectory)).files :=
    hfiles ▸ GoldensAdded.runSuite (.refl hplain) henv hplain hsteady.tidy
  have hcases := hlast.casesIn_eq henv hplain options.filter
  rw [runSuite_apply henv.isBadExtension] at hfiles
  obtain ⟨hfindings, hstays⟩ := mapM_again henv hplain hopen hsteady hcreate hcolor (fun _ hmem => hmem) hstart hlast
    (hfiles ▸ .refl _)
  rw [World.files_noted] at hcases
  rw [runSuite_apply henv.isBadExtension, discover_apply _ _ henv.isBadExtension,
    discover_apply _ _ henv.isBadExtension, hfilter, hcases]
  exact ⟨rfl, congrArg Except.ok hfindings, hstays⟩

/-- The first fixture of two has its golden file created. -/
theorem outcome_firstCase (world : World) (hfiles : world.files = twoSources "".toUTF8) :
    (runCase Session.faultless firstCase ⟨true, false, .all⟩ world).1.outcome = .created ⟨"/a.test.wat"⟩ := by
  have htext : Visit.text? ⟨Session.faultless, firstCase, world⟩ = some "(module)" :=
    Session.text?_faultless (hfiles ▸ .refl _)
  obtain ⟨hplaced, hfits⟩ := Session.placed_firstCase "".toUTF8
  have hread := hplaced.readText_notFound_iff.mpr ⟨rfl, hfits⟩
  rcases Visit.comes_to ⟨Session.faultless, firstCase, world⟩ (fun _ => Errand.tidy_pure _) ⟨true, false, .all⟩ with
    ⟨hnone, -⟩ | ⟨text, hsome, houtcome, -⟩
  · rw [htext] at hnone
    cases hnone
  · rw [hfiles, hplaced.judge_created hread rfl] at houtcome
    exact houtcome

/-- The first fixture of two has its golden file created, and it passes the second time. -/
theorem runSuite_faultless_again :
    rootEnvironment.SetsApart ∧ (twoSources "".toUTF8).IsPlain ∧
      Unsealed (twoSources "".toUTF8) (casesIn rootEnvironment .all (twoSources "".toUTF8)) ∧
      Session.faultless.compiler.Steady rootEnvironment .all (twoSources "".toUTF8) ∧
      ∃ first rest,
        (runSuite Session.faultless rootEnvironment ⟨true, false, .all⟩ (.start (twoSources "".toUTF8) [])).1 =
          .ok (first :: rest) ∧
        first.outcome = .created ⟨"/a.test.wat"⟩ ∧ first.again.outcome = .passed ∧
        (runSuite Session.faultless rootEnvironment ⟨false, false, .all⟩ (.start (runSuite Session.faultless
          rootEnvironment ⟨true, false, .all⟩ (.start (twoSources "".toUTF8) [])).2.files [])).1 =
          .ok (first.again :: rest.map Finding.again) := by
  have hplain := isPlain_twoSources "".toUTF8
  have hopen : Unsealed (twoSources "".toUTF8) (casesIn rootEnvironment .all (twoSources "".toUTF8)) :=
    fun _ _ _ _ => rfl
  have hsteady : Session.faultless.compiler.Steady rootEnvironment .all (twoSources "".toUTF8) :=
    Compiler.steady_of_source
      (fun source _ asked => (Session.faultless.compiler.compile (.file source) asked ⟨.empty, 0, []⟩).1)
      setsApart_rootEnvironment hplain (fun _ _ => Errand.tidy_pure _) fun _ _ _ => rfl
  obtain ⟨findings, hfirst, hagain⟩ := @runSuite_again rootEnvironment Session.faultless ⟨true, false, .all⟩
    (.start (twoSources "".toUTF8) []) setsApart_rootEnvironment hplain hopen hsteady rfl
  obtain ⟨-, hsecond, -⟩ := hagain (.start _ []) ⟨false, false, .all⟩ rfl rfl rfl
  have hrun : (runSuite Session.faultless rootEnvironment ⟨true, false, .all⟩ (.start (twoSources "".toUTF8) [])).1 =
      .ok ([firstCase, secondCase].mapM (fun fixture => runCase Session.faultless fixture ⟨true, false, .all⟩)
        ((World.start (twoSources "".toUTF8) []).noted ((twoSources "".toUTF8).missing ⟨"/"⟩))).1 := by
    rw [← casesIn_twoSources "".toUTF8]
    exact congrArg Prod.fst (runSuite_apply setsApart_rootEnvironment.isBadExtension _ _ _)
  rw [hfirst, Run.mapM_cons_apply, Except.ok.injEq] at hrun
  subst hrun
  have hcreated := outcome_firstCase ((World.start (twoSources "".toUTF8) []).noted
    ((twoSources "".toUTF8).missing ⟨"/"⟩)) rfl
  refine ⟨setsApart_rootEnvironment, hplain, hopen, hsteady, _, _, hfirst, hcreated, ?_, hsecond⟩
  rw [Finding.again, hcreated]
  rfl

end Snapshot

end GoldenBench
