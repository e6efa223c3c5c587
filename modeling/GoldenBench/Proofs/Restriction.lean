import GoldenBench.Proofs.Baseline
import GoldenBench.Proofs.Inventory
import GoldenBench.Proofs.Isolation.Scribe

/-!
# A filter restricts

A filter leaves fixtures out of a run and changes nothing about the others, if the tools of the subject are steady: they
leave the file tree as they find it, and no golden file that may be added makes a difference to them.

* `Restricts`: what a run under a filter has left so far, beside what a run without one has left.
* `Restricts.judge` and `Restricts.judge_rejected`: a comparison in both runs, and one in the run without the filter.
* `Session.runSubject_restricts`: the reports and the files of a subject under a filter.
* `Session.not_restricted`: a compiler that looks at the golden file of another fixture.
-/

namespace GoldenBench

open Store (Grows)

variable {environment : Environment} {filter : Filter} {initial files part whole : Store} {fixture : SnapshotCase}
  {subject : Subject}

/-! ## Steady tools -/

/-- Both trees came from one tree by nothing but golden files being added. -/
def BothAdded (environment : Environment) (initial one other : Store) : Prop :=
  GoldensAdded environment .all initial one ∧ GoldensAdded environment .all initial other

/-- The tools of a subject leave file trees as they find them, and in all trees that came from one tree by nothing but
golden files being added they answer the same. -/
structure Subject.Steady (environment : Environment) (initial : Store) (subject : Subject) : Prop
    extends subject.Tidy where
  /-- Compilations of fixtures do. -/
  fixtures : ∀ fixture ∈ Snapshot.casesIn environment .all initial, ∀ asked,
    Errand.Agree (BothAdded environment initial) (subject.compiler.compile (.file fixture.source) asked)
      (subject.compiler.compile (.file fixture.source) asked)
  /-- So do that of the smoke source and the optimization that follows. -/
  source : ∀ one other, BothAdded environment initial one other → Errand.Relate (Between one other)
    (Compilation.Same (Between one other))
    (subject.compiler.compile (.memory Smoke.fileName environment.smokeSource) .base)
    (subject.compiler.compile (.memory Smoke.fileName environment.smokeSource) .base)
  /-- So do conversions to binary. -/
  binary : Errand.Agree (BothAdded environment initial) (subject.converter.toBinary true RoundTrip.builtIn)
    (subject.converter.toBinary true RoundTrip.builtIn)
  /-- So do conversions to text. -/
  text : ∀ binary, Errand.Agree (BothAdded environment initial) (subject.converter.toText true binary)
    (subject.converter.toText true binary)

/-- So do external programs that answer the same in all roomy trees, if there is room for the golden files. -/
theorem External.steady_scribe {room : Nat} (home : Path) (loader : Loader) (hroomy : initial.Roomy room)
    (hroom : room + (Snapshot.casesIn environment .all initial).length ≤ 10 ^ 40) :
    (External.subject scribe scribeSpec home loader).Steady environment initial := by
  have hR : ∀ one other, BothAdded environment initial one other →
      one.Roomy (room + (Snapshot.casesIn environment .all initial).length) ∧
        other.Roomy (room + (Snapshot.casesIn environment .all initial).length) := fun one other h =>
    ⟨h.1.roomy hroomy, h.2.roomy hroomy⟩
  exact
    { toTidy := tidy_subject (confined_scribe home) loader
      fixtures := fun fixture _ => agree_file home hR hroom fixture.source
      source := fun one other h => relate_smoke home (hR _ _ h).1 (hR _ _ h).2 hroom environment.smokeSource
      binary := agree_toBinary home hR hroom true RoundTrip.builtIn
      text := agree_toText home hR hroom true }

/-! ## What is left under a filter -/

theorem Snapshot.casesIn_eq_filter (environment : Environment) (filter : Filter) (files : Store) :
    casesIn environment filter files =
      (casesIn environment .all files).filter fun fixture => filter.accepts fixture.name := by
  have hall : casesIn environment .all files =
      (files.sources environment.fixturesDirectory environment.sourceExtension).map (caseOf environment) :=
    List.filter_eq_self.mpr fun _ _ => rfl
  rw [hall]
  rfl

theorem Snapshot.mem_casesIn : fixture ∈ casesIn environment filter files ↔
    fixture ∈ casesIn environment .all files ∧ filter.accepts fixture.name = true := by
  rw [casesIn_eq_filter]
  exact List.mem_filter

/-- What is added under a filter is added without one. -/
theorem GoldensAdded.widen (h : GoldensAdded environment filter initial files) :
    GoldensAdded environment .all initial files where
  plain := h.plain
  grows := h.grows
  added key entry hnone hsome := by
    obtain ⟨fixture, hfixture, habsent⟩ := h.added key entry hnone hsome
    exact ⟨fixture, (Snapshot.mem_casesIn.mp hfixture).1, habsent⟩

/-- What a run under a filter has left of a tree, and what a run without one has left. -/
structure Restricts (environment : Environment) (filter : Filter) (initial part whole : Store) : Prop where
  /-- Golden files of accepted fixtures were added under the filter. -/
  part_added : GoldensAdded environment filter initial part
  /-- Golden files of any fixtures were added without it. -/
  whole_added : GoldensAdded environment .all initial whole
  /-- Of the accepted fixtures the same golden files were added. -/
  same : ∀ fixture ∈ Snapshot.casesIn environment filter initial, ∀ key,
    initial.locate true fixture.golden = .ok (.absent key) → part.find? key = whole.find? key

namespace Restricts

theorem refl (hplain : initial.IsPlain) : Restricts environment filter initial initial initial :=
  ⟨.refl hplain, .refl hplain, fun _ _ _ _ => rfl⟩

theorem both (h : Restricts environment filter initial part whole) : BothAdded environment initial part whole :=
  ⟨h.part_added.widen, h.whole_added⟩

/-- What a run under a filter leaves: what was there, and those golden files left without it that are of accepted
fixtures. -/
theorem find?_iff (h : Restricts environment filter initial part whole) (key : Key) (entry : Entry) :
    part.find? key = some entry ↔ initial.find? key = some entry ∨
      initial.find? key = none ∧ whole.find? key = some entry ∧
        ∃ fixture ∈ Snapshot.casesIn environment filter initial,
          initial.locate true fixture.golden = .ok (.absent key) := by
  constructor
  · intro hpart
    cases hinitial : initial.find? key with
    | some kept =>
      rw [h.part_added.grows.kept _ _ hinitial] at hpart
      exact .inl hpart
    | none =>
      obtain ⟨fixture, hfixture, habsent⟩ := h.part_added.added key entry hinitial hpart
      exact .inr ⟨rfl, h.same fixture hfixture key habsent ▸ hpart, fixture, hfixture, habsent⟩
  · rintro (hinitial | ⟨-, hwhole, fixture, hfixture, habsent⟩)
    · exact h.part_added.grows.kept _ _ hinitial
    · rwa [h.same fixture hfixture key habsent]

/-- The golden file of an accepted fixture leads to the same in both trees. -/
theorem locate_golden (h : Restricts environment filter initial part whole) (henv : environment.SetsApart)
    (hplain : initial.IsPlain) (hfixture : fixture ∈ Snapshot.casesIn environment filter initial) :
    part.locate true fixture.golden = whole.locate true fixture.golden := by
  obtain ⟨directory, stem, hseat, -⟩ := Snapshot.exists_seat henv hplain hfixture
  have hname := Snapshot.renamed_ne henv hseat.source.stem_ne
  have hdirectory := hseat.golden.find?_directory
  cases hfault : fixture.golden.fault? with
  | some fault => rw [Store.locate_of_fault hfault, Store.locate_of_fault hfault]
  | none =>
    have hlocate := Store.locate_of_leads hseat.golden hname (hplain.find?_ne_link _) hfault true
    rw [Store.locate_of_leads (hseat.grows h.part_added.grows).golden hname (h.part_added.plain.find?_ne_link _) hfault,
      Store.locate_of_leads (hseat.grows h.whole_added.grows).golden hname (h.whole_added.plain.find?_ne_link _) hfault]
    by_cases habsent : ∃ key, initial.lookIn directory (Path.renamed stem environment.goldenExtension) =
        .ok (.absent key)
    -- what was missing at first is there in both trees or in neither
    · obtain ⟨key, habsent⟩ := habsent
      obtain ⟨hup, hlimit, hkey, -⟩ := Store.lookIn_eq_absent habsent
      have hsame := h.same fixture hfixture key (hlocate.trans habsent)
      rw [Store.lookIn_of_fits hup hlimit, Store.lookIn_of_fits hup hlimit, ← hkey, hsame]
    · rw [((hplain.lookIn_grows hdirectory h.part_added.grows).resolve_left habsent).2,
        ((hplain.lookIn_grows hdirectory h.whole_added.grows).resolve_left habsent).2]

/-- A comparison for an accepted fixture comes to the same in both runs. -/
theorem judge (h : Restricts environment filter initial part whole) (henv : environment.SetsApart)
    (hplain : initial.IsPlain) (hfixture : fixture ∈ Snapshot.casesIn environment filter initial) (text : String)
    (mayCreate : Bool) :
    (Golden.judge text fixture.golden mayCreate part).1 = (Golden.judge text fixture.golden mayCreate whole).1 ∧
      Restricts environment filter initial (Golden.judge text fixture.golden mayCreate part).2
        (Golden.judge text fixture.golden mayCreate whole).2 := by
  obtain ⟨directory, stem, hseat, -⟩ := Snapshot.exists_seat henv hplain hfixture
  obtain ⟨before, hpieces, -⟩ := hseat.golden
  have hslash := Path.endsInSlash_of_pieces hpieces (Snapshot.renamed_ne henv hseat.source.stem_ne).1
  have hall := (Snapshot.mem_casesIn.mp hfixture).1
  obtain ⟨hanswer, hleft⟩ := Golden.judge_congr (h.locate_golden henv hplain hfixture)
    (h.part_added.grows.sealed.trans h.whole_added.grows.sealed.symm) hslash text mayCreate
  refine ⟨hanswer, h.part_added.judge henv hplain hfixture text mayCreate,
    h.whole_added.judge henv hplain hall text mayCreate, fun twin htwin key habsent => ?_⟩
  rcases hleft with ⟨hpart, hwhole⟩ | ⟨own, hnone, hpart, hwhole⟩
  · rw [hpart, hwhole]
    exact h.same twin htwin key habsent
  · have hown : own ≠ [] := by
      rintro rfl
      cases hnone
    rw [hpart, hwhole, Store.find?_insert _ _ _ _ hown, Store.find?_insert _ _ _ _ hown,
      h.same twin htwin key habsent]

/-- A comparison for a rejected fixture is not made under the filter, and it adds no golden file of an accepted one. -/
theorem judge_rejected (h : Restricts environment filter initial part whole) (henv : environment.SetsApart)
    (hplain : initial.IsPlain) (hfixture : fixture ∈ Snapshot.casesIn environment .all initial)
    (hrejected : filter.accepts fixture.name = false) (text : String) (mayCreate : Bool) :
    Restricts environment filter initial part (Golden.judge text fixture.golden mayCreate whole).2 := by
  refine ⟨h.part_added, h.whole_added.judge henv hplain hfixture text mayCreate, fun twin htwin key habsent => ?_⟩
  rw [h.same twin htwin key habsent]
  rcases Golden.judge_left text fixture.golden mayCreate whole with hleft | ⟨own, hown, hleft⟩
  · rw [hleft]
  · rw [hleft, Store.find?_insert _ _ _ _ (Store.EndsAt.isEnd (.inl hown)).ne_nil, if_neg]
    rintro rfl
    -- fixtures whose golden files are in one place are one fixture
    obtain ⟨directory, stem, hseat, honly⟩ := Snapshot.exists_seat henv hplain hfixture
    obtain ⟨hall, haccepted⟩ := Snapshot.mem_casesIn.mp htwin
    obtain ⟨directory', stem', hseat', -⟩ := Snapshot.exists_seat henv hplain hall
    have hnone : initial.find? key = none := Store.holds_of_locate habsent
    obtain ⟨hkey, -⟩ := hseat.placed_of_absent henv hplain
      (h.whole_added.absent_initial henv hplain hseat hnone hown)
    obtain ⟨hkey', -⟩ := hseat'.placed_of_absent henv hplain habsent
    obtain rfl := Snapshot.eq_of_golden_key honly hall hseat' (hkey.symm.trans hkey')
    rw [hrejected] at haccepted
    cases haccepted

end Restricts

/-! ## Runs of the suites -/

/-- The findings on fixtures that a filter accepts. -/
def Filter.restrict (filter : Filter) (findings : List Finding) : List Finding :=
  findings.filter fun finding => filter.accepts finding.fixture

theorem Filter.restrict_cons_of_accepted {finding : Finding} (h : filter.accepts finding.fixture = true)
    (findings : List Finding) : filter.restrict (finding :: findings) = finding :: filter.restrict findings :=
  List.filter_cons_of_pos h

theorem Filter.restrict_cons_of_rejected {finding : Finding} (h : filter.accepts finding.fixture = false)
    (findings : List Finding) : filter.restrict (finding :: findings) = filter.restrict findings :=
  List.filter_cons_of_neg (ne_true_of_eq_false h)

namespace Snapshot

/-- A turn of an accepted fixture comes to the same in both runs. -/
theorem agree_runCase_restricted (henv : environment.SetsApart) (hplain : initial.IsPlain)
    (hsteady : subject.Steady environment initial) (hfixture : fixture ∈ casesIn environment filter initial)
    (options : RunOptions) :
    Run.Agree (Restricts environment filter initial) (runCase subject fixture options)
      (runCase subject fixture options) := by
  have hall := (mem_casesIn.mp hfixture).1
  refine agree_runCase (fun one other h => ?_) (fun asked => ?_)
    fun text => agree_compare fun one other h => h.judge henv hplain hfixture text options.create
  · rw [h.both.1.readText_source henv hplain hall, h.both.2.readText_source henv hplain hall]
  · exact (hsteady.file _ _).agree (hsteady.file _ _) fun one other h =>
      (hsteady.fixtures fixture hall asked one other h.both).1

/-- A turn of a rejected fixture leaves what there is of accepted ones. -/
theorem restricts_runCase (options : RunOptions) {world : World}
    (h : Restricts environment filter initial part world.files) (henv : environment.SetsApart)
    (hplain : initial.IsPlain) (htidy : subject.Tidy) (hfixture : fixture ∈ casesIn environment .all initial)
    (hrejected : filter.accepts fixture.name = false) :
    Restricts environment filter initial part (runCase subject fixture options world).2.files := by
  rcases runCase_left (htidy.file _) options world with hleft | ⟨text, hleft⟩
  · rwa [hleft]
  · rw [hleft]
    exact h.judge_rejected henv hplain hfixture hrejected text options.create

/-- Fixtures one after another, those that the filter accepts and all of them. -/
theorem mapM_restricts (options : RunOptions) (henv : environment.SetsApart) (hplain : initial.IsPlain)
    (hsteady : subject.Steady environment initial) {fixtures : List SnapshotCase}
    (hfixtures : ∀ fixture ∈ fixtures, fixture ∈ casesIn environment .all initial) {one other : World}
    (h : Restricts environment options.filter initial one.files other.files) :
    let accepted := (fixtures.filter fun fixture => options.filter.accepts fixture.name).mapM
      (fun fixture => runCase subject fixture options) one
    let every := fixtures.mapM (fun fixture => runCase subject fixture options) other
    accepted.1 = options.filter.restrict every.1 ∧
      Restricts environment options.filter initial accepted.2.files every.2.files := by
  induction fixtures generalizing one other with
  | nil => exact ⟨rfl, h⟩
  | cons fixture rest ih =>
    have hfixture := hfixtures fixture List.mem_cons_self
    have hrest := fun fixture hmem => hfixtures fixture (List.mem_cons_of_mem _ hmem)
    have hname : (runCase subject fixture options other).1.fixture = fixture.name := runCase_fixture fixture other
    dsimp only
    rw [Run.mapM_cons_apply]
    cases haccepts : options.filter.accepts fixture.name with
    | true =>
      have haccepted : fixture ∈ casesIn environment options.filter initial :=
        mem_casesIn.mpr ⟨hfixture, haccepts⟩
      obtain ⟨hanswer, hleft⟩ := agree_runCase_restricted henv hplain hsteady haccepted options one other h
      obtain ⟨hfindings, hlast⟩ := ih hrest hleft
      rw [List.filter_cons_of_pos (by exact haccepts), Run.mapM_cons_apply, hanswer, hfindings,
        options.filter.restrict_cons_of_accepted (hname ▸ haccepts)]
      exact ⟨rfl, hlast⟩
    | false =>
      obtain ⟨hfindings, hlast⟩ := ih hrest
        (restricts_runCase options h henv hplain hsteady.toTidy hfixture haccepts)
      rw [List.filter_cons_of_neg (by simp [haccepts]), hfindings,
        options.filter.restrict_cons_of_rejected (hname ▸ haccepts)]
      exact ⟨rfl, hlast⟩

/-- The snapshot fixtures of a subject, with a filter and without one. -/
theorem runSuite_restricts (henv : environment.SetsApart) (hplain : initial.IsPlain)
    (hsteady : subject.Steady environment initial) (options : RunOptions) {world : World}
    (hfiles : world.files = initial) :
    ∃ findings,
      (runSuite subject environment { options with filter := .all } world).1 = .ok findings ∧
      (runSuite subject environment options world).1 = .ok (options.filter.restrict findings) ∧
      Restricts environment options.filter initial (runSuite subject environment options world).2.files
        (runSuite subject environment { options with filter := .all } world).2.files := by
  subst hfiles
  have hstart : Restricts environment options.filter world.files
      (world.noted (world.files.missing environment.fixturesDirectory)).files
      (world.noted (world.files.missing environment.fixturesDirectory)).files := .refl hplain
  obtain ⟨hfindings, hleft⟩ := mapM_restricts options henv hplain hsteady (fun _ hmem => hmem) hstart
  rw [runSuite_apply henv.isBadExtension, runSuite_apply henv.isBadExtension, casesIn_eq_filter environment
    options.filter]
  exact ⟨_, rfl, congrArg Except.ok hfindings, hleft⟩

end Snapshot

/-- The smoke test, with a filter and without one. -/
theorem Smoke.runSuite_restricts (hsteady : subject.Steady environment initial) (options : RunOptions)
    {one other : World} (h : BothAdded environment initial one.files other.files) :
    (runSuite subject environment options one).1 =
      options.filter.restrict (runSuite subject environment { options with filter := .all } other).1 := by
  have hagree := agree_run (hsteady.source one.files other.files h) options.color
    (one.noted [.smokeStarted subject.name]) (other.noted [.smokeStarted subject.name]) ⟨rfl, rfl⟩
  have hname := fixture_run subject environment options.color (other.noted [.smokeStarted subject.name])
  have hevery : (runSuite subject environment { options with filter := .all } other).1 =
      [(run subject environment options.color (other.noted [.smokeStarted subject.name])).1] := rfl
  rw [hevery, runSuite]
  cases haccepts : options.filter.accepts name with
  | true =>
    rw [options.filter.restrict_cons_of_accepted (hname ▸ haccepts), ← hagree.1]
    rfl
  | false =>
    rw [options.filter.restrict_cons_of_rejected (hname ▸ haccepts)]
    rfl

/-- The round trip, with a filter and without one. -/
theorem RoundTrip.runSuite_restricts (hsteady : subject.Steady environment initial) (options : RunOptions)
    {one other : World} (h : BothAdded environment initial one.files other.files) :
    (runSuite subject options one).1 =
      options.filter.restrict (runSuite subject { options with filter := .all } other).1 := by
  have hagree := agree_run hsteady.binary hsteady.text options.color (one.noted [.roundTripStarted subject.name])
    (other.noted [.roundTripStarted subject.name]) h
  have hevery : (runSuite subject { options with filter := .all } other).1 =
      [⟨name, (run subject.converter builtIn options.color (other.noted [.roundTripStarted subject.name])).1, []⟩] :=
    rfl
  rw [hevery, runSuite]
  cases haccepts : options.filter.accepts name with
  | true =>
    rw [options.filter.restrict_cons_of_accepted haccepts, ← hagree.1]
    rfl
  | false =>
    rw [options.filter.restrict_cons_of_rejected haccepts]
    rfl

/-! ## A subject -/

/-- The summary of a subject whose suites come to findings. The names of its reports say which suite they are of. -/
def Summary.ofFindings (subject : String) (snapshots interop smoke roundTrip : List Finding) : Summary :=
  ⟨subject, snapshots.map (·.report subject Snapshot.suite) ++ interop.map (·.report subject Interop.suite) ++
    smoke.map (·.report subject Smoke.suite) ++ roundTrip.map (·.report subject RoundTrip.suite)⟩

namespace Session

/-- A subject comes to what its suites come to, once its snapshot fixtures have come to their end. -/
theorem runSubject_findings {options : RunOptions} {world : World} {snapshots : List Finding} (registry : Registry)
    (h : (Snapshot.runSuite subject environment options (started subject world)).1 = .ok snapshots) :
    (runSubject subject environment options registry world).1 = .ok (.ofFindings subject.name snapshots
      (Interop.runSuite subject environment options registry (afterSnapshots subject environment options world)).1
      (Smoke.runSuite subject environment options (afterInterop subject environment options registry world)).1
      (RoundTrip.runSuite subject options (afterSmoke subject environment options registry world)).1) :=
  congrArg Prod.fst (runSubject_apply subject environment options registry world h)

/-- Under a filter the snapshot fixtures, the smoke test and the round trip of a subject come to what those of them that
it accepts come to without one, and the golden files that are created are those that are created without it for fixtures
that it accepts. -/
theorem runSubject_restricts (world : World) (henv : environment.SetsApart) (hplain : world.files.IsPlain)
    (hsteady : subject.Steady environment world.files) (options : RunOptions) (registry : Registry) :
    ∃ snapshots interop interop' smoke roundTrip,
      (runSubject subject environment { options with filter := .all } registry world).1 =
        .ok (.ofFindings subject.name snapshots interop smoke roundTrip) ∧
      (runSubject subject environment options registry world).1 =
        .ok (.ofFindings subject.name (options.filter.restrict snapshots) interop' (options.filter.restrict smoke)
          (options.filter.restrict roundTrip)) ∧
      ∀ key entry, (runSubject subject environment options registry world).2.files.find? key = some entry ↔
        world.files.find? key = some entry ∨
          world.files.find? key = none ∧
          (runSubject subject environment { options with filter := .all } registry world).2.files.find? key =
            some entry ∧
          ∃ fixture ∈ Snapshot.casesIn environment .all world.files, options.filter.accepts fixture.name = true ∧
            world.files.locate true fixture.golden = .ok (.absent key) := by
  have hfiles : (started subject world).files = world.files := rfl
  obtain ⟨snapshots, hevery, haccepted, hrestricts⟩ :=
    Snapshot.runSuite_restricts henv hplain hsteady options hfiles
  obtain ⟨hinterop, hsmoke, hleaves⟩ :=
    runSubject_leaves hsteady.toTidy henv.isBadExtension options registry world
  obtain ⟨hinterop', hsmoke', hleaves'⟩ :=
    runSubject_leaves hsteady.toTidy henv.isBadExtension { options with filter := .all } registry world
  have hbeforeSmoke : BothAdded environment world.files (afterInterop subject environment options registry world).files
      (afterInterop subject environment { options with filter := .all } registry world).files := by
    rw [hinterop, hinterop']
    exact hrestricts.both
  have hbeforeRound : BothAdded environment world.files (afterSmoke subject environment options registry world).files
      (afterSmoke subject environment { options with filter := .all } registry world).files := by
    rw [hsmoke, hsmoke']
    exact hrestricts.both
  have hwhole := runSubject_findings registry hevery
  have hpart := runSubject_findings registry haccepted
  rw [Smoke.runSuite_restricts hsteady options hbeforeSmoke,
    RoundTrip.runSuite_restricts hsteady options hbeforeRound] at hpart
  refine ⟨snapshots, _, _, _, _, hwhole, hpart, fun key entry => ?_⟩
  rw [hleaves, hleaves']
  refine (hrestricts.find?_iff key entry).trans
    (or_congr_right (and_congr_right fun _ => and_congr_right fun _ => exists_congr fun fixture => ?_))
  rw [Snapshot.mem_casesIn, and_assoc]

/-! ## The second of two fixtures -/

open Snapshot (rootEnvironment twoSources firstCase secondCase)

/-- The filter that accepts the second of two fixtures only. -/
def secondOnly : Filter :=
  ⟨some ⟨[.char 'b', .char '.', .char 't', .char 'e', .char 's', .char 't']⟩⟩

theorem secondOnly_accepts :
    secondOnly.accepts firstCase.name = false ∧ secondOnly.accepts secondCase.name = true := by
  decide +kernel

theorem steady_faultless (environment : Environment) (initial : Store) : faultless.Steady environment initial where
  toTidy := tidy_faultless
  fixtures _ _ _ := Errand.agree_pure _
  source _ _ _ _ _ hfound := ⟨⟨Errand.agree_pure _, rfl⟩, hfound⟩
  binary := Errand.agree_pure _
  text _ := Errand.agree_pure _

/-- Under the filter no golden file is created for the first fixture. -/
theorem runSubject_restricts_second :
    rootEnvironment.SetsApart ∧ (twoSources "".toUTF8).IsPlain ∧
      faultless.Steady rootEnvironment (twoSources "".toUTF8) ∧
      ∃ snapshots interop interop' smoke roundTrip,
        (runSubject faultless rootEnvironment ⟨true, false, .all⟩ .empty (.start (twoSources "".toUTF8) [])).1 =
          .ok (.ofFindings faultless.name snapshots interop smoke roundTrip) ∧
        (runSubject faultless rootEnvironment ⟨true, false, secondOnly⟩ .empty
            (.start (twoSources "".toUTF8) [])).1 =
          .ok (.ofFindings faultless.name (secondOnly.restrict snapshots) interop' (secondOnly.restrict smoke)
            (secondOnly.restrict roundTrip)) ∧
        (runSubject faultless rootEnvironment ⟨true, false, secondOnly⟩ .empty
          (.start (twoSources "".toUTF8) [])).2.files.find? ["a.test.wat"] = none := by
  have hplain := Snapshot.isPlain_twoSources "".toUTF8
  have hsteady := steady_faultless rootEnvironment (twoSources "".toUTF8)
  obtain ⟨snapshots, interop, interop', smoke, roundTrip, hevery, haccepted, hfiles⟩ :=
    runSubject_restricts (.start (twoSources "".toUTF8) []) Snapshot.setsApart_rootEnvironment hplain hsteady
      ⟨true, false, secondOnly⟩ .empty
  refine ⟨Snapshot.setsApart_rootEnvironment, hplain, hsteady, snapshots, interop, interop', smoke, roundTrip, hevery,
    haccepted, ?_⟩
  refine Option.eq_none_iff_forall_ne_some.mpr fun entry hentry => ?_
  rcases (hfiles ["a.test.wat"] entry).mp hentry with hinitial | ⟨-, -, fixture, hfixture, haccepts, habsent⟩
  · cases hinitial
  · rw [World.start, Snapshot.casesIn_twoSources] at hfixture
    rcases List.mem_pair.mp hfixture with rfl | rfl
    · rw [secondOnly_accepts.1] at haccepts
      cases haccepts
    -- the golden file of the second fixture is another one
    · obtain ⟨hplaced, hfits⟩ := placed_secondCase "".toUTF8
      rw [World.start, hplaced.locate hfits] at habsent
      revert habsent
      decide +kernel

/-! ## A compiler that looks at golden files -/

/-- A subject whose compiler fails where it sees the golden file of the first of two fixtures. -/
def looking : Subject :=
  let emission : Emission := ⟨.ok (), .ok "(module)", .ok .empty⟩
  { faultless with
    compiler := ⟨fun _ _ workspace =>
      (⟨if (workspace.files.find? ["a.test.wat"]).isSome then .error (.panic none)
        else .ok ⟨emission, [], fun kept => pure (.ok ([], emission), kept)⟩, []⟩, workspace)⟩ }

theorem tidy_looking : looking.Tidy where
  file _ _ _ := rfl
  smoke _ _ := rfl
  optimizer source workspace made h now _ := by
    dsimp only [looking] at h
    split at h
    · cases h
    · cases h
      rfl
  toBinary _ _ := Errand.tidy_pure _
  toText _ _ := Errand.tidy_pure _

/-- What the compiler comes to emit depends on the golden file. -/
theorem emission_looking {world : World} {fixture : SnapshotCase}
    (hread : world.files.readText fixture.source = .ok "") :
    Snapshot.emission? looking fixture world.workspace =
      if (world.files.find? ["a.test.wat"]).isSome then none else some "(module)" := by
  obtain ⟨directed, hdirected⟩ : ∃ directed, Directive.options "".toList = .ok directed := ⟨_, rfl⟩
  have hfound : world.workspace.files.readText fixture.source = .ok "" := hread
  rw [Snapshot.emission?, hfound]
  simp only [Snapshot.toOption_ok, hdirected, Option.bind_eq_bind, Option.bind_some]
  dsimp only [Invocation.of, looking, World.workspace]
  split <;> rfl

/-- A fixture fails once the golden file is there. -/
theorem runCase_seen {world : World} {fixture : SnapshotCase} (options : RunOptions)
    (hread : world.files.readText fixture.source = .ok "") (hseen : (world.files.find? ["a.test.wat"]).isSome) :
    (Snapshot.runCase looking fixture options world).1.outcome.isFailed = true := by
  have hemission := emission_looking hread
  rcases Snapshot.runCase_cases (tidy_looking.file _) options world with ⟨-, hfailed, -⟩ | ⟨text, htext, -⟩
  · exact hfailed
  · rw [hemission, if_pos hseen] at htext
    cases htext

/-- As long as it is not, a fixture has its own golden file created. -/
theorem runCase_unseen (world : World) (options : RunOptions) {fixture : SnapshotCase} {name : String}
    (hcreate : options.create = true) (hread : world.files.readText fixture.source = .ok "")
    (hunseen : world.files.find? ["a.test.wat"] = none) (hplaced : Golden.Placed world.files fixture.golden [] name)
    (hfits : Golden.Fits fixture.golden name) (hnone : world.files.find? [name] = none)
    (hopen : world.files.isSealed [name] = false) :
    (Snapshot.runCase looking fixture options world).1.outcome = .created fixture.golden ∧
      (Snapshot.runCase looking fixture options world).2.files =
        world.files.insert [name] (.file (Canonical.ofText "(module)").toUTF8) := by
  have hemission := emission_looking hread
  rcases Snapshot.runCase_cases (tidy_looking.file _) options world with ⟨htext, -⟩ | ⟨text, htext, houtcome, hleft⟩
  · rw [hemission, hunseen] at htext
    cases htext
  · rw [hemission, hunseen] at htext
    cases htext
    rw [hcreate, hplaced.judge_created (hplaced.readText_notFound_iff.mpr ⟨hnone, hfits⟩) hopen] at houtcome hleft
    exact ⟨houtcome, hleft⟩

/-- Without a filter the first fixture leaves the golden file that the compiler sees, and the second one fails. -/
theorem runSubject_looking :
    ∃ (whole : Summary) (failed : Report),
      (runSubject looking rootEnvironment ⟨true, false, .all⟩ .empty (.start (twoSources "".toUTF8) [])).1 =
        .ok whole ∧
      failed ∈ whole.reports ∧ failed.name = "dev/compiler/b.test" ∧ failed.outcome.isFailed = true := by
  have hstart : (started looking (.start (twoSources "".toUTF8) [])).files = twoSources "".toUTF8 := rfl
  have hsuite := Snapshot.runSuite_apply Snapshot.setsApart_rootEnvironment.isBadExtension looking ⟨true, false, .all⟩
    (started looking (.start (twoSources "".toUTF8) []))
  rw [hstart, Snapshot.casesIn_twoSources] at hsuite
  generalize hworld : (started looking (.start (twoSources "".toUTF8) [])).noted
    ((twoSources "".toUTF8).missing rootEnvironment.fixturesDirectory) = world at hsuite
  have hfiles : world.files = twoSources "".toUTF8 := by rw [← hworld, World.files_noted, hstart]
  have hgrows : Grows (twoSources "".toUTF8) world.files := hfiles ▸ .refl _
  have hunseen : world.files.find? ["a.test.wat"] = none := hfiles ▸ rfl
  obtain ⟨hplaced, hfits⟩ := placed_firstCase "".toUTF8
  obtain ⟨-, hleft⟩ := runCase_unseen world ⟨true, false, .all⟩ rfl
    (readText_twoSources hgrows firstCase (by simp)) hunseen (hfiles ▸ hplaced) hfits hunseen
    (hfiles ▸ rfl)
  have hseen := Store.grows_insert hunseen (Canonical.ofText "(module)").toUTF8
  rw [← hleft] at hseen
  have hfailed := runCase_seen ⟨true, false, .all⟩ (readText_twoSources (hgrows.trans hseen) secondCase (by simp))
    (by rw [hleft, Store.IsEnd.find?_insert_self (.inl hunseen)]; rfl)
  rw [Run.mapM_cons_apply, Run.mapM_cons_apply] at hsuite
  refine ⟨_, _, runSubject_findings _ (congrArg Prod.fst hsuite),
    List.mem_cons_of_mem _ List.mem_cons_self, ?_, hfailed⟩
  dsimp only [Finding.report]
  rw [Snapshot.runCase_fixture]
  decide

/-- Under the filter the second fixture is the only one, and nothing fails. -/
theorem runSubject_looking_secondOnly :
    ∃ part, (runSubject looking rootEnvironment ⟨true, false, secondOnly⟩ .empty
      (.start (twoSources "".toUTF8) [])).1 = .ok part ∧ part.allPassed = true := by
  obtain ⟨part, hrun, hpasses⟩ := runSubject_passes_iff looking rootEnvironment ⟨true, false, secondOnly⟩ .empty
    (.start (twoSources "".toUTF8) []) Snapshot.setsApart_rootEnvironment.isBadExtension
  have hstart : (started looking (.start (twoSources "".toUTF8) [])).files = twoSources "".toUTF8 := rfl
  have hkept : [firstCase, secondCase].filter (fun fixture => secondOnly.accepts fixture.name) = [secondCase] := by
    simp [secondOnly_accepts]
  have hsmoke : secondOnly.accepts Smoke.name = false := by decide +kernel
  have hround : secondOnly.accepts RoundTrip.name = false := by decide +kernel
  refine ⟨part, hrun, hpasses.mpr ⟨fun turn hturn => ?_, .inr (.inl ⟨_, rfl⟩), fun haccepts => ?_, fun haccepts => ?_⟩⟩
  · rw [Snapshot.turns, hstart, Snapshot.casesIn_eq_filter, Snapshot.casesIn_twoSources, hkept] at hturn
    obtain rfl := List.mem_singleton.mp hturn
    obtain ⟨hplaced, hfits⟩ := placed_secondCase "".toUTF8
    obtain ⟨hcreated, -⟩ := runCase_unseen ((started looking (.start (twoSources "".toUTF8) [])).noted
      ((twoSources "".toUTF8).missing rootEnvironment.fixturesDirectory)) ⟨true, false, secondOnly⟩ rfl
      (readText_twoSources (.refl _) secondCase (by simp)) rfl hplaced hfits rfl rfl
    rw [← Snapshot.runCase_passes_iff, hcreated]
    rfl
  · rw [hsmoke] at haccepts
    cases haccepts
  · rw [hround] at haccepts
    cases haccepts

/-- A compiler that looks at golden files can tell a run under a filter from one without: the second fixture, which the
filter accepts, fails without it, and under it nothing fails. -/
theorem not_restricted :
    rootEnvironment.SetsApart ∧ (twoSources "".toUTF8).IsPlain ∧ looking.Tidy ∧
      secondOnly.accepts secondCase.name = true ∧
      ∃ (whole part : Summary) (failed : Report),
        (runSubject looking rootEnvironment ⟨true, false, .all⟩ .empty (.start (twoSources "".toUTF8) [])).1 =
          .ok whole ∧
        (runSubject looking rootEnvironment ⟨true, false, secondOnly⟩ .empty (.start (twoSources "".toUTF8) [])).1 =
          .ok part ∧
        failed ∈ whole.reports ∧ failed.name = "dev/compiler/b.test" ∧ failed.outcome.isFailed = true ∧
        part.allPassed = true := by
  obtain ⟨whole, failed, hwhole, hmem, hname, hfailed⟩ := runSubject_looking
  obtain ⟨part, hpart, hpassed⟩ := runSubject_looking_secondOnly
  exact ⟨Snapshot.setsApart_rootEnvironment, Snapshot.isPlain_twoSources _, tidy_looking, secondOnly_accepts.2, whole,
    part, failed, hwhole, hpart, hmem, hname, hfailed, hpassed⟩

end Session

end GoldenBench
