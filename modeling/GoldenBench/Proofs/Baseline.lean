import GoldenBench.Proofs.Additions

/-!
# The first subject sets the baseline

When golden files may be created, the first subject whose module of a fixture comes to emit a text writes the golden
file that is missing. All later subjects are measured by it, and nothing else in the file tree changes.

* `Recorded`: what the file tree holds once some turns are over.
* `Recorded.step`: one more turn, and what it comes to (`Settled`).
* `Session.runAll_records`: a whole run.
-/

namespace GoldenBench

open GoldenBench.Path (named)
open Store (Grows)

/-- A turn of a snapshot fixture: the subject, the fixture and the world in which the turn starts. -/
structure Visit where
  /-- The subject. -/
  subject : Subject
  /-- The fixture. -/
  fixture : SnapshotCase
  /-- The world in which the turn starts. -/
  world : World

namespace Visit

variable {fixture : SnapshotCase} {visit : Visit} {seen : List Visit}

/-- The canonical form of the text that the module comes to emit. -/
def text? (visit : Visit) : Option String :=
  (Snapshot.emission? visit.subject visit.fixture visit.world.workspace).map Canonical.ofText

/-- What the turn comes to. -/
def finding (options : RunOptions) (visit : Visit) : Finding :=
  (Snapshot.runCase visit.subject visit.fixture options visit.world).1

/-- The file tree that the turn leaves. -/
def left (options : RunOptions) (visit : Visit) : Store :=
  (Snapshot.runCase visit.subject visit.fixture options visit.world).2.files

/-- A turn comes to a comparison of its text, or it fails and leaves everything as it was. -/
theorem comes_to (visit : Visit)
    (h : ∀ asked, (visit.subject.compiler.compile (.file visit.fixture.source) asked).Tidy) (options : RunOptions) :
    (visit.text? = none ∧ (visit.finding options).outcome.isFailed ∧ visit.left options = visit.world.files) ∨
      ∃ text, visit.text? = some text ∧
        (visit.finding options).outcome = Snapshot.verdictOutcome visit.fixture.golden options.color
          (Golden.judge text visit.fixture.golden options.create visit.world.files).1 ∧
        visit.left options = (Golden.judge text visit.fixture.golden options.create visit.world.files).2 := by
  rw [text?]
  rcases Snapshot.runCase_cases h options visit.world with ⟨hemission, hfailed, hleft⟩ | ⟨emitted, hemission, hcomes⟩
  · rw [hemission]
    exact .inl ⟨rfl, hfailed, hleft⟩
  · rw [hemission]
    exact .inr ⟨_, rfl, hcomes⟩

/-- The first text that turns of a fixture come to. -/
def first? (fixture : SnapshotCase) (visits : List Visit) : Option String :=
  visits.findSome? fun visit => if visit.fixture = fixture then visit.text? else none

theorem first?_concat (fixture : SnapshotCase) (seen : List Visit) (visit : Visit) :
    first? fixture (seen ++ [visit]) =
      (first? fixture seen).or (if visit.fixture = fixture then visit.text? else none) := by
  rw [first?, List.findSome?_append, first?, List.findSome?_singleton]

theorem first?_concat_of_ne (h : visit.fixture ≠ fixture) : first? fixture (seen ++ [visit]) = first? fixture seen := by
  rw [first?_concat, if_neg h, Option.or_none]

theorem canonical_of_first? {text : String} (h : first? fixture seen = some text) : Canonical.ofText text = text := by
  obtain ⟨visit, -, hvisit⟩ := List.exists_of_findSome?_eq_some h
  split at hvisit
  · obtain ⟨emitted, -, rfl⟩ := Option.map_eq_some_iff.mp hvisit
    exact Canonical.ofText_ofText emitted
  · cases hvisit

end Visit

/-! ## What a turn comes to -/

/-- The golden file of a fixture is not there, although it could be. -/
def Missing (files : Store) (fixture : SnapshotCase) : Prop :=
  ∃ key, files.locate true fixture.golden = .ok (.absent key)

/-- The outcome is that a text differs from the golden file, with a difference that both can be read off. -/
def Mismatch (fixture : SnapshotCase) (color : Bool) (kept text : String) (outcome : Outcome) : Prop :=
  ∃ diff : Diff, diff.isIdentical = false ∧ diff.Rebuilds kept text ∧ outcome = .failureWith
    ("output differs from " ++ fixture.golden.text ++ " in " ++ toString diff.changes ++ " places") (diff.render color)

/-- What a turn comes to after others. -/
structure Settled (initial : Store) (options : RunOptions) (seen : List Visit) (visit : Visit) : Prop where
  /-- It fails if no text comes to be emitted. -/
  failed : visit.text? = none → (visit.finding options).outcome.isFailed
  /-- The golden file is created by the first text, if it was missing, and by nothing else. -/
  created : ∀ path, (visit.finding options).outcome = .created path ↔ path = visit.fixture.golden ∧
    Missing initial visit.fixture ∧ visit.text?.isSome ∧ Visit.first? visit.fixture seen = none
  /-- Any later text is measured by the first one. -/
  measured : Missing initial visit.fixture → ∀ text kept, visit.text? = some text →
    Visit.first? visit.fixture seen = some kept →
      (text = kept → (visit.finding options).outcome = .passed) ∧
      (text ≠ kept → Mismatch visit.fixture options.color kept text (visit.finding options).outcome)

/-- What the file tree holds once some turns are over: everything that it held at first, and the first text of each
fixture whose golden file was missing. -/
structure Recorded (initial : Store) (fixtures : List SnapshotCase) (seen : List Visit) (files : Store) : Prop where
  /-- The tree is plain. -/
  plain : files.IsPlain
  /-- Everything is still there. -/
  grows : Grows initial files
  /-- A golden file that was missing holds the first text of its fixture. -/
  golden : ∀ fixture ∈ fixtures, ∀ key, initial.locate true fixture.golden = .ok (.absent key) →
    files.find? key = (Visit.first? fixture seen).map fun text => .file text.toUTF8
  /-- Nothing but such golden files was added. -/
  added : ∀ key entry, initial.find? key = none → files.find? key = some entry →
    ∃ fixture ∈ fixtures, initial.locate true fixture.golden = .ok (.absent key)

/-- No missing golden file belongs into a sealed directory. -/
def Unsealed (files : Store) (fixtures : List SnapshotCase) : Prop :=
  ∀ fixture ∈ fixtures, ∀ key, files.locate true fixture.golden = .ok (.absent key) → files.isSealed key = false

/-- Whatever golden file does not exist can be written. -/
def Writable (files : Store) (fixtures : List SnapshotCase) : Prop :=
  ∀ fixture ∈ fixtures, files.holds fixture.golden = false →
    ∀ content, ∃ after, files.write fixture.golden content = .ok after

variable {environment : Environment} {filter : Filter} {options : RunOptions} {initial files : Store}
  {fixtures : List SnapshotCase} {fixture : SnapshotCase} {subject : Subject} {seen : List Visit} {world : World}
  {key : Key} {text kept : String}

theorem Writable.missing_or_found (h : Writable files fixtures) (hfixture : fixture ∈ fixtures) :
    Missing files fixture ∨ ∃ key entry, files.locate true fixture.golden = .ok (.found key entry) := by
  cases hholds : files.holds fixture.golden with
  | true =>
    rw [Store.holds] at hholds
    split at hholds
    · exact .inr ⟨_, _, ‹_›⟩
    · cases hholds
  | false =>
    obtain ⟨after, hwrite⟩ := h fixture hfixture hholds .empty
    obtain ⟨-, key, -, ⟨kept, hfound⟩ | ⟨habsent, -⟩⟩ := Store.write_eq_ok.mp hwrite
    · exact .inr ⟨key, _, hfound⟩
    · exact .inl ⟨key, habsent⟩

theorem Writable.unsealed (h : Writable files fixtures) : Unsealed files fixtures := by
  intro fixture hfixture key habsent
  have hholds : files.holds fixture.golden = false := by rw [Store.holds, habsent]
  obtain ⟨after, hwrite⟩ := h fixture hfixture hholds .empty
  obtain ⟨-, key', -, ⟨kept, hfound⟩ | ⟨habsent', hopen⟩⟩ := Store.write_eq_ok.mp hwrite
  · rw [habsent] at hfound
    cases hfound
  · rw [habsent] at habsent'
    cases habsent'
    exact hopen

/-- Where something is, nothing is created. -/
theorem Golden.judge_of_found {golden : Path} {entry : Entry} (h : files.locate true golden = .ok (.found key entry))
    (actual : String) (mayCreate : Bool) :
    (judge actual golden mayCreate files).2 = files ∧
      ∀ path, (judge actual golden mayCreate files).1 ≠ .ok (.created path) := by
  cases hread : files.readText golden with
  | ok kept =>
    obtain ⟨hleft, hanswer⟩ := judge_read hread actual mayCreate
    refine ⟨hleft, fun path hcreated => ?_⟩
    rcases hanswer with ⟨-, hmatched⟩ | ⟨-, diff, hdiffers, -⟩
    · rw [hmatched] at hcreated
      cases hcreated
    · rw [hdiffers] at hcreated
      cases hcreated
  | error fault =>
    have hfault : fault ≠ .notFound := by
      rintro rfl
      rw [Store.readText, Store.read, h] at hread
      cases entry with
      | file content => cases hvalid : String.fromUTF8? content <;> simp [hvalid] at hread
      | directory => cases hread
      | link target => cases hread
    rw [judge_unread hread hfault]
    exact ⟨rfl, fun path hcreated => by cases hcreated⟩

theorem Snapshot.verdictOutcome_eq_created {golden path : Path} {color : Bool}
    {verdict : Except ErrorChain Golden.Verdict} :
    verdictOutcome golden color verdict = .created path ↔ verdict = .ok (.created path) := by
  rcases verdict with chain | (_ | diff | path' | path') <;>
    simp [verdictOutcome, Outcome.failure, Outcome.failureWith]

/-! ## One more turn -/

namespace Recorded

/-- A turn that changes nothing and comes to no first text leaves what is recorded. -/
theorem unchanged {visit : Visit} (h : Recorded initial fixtures seen files)
    (hfirst : ∀ fixture ∈ fixtures, Missing initial fixture →
      Visit.first? fixture (seen ++ [visit]) = Visit.first? fixture seen) :
    Recorded initial fixtures (seen ++ [visit]) files where
  plain := h.plain
  grows := h.grows
  golden fixture hfixture key habsent := by
    rw [hfirst fixture hfixture ⟨key, habsent⟩]
    exact h.golden fixture hfixture key habsent
  added := h.added

/-- The golden file of a fixture that was missing has its place, and it is missing until there is a first text. -/
theorem placed (h : Recorded initial (Snapshot.casesIn environment filter initial) seen files)
    (henv : environment.SetsApart) (hplain : initial.IsPlain)
    (hfixture : fixture ∈ Snapshot.casesIn environment filter initial)
    (habsent : initial.locate true fixture.golden = .ok (.absent key)) :
    ∃ directory stem, key = directory ++ [named stem environment.goldenExtension] ∧
      Golden.Placed files fixture.golden directory (named stem environment.goldenExtension) ∧
      Golden.Fits fixture.golden (named stem environment.goldenExtension) ∧
      ∀ twin ∈ Snapshot.casesIn environment filter initial,
        initial.locate true twin.golden = .ok (.absent key) → twin = fixture := by
  obtain ⟨directory, stem, hseat, hown⟩ := Snapshot.exists_seat henv hplain hfixture
  obtain ⟨rfl, -, hplaced, hfits⟩ := hseat.placed_of_absent henv hplain habsent
  refine ⟨directory, stem, rfl, hplaced.grows h.grows, hfits, fun twin htwin habsent' => ?_⟩
  obtain ⟨directory', stem', hseat', -⟩ := Snapshot.exists_seat henv hplain htwin
  obtain ⟨hkey, -, -, -⟩ := hseat'.placed_of_absent henv hplain habsent'
  exact Snapshot.eq_of_golden_key hown htwin hseat' hkey

variable {visit : Visit}

/-- A turn without a text. -/
theorem visit_silent (h : Recorded initial fixtures seen visit.world.files) (htext : visit.text? = none)
    (hfailed : (visit.finding options).outcome.isFailed) :
    Recorded initial fixtures (seen ++ [visit]) visit.world.files ∧ Settled initial options seen visit := by
  refine ⟨h.unchanged fun twin _ _ => ?_, ?_⟩
  · rw [Visit.first?_concat, htext]
    simp
  · exact
      { failed := fun _ => hfailed
        created := fun path => by
          refine ⟨fun hcreated => ?_, by simp [htext]⟩
          rw [hcreated] at hfailed
          cases hfailed
        measured := by simp [htext] }

/-- With the first text of a fixture in its place, one more turn is recorded. -/
theorem insert_first (h : Recorded initial fixtures seen files) {directory : Key} {name : String}
    (hplaced : Golden.Placed files visit.fixture.golden directory name)
    (hfits : Golden.Fits visit.fixture.golden name) (hfixture : visit.fixture ∈ fixtures)
    (habsent : initial.locate true visit.fixture.golden = .ok (.absent (directory ++ [name])))
    (hown : ∀ twin ∈ fixtures, initial.locate true twin.golden = .ok (.absent (directory ++ [name])) →
      twin = visit.fixture)
    (hfirst : Visit.first? visit.fixture seen = none) (htext : visit.text? = some text) :
    Recorded initial fixtures (seen ++ [visit]) (files.insert (directory ++ [name]) (.file text.toUTF8)) := by
  have hnone := h.golden visit.fixture hfixture _ habsent
  rw [hfirst, Option.map_none] at hnone
  exact
    { plain := h.plain.insert (hplaced.isName hfits) hplaced.leads.find?_directory (.inl hnone) _
      grows := h.grows.trans (Store.grows_insert hnone _)
      golden := fun twin htwin key habsent' => by
        rw [Store.find?_insert _ _ _ _ (by simp)]
        by_cases hkey : key = directory ++ [name]
        · subst hkey
          obtain rfl := hown twin htwin habsent'
          rw [if_pos rfl, Visit.first?_concat, hfirst, if_pos rfl, htext]
          rfl
        -- another fixture has its golden file elsewhere, and no new text
        · have htwin_ne : visit.fixture ≠ twin := by
            rintro rfl
            rw [habsent] at habsent'
            cases habsent'
            exact hkey rfl
          rw [if_neg hkey, Visit.first?_concat_of_ne htwin_ne]
          exact h.golden twin htwin key habsent'
      added := fun key entry hbefore hafter => by
        rw [Store.find?_insert _ _ _ _ (by simp)] at hafter
        by_cases hkey : key = directory ++ [name]
        · exact ⟨visit.fixture, hfixture, hkey ▸ habsent⟩
        · rw [if_neg hkey] at hafter
          exact h.added key entry hbefore hafter }

/-- The first text of a fixture is written. -/
theorem visit_first (h : Recorded initial (Snapshot.casesIn environment filter initial) seen visit.world.files)
    (henv : environment.SetsApart) (hplain : initial.IsPlain)
    (hwritable : Writable initial (Snapshot.casesIn environment filter initial))
    (hfixture : visit.fixture ∈ Snapshot.casesIn environment filter initial) (hmissing : Missing initial visit.fixture)
    (hfirst : Visit.first? visit.fixture seen = none) (htext : visit.text? = some text)
    (houtcome : (visit.finding options).outcome = Snapshot.verdictOutcome visit.fixture.golden options.color
      (Golden.judge text visit.fixture.golden true visit.world.files).1) :
    Recorded initial (Snapshot.casesIn environment filter initial) (seen ++ [visit])
        (Golden.judge text visit.fixture.golden true visit.world.files).2 ∧
      Settled initial options seen visit := by
  obtain ⟨key, habsent⟩ := id hmissing
  obtain ⟨directory, stem, rfl, hplaced, hfits, hown⟩ := h.placed henv hplain hfixture habsent
  have hnone := h.golden visit.fixture hfixture _ habsent
  rw [hfirst, Option.map_none] at hnone
  have hopen := h.grows.isSealed_eq _ ▸ hwritable.unsealed _ hfixture _ habsent
  rw [hplaced.judge_created (hplaced.readText_notFound_iff.mpr ⟨hnone, hfits⟩) hopen] at houtcome ⊢
  refine ⟨h.insert_first hplaced hfits hfixture habsent hown hfirst htext, ?_⟩
  exact
    { failed := by simp [htext]
      created := fun path => by
        rw [houtcome, Snapshot.verdictOutcome_eq_created]
        simp [hmissing, htext, hfirst, eq_comm]
      measured := by simp [hfirst] }

/-- A later text of a fixture is compared with the first one. -/
theorem visit_later (h : Recorded initial (Snapshot.casesIn environment filter initial) seen visit.world.files)
    (henv : environment.SetsApart) (hplain : initial.IsPlain)
    (hfixture : visit.fixture ∈ Snapshot.casesIn environment filter initial) (hmissing : Missing initial visit.fixture)
    (hfirst : Visit.first? visit.fixture seen = some kept) (htext : visit.text? = some text)
    (houtcome : (visit.finding options).outcome = Snapshot.verdictOutcome visit.fixture.golden options.color
      (Golden.judge text visit.fixture.golden true visit.world.files).1) :
    Recorded initial (Snapshot.casesIn environment filter initial) (seen ++ [visit])
        (Golden.judge text visit.fixture.golden true visit.world.files).2 ∧
      Settled initial options seen visit := by
  obtain ⟨key, habsent⟩ := hmissing
  obtain ⟨directory, stem, rfl, hplaced, hfits, -⟩ := h.placed henv hplain hfixture habsent
  have hfile := h.golden visit.fixture hfixture _ habsent
  rw [hfirst, Option.map_some] at hfile
  obtain ⟨hleft, hanswer⟩ := Golden.judge_read (hplaced.readText_of_file hfits hfile) text true
  rw [Visit.canonical_of_first? hfirst] at hanswer
  rw [hleft]
  refine ⟨h.unchanged fun twin _ _ => ?_, ?_⟩
  · rw [Visit.first?_concat]
    split
    · rename_i heq
      rw [← heq, hfirst, Option.some_or]
    · exact Option.or_none
  · exact
      { failed := by simp [htext]
        created := fun path => by
          rw [houtcome, Snapshot.verdictOutcome_eq_created, hfirst]
          rcases hanswer with ⟨-, hmatched⟩ | ⟨-, diff, hdiffers, -⟩
          · simp [hmatched]
          · simp [hdiffers]
        measured := fun _ text' kept' htext' hkept' => by
          rw [htext, Option.some_inj] at htext'
          rw [hfirst, Option.some_inj] at hkept'
          subst htext' hkept'
          rw [houtcome]
          rcases hanswer with ⟨rfl, hmatched⟩ | ⟨hne, diff, hdiffers, hreal, hrebuilds⟩
          · rw [hmatched]
            exact ⟨fun _ => rfl, fun hne => absurd rfl hne⟩
          · rw [hdiffers]
            exact ⟨fun heq => absurd heq.symm hne, fun _ => ⟨diff, hreal, hrebuilds, rfl⟩⟩ }

/-- A golden file that was there from the start stays. -/
theorem visit_found {entry : Entry} (h : Recorded initial fixtures seen visit.world.files)
    (hfound : initial.locate true visit.fixture.golden = .ok (.found key entry)) (htext : visit.text? = some text)
    (houtcome : (visit.finding options).outcome = Snapshot.verdictOutcome visit.fixture.golden options.color
      (Golden.judge text visit.fixture.golden true visit.world.files).1) :
    Recorded initial fixtures (seen ++ [visit]) (Golden.judge text visit.fixture.golden true visit.world.files).2 ∧
      Settled initial options seen visit := by
  have hstays := Store.locate_keeps h.grows.kept.keeps
    (h.grows.kept _ _ (Store.holds_of_locate hfound)) hfound
  obtain ⟨hleft, hanswer⟩ := Golden.judge_of_found hstays text true
  have hpresent : ¬ Missing initial visit.fixture := by
    rintro ⟨key, habsent⟩
    rw [hfound] at habsent
    cases habsent
  rw [hleft]
  refine ⟨h.unchanged fun twin _ hmissing => Visit.first?_concat_of_ne ?_, ?_⟩
  · rintro rfl
    exact hpresent hmissing
  · exact
      { failed := by simp [htext]
        created := fun path => by
          rw [houtcome, Snapshot.verdictOutcome_eq_created]
          exact ⟨fun hcreated => absurd hcreated (hanswer path), fun hall => absurd hall.2.1 hpresent⟩
        measured := fun hmissing => absurd hmissing hpresent }

/-- One more turn. -/
theorem step (visit : Visit)
    (h : Recorded initial (Snapshot.casesIn environment filter initial) seen visit.world.files)
    (henv : environment.SetsApart) (hplain : initial.IsPlain) (hcreate : options.create = true)
    (hwritable : Writable initial (Snapshot.casesIn environment filter initial))
    (hfixture : visit.fixture ∈ Snapshot.casesIn environment filter initial)
    (htidy : ∀ asked, (visit.subject.compiler.compile (.file visit.fixture.source) asked).Tidy) :
    Recorded initial (Snapshot.casesIn environment filter initial) (seen ++ [visit]) (visit.left options) ∧
      Settled initial options seen visit := by
  rcases visit.comes_to htidy options with ⟨htext, hfailed, hleft⟩ | ⟨text, htext, houtcome, hleft⟩
  · rw [hleft]
    exact h.visit_silent htext hfailed
  · rw [hcreate] at houtcome hleft
    rw [hleft]
    rcases hwritable.missing_or_found hfixture with hmissing | ⟨key, entry, hfound⟩
    · cases hfirst : Visit.first? visit.fixture seen with
      | none => exact h.visit_first henv hplain hwritable hfixture hmissing hfirst htext houtcome
      | some kept => exact h.visit_later henv hplain hfixture hmissing hfirst htext houtcome
    · exact h.visit_found hfound htext houtcome

/-- Nothing but golden files is recorded. -/
theorem goldensAdded (h : Recorded initial (Snapshot.casesIn environment filter initial) seen files) :
    GoldensAdded environment filter initial files :=
  ⟨h.plain, h.grows, h.added⟩

end Recorded

/-! ## A whole run -/

/-- Every turn is settled after those before it. -/
def AllSettled (initial : Store) (options : RunOptions) : (seen visits : List Visit) → Prop
  | _, [] => True
  | seen, visit :: rest => Settled initial options seen visit ∧ AllSettled initial options (seen ++ [visit]) rest

theorem allSettled_append {visits more : List Visit} (h : AllSettled initial options seen visits)
    (hmore : AllSettled initial options (seen ++ visits) more) : AllSettled initial options seen (visits ++ more) := by
  induction visits generalizing seen with
  | nil => rwa [List.append_nil] at hmore
  | cons visit rest ih => exact ⟨h.1, ih h.2 (by rwa [List.append_assoc])⟩

theorem AllSettled.settled {visits before after : List Visit} {visit : Visit}
    (h : AllSettled initial options seen visits) (hvisits : visits = before ++ visit :: after) :
    Settled initial options (seen ++ before) visit := by
  subst hvisits
  induction before generalizing seen with
  | nil =>
    rw [List.append_nil]
    exact h.1
  | cons first rest ih =>
    rw [List.append_cons]
    exact ih h.2

/-- The fixtures of a tree that a run can write golden files for. -/
structure Environment.Prepared (environment : Environment) (filter : Filter) (initial : Store) : Prop where
  /-- Golden files are set apart. -/
  apart : environment.SetsApart
  /-- The tree is plain. -/
  plain : initial.IsPlain
  /-- Missing golden files can be written. -/
  writable : Writable initial (Snapshot.casesIn environment filter initial)

namespace Session

variable {registry : Registry}

/-- Turns of fixtures, one after another. -/
def visitsAlong (subject : Subject) (options : RunOptions) (fixtures : List SnapshotCase) (world : World) :
    List Visit :=
  (Run.along (fun fixture => Snapshot.runCase subject fixture options) fixtures world).map fun turn =>
    ⟨subject, turn.1, turn.2⟩

/-- The turns of the snapshot fixtures of a subject. -/
def visitsOf (environment : Environment) (options : RunOptions) (subject : Subject) (world : World) : List Visit :=
  visitsAlong subject options (Snapshot.casesIn environment options.filter world.files)
    ((started subject world).noted (world.files.missing environment.fixturesDirectory))

/-- The turns of the snapshot fixtures of all subjects of a run. -/
def visits (environment : Environment) (options : RunOptions) (registry : Registry) (subjects : List Subject)
    (world : World) : List Visit :=
  (turns environment options registry world subjects).flatMap fun turn => visitsOf environment options turn.1 turn.2

/-- Fixtures of a subject, one after another. -/
theorem recorded_along (henv : environment.Prepared options.filter initial) (hcreate : options.create = true)
    (htidy : subject.Tidy) {fixtures : List SnapshotCase}
    (hfixtures : ∀ fixture ∈ fixtures, fixture ∈ Snapshot.casesIn environment options.filter initial) (world : World)
    (h : Recorded initial (Snapshot.casesIn environment options.filter initial) seen world.files) :
    Recorded initial (Snapshot.casesIn environment options.filter initial)
        (seen ++ visitsAlong subject options fixtures world)
        (fixtures.mapM (fun fixture => Snapshot.runCase subject fixture options) world).2.files ∧
      AllSettled initial options seen (visitsAlong subject options fixtures world) := by
  induction fixtures generalizing seen world with
  | nil => exact ⟨by rwa [visitsAlong, Run.along, List.map_nil, List.append_nil], trivial⟩
  | cons fixture rest ih =>
    obtain ⟨hrecorded, hsettled⟩ := Recorded.step ⟨subject, fixture, world⟩ h henv.apart henv.plain hcreate
      henv.writable (hfixtures fixture List.mem_cons_self) (htidy.file _)
    obtain ⟨hrest, hsettledRest⟩ := ih (fun fixture hmem => hfixtures fixture (List.mem_cons_of_mem _ hmem)) _ hrecorded
    have hvisits : visitsAlong subject options (fixture :: rest) world = ⟨subject, fixture, world⟩ ::
      visitsAlong subject options rest (Snapshot.runCase subject fixture options world).2 := rfl
    rw [Run.mapM_cons_apply, hvisits, List.append_cons]
    exact ⟨hrest, hsettled, hsettledRest⟩

/-- All fixtures of a subject. -/
theorem recorded_subject (henv : environment.Prepared options.filter initial) (hcreate : options.create = true)
    (htidy : subject.Tidy) (registry : Registry) (world : World)
    (h : Recorded initial (Snapshot.casesIn environment options.filter initial) seen world.files) :
    Recorded initial (Snapshot.casesIn environment options.filter initial)
        (seen ++ visitsOf environment options subject world)
        (runSubject subject environment options registry world).2.files ∧
      AllSettled initial options seen (visitsOf environment options subject world) ∧
      (visitsOf environment options subject world).map Visit.fixture =
        Snapshot.casesIn environment options.filter initial ∧
      ∃ summary, (runSubject subject environment options registry world).1 = .ok summary ∧
        (visitsOf environment options subject world).map
          (fun visit => (visit.finding options).report subject.name Snapshot.suite) <+: summary.reports := by
  have hgolden := henv.apart.isBadExtension
  -- golden files are no sources, so discovery finds the fixtures of the first tree again
  have hcases : Snapshot.casesIn environment options.filter world.files =
      Snapshot.casesIn environment options.filter initial :=
    h.goldensAdded.casesIn_eq henv.apart henv.plain options.filter
  obtain ⟨hrecorded, hsettled⟩ := recorded_along henv hcreate htidy (fun _ hmem => hmem)
    ((started subject world).noted (world.files.missing environment.fixturesDirectory)) h
  obtain ⟨-, -, hleaves⟩ := runSubject_leaves htidy hgolden options registry world
  have hsuite := Snapshot.runSuite_apply hgolden subject options (started subject world)
  have hfiles : (started subject world).files = world.files := rfl
  rw [hfiles, hcases] at hsuite
  rw [hleaves, afterSnapshots, hsuite, visitsOf, hcases]
  refine ⟨hrecorded, hsettled, ?_,
    _, congrArg Prod.fst (runSubject_apply subject environment options registry world (congrArg Prod.fst hsuite)), ?_⟩
  · rw [visitsAlong, List.map_map]
    exact Run.map_fst_along _ _ _
  · rw [Run.mapM_eq, visitsAlong, List.map_map, List.map_map, List.append_assoc, List.append_assoc]
    exact List.prefix_append _ _

/-- All subjects, one after another. -/
theorem recorded_all (henv : environment.Prepared options.filter initial) (hcreate : options.create = true)
    {subjects : List Subject} (htidy : ∀ subject ∈ subjects, subject.Tidy) (registry : Registry) (world : World)
    (h : Recorded initial (Snapshot.casesIn environment options.filter initial) seen world.files) :
    Recorded initial (Snapshot.casesIn environment options.filter initial)
        (seen ++ visits environment options registry subjects world)
        (runAll environment options registry subjects world).2.files ∧
      AllSettled initial options seen (visits environment options registry subjects world) ∧
      ∃ summaries, (runAll environment options registry subjects world).1 = .ok summaries ∧
        List.Forall₂ (fun turn summary =>
          (visitsOf environment options turn.1 turn.2).map Visit.fixture =
            Snapshot.casesIn environment options.filter initial ∧
          (visitsOf environment options turn.1 turn.2).map
            (fun visit => (visit.finding options).report turn.1.name Snapshot.suite) <+: summary.reports)
          (turns environment options registry world subjects) summaries := by
  induction subjects generalizing seen world with
  | nil => exact ⟨by rwa [visits, turns, Run.along, List.flatMap_nil, List.append_nil], trivial, [], rfl, .nil⟩
  | cons subject rest ih =>
    obtain ⟨hrecorded, hsettled, hfixtures, summary, hrun, hreports⟩ :=
      recorded_subject henv hcreate (htidy subject List.mem_cons_self) registry world h
    obtain ⟨hend, hsettledRest, summaries, hrest, hall⟩ :=
      ih (fun subject hmem => htidy subject (List.mem_cons_of_mem _ hmem)) _ hrecorded
    have hvisits : visits environment options registry (subject :: rest) world =
      visitsOf environment options subject world ++ visits environment options registry rest
        (runSubject subject environment options registry world).2 := rfl
    rw [runAll_cons_apply subject environment options registry world hrun hrest, hvisits, ← List.append_assoc]
    exact ⟨hend, allSettled_append hsettled hsettledRest, _, rfl, .cons ⟨hfixtures, hreports⟩ hall⟩

theorem recorded_initial (henv : environment.Prepared filter initial) :
    Recorded initial (Snapshot.casesIn environment filter initial) [] initial where
  plain := henv.plain
  grows := .refl initial
  golden _ _ _ habsent := Store.holds_of_locate habsent
  added key entry hnone hsome := by
    rw [hnone] at hsome
    cases hsome

/-- In a run that may create golden files, the first text that a fixture comes to emit sets the baseline: if the golden
file was missing, it holds that text in the end, only the turn of that text creates it, and all later texts are measured
by it. Nothing else is changed or added, and every subject visits the same fixtures, each of them once. -/
theorem runAll_records (world : World) (henv : environment.Prepared options.filter world.files)
    (hcreate : options.create = true) {subjects : List Subject} (htidy : ∀ subject ∈ subjects, subject.Tidy) :
    (runAll environment options registry subjects world).2.files.Extends world.files ∧
    (∀ key entry, world.files.find? key = none →
      ((runAll environment options registry subjects world).2.files.find? key = some entry ↔
        ∃ fixture ∈ Snapshot.casesIn environment options.filter world.files,
          world.files.locate true fixture.golden = .ok (.absent key) ∧
          ∃ text, Visit.first? fixture (visits environment options registry subjects world) = some text ∧
            entry = .file text.toUTF8)) ∧
    (∀ before visit after, visits environment options registry subjects world = before ++ visit :: after →
      Settled world.files options before visit) ∧
    (Snapshot.casesIn environment options.filter world.files).Nodup ∧
    ∃ summaries, (runAll environment options registry subjects world).1 = .ok summaries ∧
      List.Forall₂ (fun turn summary =>
        (visitsOf environment options turn.1 turn.2).map Visit.fixture =
          Snapshot.casesIn environment options.filter world.files ∧
        (visitsOf environment options turn.1 turn.2).map
          (fun visit => (visit.finding options).report turn.1.name Snapshot.suite) <+: summary.reports)
        (turns environment options registry world subjects) summaries := by
  obtain ⟨hrecorded, hsettled, hsummaries⟩ :=
    recorded_all henv hcreate htidy registry world (recorded_initial henv)
  rw [List.nil_append] at hrecorded
  refine ⟨hrecorded.grows.kept, fun key entry hnone => ⟨fun hsome => ?_, ?_⟩,
    fun before visit after hvisits => hsettled.settled hvisits,
    Snapshot.nodup_casesIn environment options.filter henv.plain, hsummaries⟩
  · obtain ⟨fixture, hfixture, habsent⟩ := hrecorded.added key entry hnone hsome
    rw [hrecorded.golden fixture hfixture key habsent] at hsome
    obtain ⟨text, hfirst, rfl⟩ := Option.map_eq_some_iff.mp hsome
    exact ⟨fixture, hfixture, habsent, text, hfirst, rfl⟩
  · rintro ⟨fixture, hfixture, habsent, text, hfirst, rfl⟩
    rw [hrecorded.golden fixture hfixture key habsent, hfirst]
    rfl

/-! ## Two subjects on two sources -/

open Snapshot (rootEnvironment twoSources firstCase secondCase)

theorem placed_firstCase (content : ByteArray) :
    Golden.Placed (twoSources content) firstCase.golden [] "a.test.wat" ∧
      Golden.Fits firstCase.golden "a.test.wat" :=
  ⟨Golden.placed_root (by decide) (by decide) (fun _ hlink => nomatch hlink),
    (Snapshot.fault?_twoSources firstCase (by simp)).2, by decide⟩

theorem placed_secondCase (content : ByteArray) :
    Golden.Placed (twoSources content) secondCase.golden [] "b.test.wat" ∧
      Golden.Fits secondCase.golden "b.test.wat" :=
  ⟨Golden.placed_root (by decide) (by decide) (fun _ hlink => nomatch hlink),
    (Snapshot.fault?_twoSources secondCase (by simp)).2, by decide⟩

theorem prepared_twoSources (content : ByteArray) : rootEnvironment.Prepared .all (twoSources content) where
  apart := Snapshot.setsApart_rootEnvironment
  plain := Snapshot.isPlain_twoSources content
  writable fixture hfixture _ golden := by
    rw [Snapshot.casesIn_twoSources, List.mem_pair] at hfixture
    obtain ⟨hfirst, hfits⟩ := placed_firstCase content
    obtain ⟨hsecond, hfits'⟩ := placed_secondCase content
    rcases hfixture with rfl | rfl
    · exact ⟨_, hfirst.write rfl hfits golden⟩
    · exact ⟨_, hsecond.write rfl hfits' golden⟩

/-- The sources stay empty, whatever is added. -/
theorem readText_twoSources {files : Store} (h : Grows (twoSources "".toUTF8) files) :
    ∀ fixture ∈ [firstCase, secondCase], files.readText fixture.source = .ok "" := by
  intro fixture hfixture
  have hfault := (Snapshot.fault?_twoSources fixture hfixture).1
  rcases List.mem_pair.mp hfixture with rfl | rfl
  · exact Golden.readText_root "a.test.ts" (by decide) (by decide) ⟨hfault, by decide⟩ (h.kept _ _ rfl)
  · exact Golden.readText_root "b.test.ts" (by decide) (by decide) ⟨hfault, by decide⟩ (h.kept _ _ rfl)

theorem text?_interrupted (fixture : SnapshotCase) (world : World) :
    Visit.text? ⟨interrupted, fixture, world⟩ = none := by
  rw [Visit.text?, Snapshot.emission?]
  cases world.workspace.files.readText fixture.source with
  | error fault => rfl
  | ok source =>
    rw [Snapshot.toOption_ok, Option.bind_eq_bind, Option.bind_some]
    cases Directive.options source.toList with
    | error fault => rfl
    | ok directed => rfl

theorem text?_faultless {world : World} (h : Grows (twoSources "".toUTF8) world.files) :
    Visit.text? ⟨faultless, firstCase, world⟩ = some "(module)" := by
  have hread : world.workspace.files.readText firstCase.source = .ok "" :=
    readText_twoSources h firstCase List.mem_cons_self
  obtain ⟨directed, hdirected⟩ : ∃ directed, Directive.options "".toList = .ok directed := ⟨_, rfl⟩
  rw [Visit.text?, Snapshot.emission?, hread]
  simp only [Snapshot.toOption_ok, hdirected, Option.bind_eq_bind, Option.bind_some]
  change some (Canonical.ofText "(module)") = some "(module)"
  decide

/-- The turns of a subject on two sources, whatever golden files there are already. -/
theorem visitsOf_twoSources (options : RunOptions) (hfilter : options.filter = .all) (world : World)
    (h : Recorded (twoSources "".toUTF8) (Snapshot.casesIn rootEnvironment .all (twoSources "".toUTF8)) seen
      world.files) (subject : Subject) :
    ∃ first second : World, first.files = world.files ∧
      visitsOf rootEnvironment options subject world =
        [⟨subject, firstCase, first⟩, ⟨subject, secondCase, second⟩] := by
  have hcases := h.goldensAdded.casesIn_eq Snapshot.setsApart_rootEnvironment (Snapshot.isPlain_twoSources _) .all
  rw [visitsOf, hfilter, hcases, Snapshot.casesIn_twoSources]
  exact ⟨(started subject world).noted (world.files.missing rootEnvironment.fixturesDirectory), _, rfl, rfl⟩

/-- A subject whose compiler is interrupted leaves it to the next one to create the golden file. -/
theorem runAll_second_creates : rootEnvironment.Prepared .all (twoSources "".toUTF8) ∧
    (∀ subject ∈ [interrupted, faultless], subject.Tidy) ∧
    (runAll rootEnvironment ⟨true, false, .all⟩ .empty [interrupted, faultless]
      (.start (twoSources "".toUTF8) [])).2.files.find? ["a.test.wat"] = some (.file "(module)".toUTF8) := by
  have htidy : ∀ subject ∈ [interrupted, faultless], subject.Tidy := fun subject hmem => by
    rcases List.mem_pair.mp hmem with rfl | rfl
    · exact tidy_interrupted
    · exact tidy_faultless
  have hprepared := prepared_twoSources "".toUTF8
  obtain ⟨-, hnew, -⟩ := @runAll_records rootEnvironment ⟨true, false, .all⟩ .empty
    (.start (twoSources "".toUTF8) []) hprepared rfl _ htidy
  refine ⟨hprepared, htidy, (hnew ["a.test.wat"] _ rfl).mpr ⟨firstCase, ?_, ?_, "(module)", ?_, rfl⟩⟩
  · rw [World.start, Snapshot.casesIn_twoSources]
    exact List.mem_cons_self
  · obtain ⟨hplaced, hfits⟩ := placed_firstCase "".toUTF8
    exact hplaced.locate hfits true
  · obtain ⟨hrecorded, -⟩ := @recorded_subject rootEnvironment ⟨true, false, .all⟩ _ _ _ hprepared rfl
      tidy_interrupted .empty (.start (twoSources "".toUTF8) []) (recorded_initial hprepared)
    obtain ⟨first, second, -, hvisits⟩ := visitsOf_twoSources ⟨true, false, .all⟩ rfl
      (.start (twoSources "".toUTF8) []) (recorded_initial hprepared) interrupted
    obtain ⟨first', second', hfiles, hvisits'⟩ := visitsOf_twoSources ⟨true, false, .all⟩ rfl _ hrecorded faultless
    have hgrows : Grows (twoSources "".toUTF8) first'.files := hfiles ▸ hrecorded.grows
    have htext := text?_faultless hgrows
    rw [visits, turns, Run.along, Run.along, Run.along, List.flatMap_cons, List.flatMap_cons, List.flatMap_nil, hvisits,
      hvisits']
    simp [Visit.first?, text?_interrupted, htext]

end Session

end GoldenBench
