import GoldenBench.Proofs.Files.Room
import GoldenBench.Proofs.Isolation.Snapshots

/-!
# Golden files that are added

Golden files are all that a run with tidy tools can add to a file tree (`GoldensAdded`). The sources stay what they
are, and whatever could be read at first is read again.

* `Store.Leads.readText_grows`: what is read by a path as the tree grows.
* `GoldensAdded.casesIn_eq` and `GoldensAdded.interop_casesIn_eq`: the same fixtures are discovered.
* `GoldensAdded.runCase`: one turn, and `GoldensAdded.runSubject`: a whole subject.
-/

namespace GoldenBench

open GoldenBench.Path (named)
open Store (Grows)

variable {environment : Environment} {filter : Filter} {initial files after : Store} {directory : Key} {path : Path}
  {name : String} {fixture : SnapshotCase} {subject : Subject}

/-! ## Reading again -/

namespace Store

/-- A name comes to nothing in a directory, or it comes to the same as the tree grows. -/
theorem IsPlain.lookIn_grows (hplain : files.IsPlain) (hdirectory : files.find? directory = some .directory)
    (hgrows : Grows files after) :
    (∃ key, files.lookIn directory name = .ok (.absent key)) ∨
      files.lookIn directory name ≠ .error .notFound ∧ after.lookIn directory name = files.lookIn directory name := by
  have habove := hplain.find?_above hdirectory
  rw [lookIn, lookIn, habove, hgrows.kept _ _ habove]
  by_cases hup : name = ".."
  · simp [hup]
  · by_cases hlimit : nameLimit < name.utf8ByteSize
    · simp [hup, hlimit]
    · cases hfind : files.find? (directory ++ [name]) with
      | none => simp [hup, hlimit]
      | some entry => simp [hup, hlimit, hgrows.kept _ _ hfind]

/-- Nothing is where a path leads, or the same is read there as the tree grows. -/
theorem Leads.readText_grows (h : files.Leads path directory name) (hname : name ≠ "" ∧ name ≠ ".")
    (hplain : files.IsPlain) (hafter : after.IsPlain) (hgrows : Grows files after) :
    (∃ key, files.locate true path = .ok (.absent key)) ∨
      files.readText path ≠ .error .notFound ∧ after.readText path = files.readText path := by
  rw [readText, readText, read, read]
  cases hfault : path.fault? with
  | some fault =>
    rw [locate_of_fault hfault, locate_of_fault hfault]
    refine .inr ⟨fun hnone => ?_, rfl⟩
    -- only an empty path has this fault
    cases hnone
    exact absurd hfault (h.fault?_ne_notFound hname.1)
  | none =>
    have hlocate := locate_of_leads h hname (hplain.find?_ne_link _) hfault true
    have hlocate' := locate_of_leads (h.keeps hgrows.kept.keeps) hname (hafter.find?_ne_link _) hfault true
    rw [hlocate, hlocate']
    rcases hplain.lookIn_grows h.find?_directory hgrows with habsent | ⟨hfault, hsame⟩
    · exact .inl habsent
    · rw [hsame]
      cases hlook : files.lookIn directory name with
      | error fault =>
        rw [hlook] at hfault
        exact .inr ⟨fun h => hfault (by simpa using h), rfl⟩
      | ok place =>
        cases place with
        | absent key => exact .inl ⟨key, rfl⟩
        | found key entry =>
          cases entry with
          | file content => cases hvalid : String.fromUTF8? content <;> exact .inr (by simp [hvalid])
          | directory => exact .inr (by simp)
          | link target => exact .inr (by simp)

end Store

/-! ## Trees with golden files added -/

/-- A tree that came from another one by nothing but golden files of its fixtures being added. -/
structure GoldensAdded (environment : Environment) (filter : Filter) (initial files : Store) : Prop where
  /-- The tree is plain. -/
  plain : files.IsPlain
  /-- Everything is still there. -/
  grows : Grows initial files
  /-- What is new are golden files that were missing. -/
  added : ∀ key entry, initial.find? key = none → files.find? key = some entry →
    ∃ fixture ∈ Snapshot.casesIn environment filter initial, initial.locate true fixture.golden = .ok (.absent key)

namespace GoldensAdded

theorem refl (hplain : initial.IsPlain) : GoldensAdded environment filter initial initial where
  plain := hplain
  grows := .refl initial
  added key entry hnone hsome := by
    rw [hnone] at hsome
    cases hsome

/-- What is added is no source. -/
theorem sameSources (h : GoldensAdded environment filter initial files) (henv : environment.SetsApart)
    (hplain : initial.IsPlain) : Store.SameSources environment.sourceExtension initial files where
  directories key := (h.grows.find?_iff (by simp)).symm
  files directory stem hstem := by
    refine ⟨fun ⟨content, hfile⟩ => ⟨content, h.grows.kept _ _ hfile⟩, fun ⟨content, hfile⟩ => ?_⟩
    cases hbefore : initial.find? (directory ++ [named stem environment.sourceExtension]) with
    | some entry =>
      rw [h.grows.kept _ _ hbefore] at hfile
      exact ⟨content, hfile⟩
    -- a new file would be a golden file, which has another extension
    | none =>
      obtain ⟨fixture, hfixture, habsent⟩ := h.added _ _ hbefore hfile
      obtain ⟨directory', stem', hseat, -⟩ := Snapshot.exists_seat henv hplain hfixture
      obtain ⟨hkey, -⟩ := hseat.placed_of_absent henv hplain habsent
      exact absurd hkey.symm (Snapshot.golden_ne_source henv hseat.source.stem_ne hstem hseat.source.no_dot)

theorem casesIn_eq (h : GoldensAdded environment filter initial files) (henv : environment.SetsApart)
    (hplain : initial.IsPlain) (asked : Filter) :
    Snapshot.casesIn environment asked files = Snapshot.casesIn environment asked initial :=
  (Snapshot.casesIn_congr asked hplain h.plain (h.sameSources henv hplain)).symm

theorem interop_casesIn_eq (h : GoldensAdded environment filter initial files) (henv : environment.SetsApart)
    (hplain : initial.IsPlain) (asked : Filter) :
    Interop.casesIn environment asked files = Interop.casesIn environment asked initial := by
  rw [Interop.casesIn, Interop.casesIn, Store.sources_congr hplain h.plain (h.sameSources henv hplain)]

/-- The sources still hold what they held. -/
theorem readText_source (h : GoldensAdded environment filter initial files) (henv : environment.SetsApart)
    (hplain : initial.IsPlain) (hfixture : fixture ∈ Snapshot.casesIn environment filter initial) :
    files.readText fixture.source = initial.readText fixture.source := by
  obtain ⟨directory, stem, hseat, -⟩ := Snapshot.exists_seat henv hplain hfixture
  obtain ⟨hempty, hdot, -⟩ := hseat.source_ne hplain
  rcases hseat.source.leads.readText_grows ⟨hempty, hdot⟩ hplain h.plain h.grows with ⟨key, habsent⟩ | ⟨-, hsame⟩
  · obtain ⟨content, hfile⟩ := hseat.source.file
    obtain ⟨-, hkey, -⟩ := (Store.endsAt_iff hplain hseat.source.leads ⟨hempty, hdot⟩).mp (.inl habsent)
    have hnone : initial.find? key = none := Store.holds_of_locate habsent
    rw [hkey, hfile] at hnone
    cases hnone
  · exact hsame

/-- The place of a golden file that is missing. -/
def missing? (initial : Store) (fixture : SnapshotCase) : Option Key :=
  match initial.locate true fixture.golden with
  | .ok (.absent key) => some key
  | _ => none

/-- No more is added than there are fixtures. -/
theorem length_le (h : GoldensAdded environment filter initial files) :
    files.entries.length ≤ initial.entries.length + (Snapshot.casesIn environment filter initial).length := by
  let keys := initial.entries.map (·.1) ++
    (Snapshot.casesIn environment filter initial).filterMap (missing? initial)
  have hnodup : (files.entries.map (·.1)).Nodup := List.Pairwise.imp ne_of_lt <|
    List.pairwise_map.mpr (h.plain.ordered.imp fun hbefore => (Key.before_iff_lt _ _).mp hbefore)
  have hkeys : files.entries.map (·.1) ⊆ keys := fun key hkey => by
    obtain ⟨⟨k, entry⟩, hmem, rfl⟩ := List.mem_map.mp hkey
    cases hinitial : initial.find? k with
    | some kept =>
      exact List.mem_append_left _ (List.mem_map.mpr ⟨(k, kept), Store.mem_entries_of_find? hinitial
        (h.plain.parents _ hmem).1, rfl⟩)
    | none =>
      obtain ⟨fixture, hfixture, habsent⟩ := h.added k entry hinitial (h.plain.find?_of_mem hmem)
      exact List.mem_append_right _ (List.mem_filterMap.mpr ⟨fixture, hfixture, by simp only [missing?, habsent]⟩)
  have hle := (List.subperm_of_subset hnodup hkeys).length_le
  have hmissing := List.length_filterMap_le (missing? initial) (Snapshot.casesIn environment filter initial)
  simp only [keys, List.length_append, List.length_map] at hle
  omega

/-- In a roomy tree there is room for golden files too. -/
theorem roomy {room : Nat} (h : GoldensAdded environment filter initial files) (hroomy : initial.Roomy room) :
    files.Roomy (room + (Snapshot.casesIn environment filter initial).length) :=
  hroomy.grown h.grows.kept h.grows.sealed (h.length_le.trans (Nat.add_le_add_right hroomy.few _))

/-! ## Turns -/

/-- A golden file that is missing was missing at first. -/
theorem absent_initial {stem : List Char} {key : Key} (h : GoldensAdded environment filter initial files)
    (henv : environment.SetsApart) (hplain : initial.IsPlain)
    (hseat : Snapshot.Seat environment initial fixture directory stem) (hnone : initial.find? key = none)
    (habsent : files.locate true fixture.golden = .ok (.absent key)) :
    initial.locate true fixture.golden = .ok (.absent key) := by
  have hname := Snapshot.renamed_ne henv hseat.source.stem_ne
  obtain ⟨hcan, hkey, -⟩ := (Store.endsAt_iff h.plain (hseat.grows h.grows).golden hname).mp (.inl habsent)
  rcases (Store.endsAt_iff hplain hseat.golden hname).mpr ⟨hcan, hkey, .inl hnone⟩ with hends | ⟨content, hfound⟩
  · exact hends
  · have hsome : initial.find? key = some (.file content) := Store.holds_of_locate hfound
    rw [hnone] at hsome
    cases hsome

/-- A comparison adds the golden file of its fixture or nothing. -/
theorem judge (h : GoldensAdded environment filter initial files) (henv : environment.SetsApart)
    (hplain : initial.IsPlain) (hfixture : fixture ∈ Snapshot.casesIn environment filter initial) (text : String)
    (mayCreate : Bool) :
    GoldensAdded environment filter initial (Golden.judge text fixture.golden mayCreate files).2 := by
  obtain ⟨directory, stem, hseat, -⟩ := Snapshot.exists_seat henv hplain hfixture
  exact
    { plain := (hseat.grows h.grows).plain_judge henv h.plain text mayCreate
      grows := h.grows.trans (Golden.grows_judge text fixture.golden mayCreate files)
      added := fun key entry hbefore hafter => by
        cases hfind : files.find? key with
        | some entry' => exact h.added key entry' hbefore hfind
        | none =>
          rcases Golden.judge_left text fixture.golden mayCreate files with hleft | ⟨golden, habsent, hleft⟩
          · rw [hleft, hfind] at hafter
            cases hafter
          · rw [hleft, Store.find?_insert _ _ _ _ (Store.EndsAt.isEnd (.inl habsent)).ne_nil] at hafter
            split at hafter
            · rename_i hkey
              subst hkey
              exact ⟨fixture, hfixture, h.absent_initial henv hplain hseat hbefore habsent⟩
            · rw [hfind] at hafter
              cases hafter }

/-- So does a turn. -/
theorem runCase {world : World} (h : GoldensAdded environment filter initial world.files)
    (henv : environment.SetsApart) (hplain : initial.IsPlain)
    (hfixture : fixture ∈ Snapshot.casesIn environment filter initial)
    (htidy : ∀ asked, (subject.compiler.compile (.file fixture.source) asked).Tidy) (options : RunOptions) :
    GoldensAdded environment filter initial (Snapshot.runCase subject fixture options world).2.files := by
  rcases Snapshot.runCase_left htidy options world with hleft | ⟨text, hleft⟩
  · rwa [hleft]
  · rw [hleft]
    exact h.judge henv hplain hfixture text options.create

/-- Turns add golden files of their fixtures, one after another. -/
theorem mapM_runCase {world : World} (h : GoldensAdded environment filter initial world.files)
    (henv : environment.SetsApart) (hplain : initial.IsPlain) {fixtures : List SnapshotCase}
    (hfixtures : ∀ fixture ∈ fixtures, fixture ∈ Snapshot.casesIn environment filter initial)
    (htidy : ∀ path asked, (subject.compiler.compile (.file path) asked).Tidy) (options : RunOptions) :
    GoldensAdded environment filter initial
      (fixtures.mapM (fun fixture => Snapshot.runCase subject fixture options) world).2.files :=
  (Run.along_keeps (P := fun now => GoldensAdded environment filter initial now.files) world
    (fun fixture hmem _ hnow => hnow.runCase henv hplain (hfixtures fixture hmem) (htidy _) options) h).2

/-- All snapshot fixtures of a subject add golden files. -/
theorem runSuite {options : RunOptions} {world : World}
    (h : GoldensAdded environment options.filter initial world.files) (henv : environment.SetsApart)
    (hplain : initial.IsPlain) (htidy : ∀ path asked, (subject.compiler.compile (.file path) asked).Tidy) :
    GoldensAdded environment options.filter initial (Snapshot.runSuite subject environment options world).2.files := by
  have hstart : GoldensAdded environment options.filter initial
      (world.noted (world.files.missing environment.fixturesDirectory)).files := h
  rw [Snapshot.runSuite_apply henv.isBadExtension, h.casesIn_eq henv hplain]
  exact hstart.mapM_runCase henv hplain (fun _ hmem => hmem) htidy options

/-- The other suites of a subject add nothing. -/
theorem runSubject {options : RunOptions} {world : World}
    (h : GoldensAdded environment options.filter initial world.files) (henv : environment.SetsApart)
    (hplain : initial.IsPlain) (htidy : subject.Tidy) (registry : Registry) :
    GoldensAdded environment options.filter initial
        (Session.afterSnapshots subject environment options world).files ∧
      GoldensAdded environment options.filter initial
        (Session.runSubject subject environment options registry world).2.files := by
  have hstart : GoldensAdded environment options.filter initial (Session.started subject world).files := h
  have hsnapshots : GoldensAdded environment options.filter initial
      (Session.afterSnapshots subject environment options world).files :=
    hstart.runSuite henv hplain htidy.file
  obtain ⟨-, -, hleaves⟩ := Session.runSubject_leaves htidy henv.isBadExtension options registry world
  exact ⟨hsnapshots, hleaves.symm ▸ hsnapshots⟩

end GoldensAdded

end GoldenBench
