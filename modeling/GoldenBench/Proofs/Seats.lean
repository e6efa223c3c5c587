import GoldenBench.Proofs.Files.Apart
import GoldenBench.Proofs.Golden

/-!
# Where fixtures lie

The source and the golden file of a snapshot fixture lie in one directory under one stem (`Snapshot.Seat`). As long as
golden files have an extension of their own (`Environment.SetsApart`), no fixture has the golden file of another one,
and no golden file is a source.

* `Snapshot.exists_seat`: every fixture has a seat of its own.
* `Snapshot.casesIn_congr`: the same fixtures are found where the same sources are.
-/

namespace GoldenBench

open Store (Grows)
open GoldenBench.Path (named renamed)

/-- Golden files have an extension that can be put after a stem, and no source has it. -/
structure Environment.SetsApart (environment : Environment) : Prop where
  /-- There is an extension. -/
  nonempty : environment.goldenExtension ≠ ""
  /-- It is one extension. -/
  no_dot : '.' ∉ environment.goldenExtension.toList
  /-- It does not lead elsewhere. -/
  no_slash : '/' ∉ environment.goldenExtension.toList
  /-- It is not that of sources. -/
  own : environment.goldenExtension ≠ environment.sourceExtension

variable {environment : Environment} {filter : Filter} {files after : Store} {directory key : Key} {stem : List Char}

theorem Environment.SetsApart.isBadExtension (h : environment.SetsApart) :
    Path.isBadExtension environment.goldenExtension = false := by
  rw [Path.isBadExtension, Bool.eq_false_iff]
  simpa using h.no_slash

/-- A path with another extension leads to the same directory. -/
theorem Store.Lies.withExtension {path : Path} {old extension : String}
    (h : files.Lies path directory stem old) (hplain : files.IsPlain) (hextension : extension ≠ "")
    (hslash : '/' ∉ extension.toList) :
    files.Leads (path.withExtension extension) directory (renamed stem extension) := by
  obtain ⟨content, hfile⟩ := h.file
  obtain ⟨hempty, hdot, hup, -⟩ := hplain.isName hfile (named stem old) (by simp)
  obtain ⟨before, hpieces, hbefore⟩ := h.leads
  exact ⟨before, Path.pieces_withExtension hpieces ⟨hempty, hdot⟩ hup (Path.splitName_named h.stem_ne h.no_dot)
    hextension hslash, hbefore⟩

namespace Snapshot

/-- Where a fixture lies: the directory of its source and its golden file, and the stem of both. -/
structure Seat (environment : Environment) (files : Store) (fixture : SnapshotCase) (directory : Key)
    (stem : List Char) : Prop where
  /-- The source lies there. -/
  source : files.Lies fixture.source directory stem environment.sourceExtension
  /-- The golden file has the other extension. -/
  golden : files.Leads fixture.golden directory (renamed stem environment.goldenExtension)

variable {fixture : SnapshotCase}

/-- Every fixture has a seat of its own. -/
theorem exists_seat (h : environment.SetsApart) (hplain : files.IsPlain)
    (hfixture : fixture ∈ casesIn environment filter files) :
    ∃ directory stem, Seat environment files fixture directory stem ∧
      ∀ twin ∈ casesIn environment filter files, Seat environment files twin directory stem → twin = fixture := by
  obtain ⟨file, hfile, rfl⟩ := List.mem_map.mp (List.mem_filter.mp hfixture).1
  obtain ⟨directory, stem, hlies, hown⟩ := Store.exists_lies hplain hfile
  refine ⟨directory, stem, ⟨hlies, hlies.withExtension hplain h.nonempty h.no_slash⟩, fun twin htwin hseat => ?_⟩
  obtain ⟨file', hfile', rfl⟩ := List.mem_map.mp (List.mem_filter.mp htwin).1
  rw [hown file' hfile' hseat.source]

theorem nodup_casesIn (environment : Environment) (filter : Filter) (hplain : files.IsPlain) :
    (casesIn environment filter files).Nodup := by
  refine List.Nodup.filter _ (List.Nodup.map (fun file file' hsame => ?_) (Store.nodup_sources hplain))
  cases file
  cases file'
  cases hsame
  rfl

/-- The same fixtures are found where the same sources are. -/
theorem casesIn_congr (filter : Filter) (hplain : files.IsPlain) (hafter : after.IsPlain)
    (h : Store.SameSources environment.sourceExtension files after) :
    casesIn environment filter files = casesIn environment filter after := by
  rw [casesIn, casesIn, Store.sources_congr hplain hafter h]

/-! ## Golden files in their place -/

theorem Seat.grows (h : Seat environment files fixture directory stem) (hgrows : Grows files after) :
    Seat environment after fixture directory stem where
  source :=
    { leads := h.source.leads.keeps hgrows.kept.keeps
      file := h.source.file.imp fun _ hfile => hgrows.kept _ _ hfile
      stem_ne := h.source.stem_ne
      no_dot := h.source.no_dot }
  golden := h.golden.keeps hgrows.kept.keeps

theorem renamed_ne (henv : environment.SetsApart) (hstem : stem ≠ []) :
    renamed stem environment.goldenExtension ≠ "" ∧ renamed stem environment.goldenExtension ≠ "." := by
  rw [renamed]
  split
  · decide
  · obtain ⟨hempty, hdot, -⟩ := Path.named_ne hstem henv.nonempty
    exact ⟨hempty, hdot⟩

/-- A golden file that is absent has a place in the directory of the fixture. -/
theorem Seat.placed_of_absent (h : Seat environment files fixture directory stem) (henv : environment.SetsApart)
    (hplain : files.IsPlain) (habsent : files.locate true fixture.golden = .ok (.absent key)) :
    key = directory ++ [named stem environment.goldenExtension] ∧ files.find? key = none ∧
      Golden.Placed files fixture.golden directory (named stem environment.goldenExtension) ∧
      Golden.Fits fixture.golden (named stem environment.goldenExtension) := by
  have hfault := (Store.locate_eq_ok habsent).1
  have hproper := renamed_ne henv h.source.stem_ne
  have hlookIn := habsent
  rw [Store.locate_of_leads h.golden hproper (hplain.find?_ne_link _) hfault] at hlookIn
  obtain ⟨hup, hlimit, hkey, hnone⟩ := Store.lookIn_eq_absent hlookIn
  have hleads := h.golden
  have hname := Path.renamed_of_ne hup
  rw [hname] at hlimit hkey hup hproper hleads
  exact ⟨hkey, hnone, ⟨hleads, ⟨hproper.1, hproper.2, hup⟩, hplain.find?_ne_link _⟩, hfault, hlimit⟩

/-- A tree stays plain when a golden file is compared. -/
theorem Seat.plain_judge (h : Seat environment files fixture directory stem) (henv : environment.SetsApart)
    (hplain : files.IsPlain) (actual : String) (mayCreate : Bool) :
    (Golden.judge actual fixture.golden mayCreate files).2.IsPlain := by
  rcases Golden.judge_left actual fixture.golden mayCreate files with hleft | ⟨key, habsent, hleft⟩
  · rwa [hleft]
  · obtain ⟨rfl, hnone, hplaced, hfits⟩ := h.placed_of_absent henv hplain habsent
    rw [hleft]
    exact hplain.insert (hplaced.isName hfits) hplaced.leads.find?_directory (.inl hnone) _

/-- The golden file of a fixture is not that of another one. -/
theorem eq_of_golden_key {twin : SnapshotCase} {directory' : Key} {stem' : List Char}
    (hown : ∀ twin ∈ casesIn environment filter files, Seat environment files twin directory stem → twin = fixture)
    (htwin : twin ∈ casesIn environment filter files) (hseat : Seat environment files twin directory' stem')
    (hkey : directory ++ [named stem environment.goldenExtension] =
      directory' ++ [named stem' environment.goldenExtension]) : twin = fixture := by
  obtain ⟨rfl, hname⟩ := List.append_inj' hkey rfl
  obtain rfl := Path.named_injective (List.singleton_inj.mp hname)
  exact hown twin htwin hseat

/-- A golden file is not a source. -/
theorem golden_ne_source (henv : environment.SetsApart) {stem' : List Char} {directory' : Key} (hstem : stem ≠ [])
    (hstem' : stem' ≠ []) (hdot : '.' ∉ environment.sourceExtension.toList) :
    directory ++ [named stem environment.goldenExtension] ≠
      directory' ++ [named stem' environment.sourceExtension] := by
  intro hkey
  obtain ⟨-, hname⟩ := List.append_inj' hkey rfl
  have hsplit := Path.splitName_named hstem henv.no_dot
  rw [List.singleton_inj.mp hname, Path.splitName_named hstem' hdot] at hsplit
  exact henv.own (String.toList_inj.mp (Option.some_inj.mp (congrArg Prod.snd hsplit)).symm)

/-! ## What belongs to a fixture -/

theorem Seat.source_ne (h : Seat environment files fixture directory stem) (hplain : files.IsPlain) :
    named stem environment.sourceExtension ≠ "" ∧ named stem environment.sourceExtension ≠ "." ∧
      named stem environment.sourceExtension ≠ ".." := by
  obtain ⟨content, hfile⟩ := h.source.file
  obtain ⟨hempty, hdot, hup, -⟩ := hplain.isName hfile (named stem environment.sourceExtension) (by simp)
  exact ⟨hempty, hdot, hup⟩

/-- The paths that belong to a fixture lead to a name in its directory. -/
theorem Seat.leads (h : Seat environment files fixture directory stem) (henv : environment.SetsApart)
    (hplain : files.IsPlain) : ∀ path ∈ [fixture.source, fixture.golden],
      ∃ directory name, files.Leads path directory name ∧ name ≠ "" ∧ name ≠ "." := by
  obtain ⟨hempty, hdot, -⟩ := h.source_ne hplain
  intro path hpath
  rcases List.mem_pair.mp hpath with rfl | rfl
  · exact ⟨directory, _, h.source.leads, hempty, hdot⟩
  · exact ⟨directory, _, h.golden, renamed_ne henv h.source.stem_ne⟩

/-- Where the paths that belong to a fixture end. -/
theorem Seat.key_of_endsAt {path : Path} (h : Seat environment files fixture directory stem)
    (henv : environment.SetsApart) (hplain : files.IsPlain) (hpath : path ∈ [fixture.source, fixture.golden])
    (hends : files.EndsAt path key) : key = directory ++ [named stem environment.sourceExtension] ∨
      key = directory ++ [named stem environment.goldenExtension] := by
  obtain ⟨hempty, hdot, -⟩ := h.source_ne hplain
  rcases List.mem_pair.mp hpath with rfl | rfl
  · exact .inl ((Store.endsAt_iff hplain h.source.leads ⟨hempty, hdot⟩).mp hends).2.1
  · obtain ⟨⟨-, hup, -⟩, hkey, -⟩ :=
      (Store.endsAt_iff hplain h.golden (renamed_ne henv h.source.stem_ne)).mp hends
    exact .inr (Path.renamed_of_ne hup ▸ hkey)

/-- An environment whose fixtures lie in the root. -/
def rootEnvironment : Environment :=
  ⟨⟨"/"⟩, ⟨"/"⟩, "ts", "wat", "test", Environment.defaultSmokeSource⟩

/-- A tree with two sources. -/
def twoSources (content : ByteArray) : Store :=
  ⟨[(["a.test.ts"], .file content), (["b.test.ts"], .file "".toUTF8)], []⟩

/-- The fixture of the first source. -/
def firstCase : SnapshotCase :=
  ⟨"a.test", ⟨"/a.test.ts"⟩, ⟨"/a.test.wat"⟩⟩

/-- The fixture of the second source. -/
def secondCase : SnapshotCase :=
  ⟨"b.test", ⟨"/b.test.ts"⟩, ⟨"/b.test.wat"⟩⟩

/-- The paths of both have no fault of their own. -/
theorem fault?_twoSources : ∀ fixture ∈ [firstCase, secondCase],
    fixture.source.fault? = none ∧ fixture.golden.fault? = none := by
  simp only [List.forall_mem_cons, List.not_mem_nil, false_implies, implies_true, and_true, Path.fault?_eq_none]
  exact ⟨⟨⟨by simp [firstCase], by decide, by decide⟩, by simp [firstCase], by decide, by decide⟩,
    ⟨by simp [secondCase], by decide, by decide⟩, by simp [secondCase], by decide, by decide⟩

theorem setsApart_rootEnvironment : rootEnvironment.SetsApart :=
  ⟨by decide, by decide, by decide, by decide⟩

theorem isPlain_twoSources (content : ByteArray) : (twoSources content).IsPlain where
  ordered := List.pairwise_pair.mpr rfl
  names := by
    simp only [twoSources, List.forall_mem_cons, List.not_mem_nil, false_implies, implies_true, and_true]
    decide
  parents := by simp [twoSources, Store.find?]
  no_links := by simp [twoSources, Entry.isLink]

theorem locate_root (files : Store) : files.locate true ⟨"/"⟩ = .ok (.found [] .directory) := by
  have hpieces : (Path.mk "/").pieces = ["", ""] := by decide
  have hfault : (Path.mk "/").fault? = none := Path.fault?_eq_none.mpr ⟨by simp, by simp, by decide⟩
  simp [Store.locate, hfault, hpieces, Store.locateFrom, Store.find?]

theorem sourceAt?_root (extension name : String) (content : ByteArray) :
    Store.sourceAt? ⟨"/"⟩ [] extension ([name], .file content) =
      if (SourceFile.ofKey ⟨"/"⟩ [name]).path.extension? = some extension then some (SourceFile.ofKey ⟨"/"⟩ [name])
      else none := by
  simp [Store.sourceAt?]

theorem sources_twoSources (content : ByteArray) :
    (twoSources content).sources ⟨"/"⟩ "ts" = [⟨"a.test", ⟨"/a.test.ts"⟩⟩, ⟨"b.test", ⟨"/b.test.ts"⟩⟩] := by
  rw [Store.sources_of_directory (locate_root _)]
  simp only [twoSources, List.filterMap_cons, sourceAt?_root, List.filterMap_nil]
  decide

theorem casesIn_twoSources (content : ByteArray) :
    casesIn rootEnvironment .all (twoSources content) = [firstCase, secondCase] := by
  rw [casesIn, rootEnvironment, sources_twoSources]
  decide

end Snapshot

end GoldenBench
