import GoldenBench.Proofs.Attribution
import GoldenBench.Proofs.Text.Bytes

/-!
# Every fixture is its own

Fixtures are found in the order of their sources, whose paths are compared component by component. No two of them have
one source, one name or one golden file: golden files lie beside the sources, under the same stems.

* `Store.Seated.components`, `Store.Seated.components_golden`: the components of a source and of its golden file.
* `discover_distinguishes`: what holds of the fixtures of both suites.
-/

namespace GoldenBench

open GoldenBench.Path (named)

variable {path root : Path} {before : List String} {init init' : Key} {stem stem' : List Char}
  {extension golden : String} {file twin : SourceFile} {files : Store}

/-! ## Golden files -/

namespace Path

/-- A stem as the name of a file with an extension; the empty extension is none at all. -/
def goldenName (stem : List Char) (extension : String) : String :=
  if extension = "" then String.ofList stem else named stem extension

theorem goldenName_injective (h : goldenName stem extension = goldenName stem' extension) : stem = stem' := by
  rw [goldenName, goldenName] at h
  split at h
  · exact String.ofList_inj.mp h
  · exact named_injective h

/-- A golden file has the name of something. -/
theorem goldenName_ne (hstem : ∃ c ∈ stem, c ≠ '.') (extension : String) :
    goldenName stem extension ≠ "" ∧ goldenName stem extension ≠ "." := by
  obtain ⟨c, hc, hne⟩ := hstem
  have hmem : c ∈ (goldenName stem extension).toList := by
    rw [goldenName]
    split
    · rwa [String.toList_ofList]
    · rw [toList_named]
      exact List.mem_append_left _ hc
  refine ⟨fun h => ?_, fun h => ?_⟩
  · rw [h] at hmem
    cases hmem
  · rw [h] at hmem
    exact hne (List.mem_singleton.mp hmem)

/-- Another extension changes the last piece and nothing else; with none, that is the stem. -/
theorem pieces_golden (hpieces : path.pieces = before ++ [named stem extension]) (hname : IsName (named stem extension))
    (hstem : stem ≠ []) (hdot : stem ≠ ['.']) (hextension : '.' ∉ extension.toList) (hslash : '/' ∉ golden.toList) :
    (path.withExtension golden).pieces = before ++ [goldenName stem golden] := by
  obtain ⟨hempty, hpoint, hup, hnameSlash, -⟩ := hname
  rw [goldenName]
  split
  · rename_i hgolden
    rw [hgolden, withExtension_empty hpieces ⟨hempty, hpoint, hup⟩ hstem hdot hextension]
    refine pieces_ofPieces_concat hpieces fun hmem => hnameSlash ?_
    rw [String.toList_ofList] at hmem
    rw [toList_named]
    exact List.mem_append_left _ hmem
  · rename_i hgolden
    rw [pieces_withExtension hpieces ⟨hempty, hpoint⟩ hup (splitName_named hstem hextension) hgolden hslash, renamed,
      if_neg hdot]

end Path

/-! ## Components of sources -/

namespace Store.Seated

theorem pieces (h : Seated root extension file init stem) :
    file.path.pieces = root.entrance ++ (init ++ [named stem extension]) := by
  rw [h.eq_ofKey]
  exact pieces_pathOf h.root_text (by simp) h.names

theorem components (h : Seated root extension file init stem) :
    file.path.components = Path.leading root.entrance ++ (init ++ [named stem extension]) :=
  Path.components_of_pieces h.pieces (by simp) fun name hname => ⟨(h.names name hname).1, (h.names name hname).2.1⟩

theorem components_golden (h : Seated root extension file init stem) (hslash : '/' ∉ golden.toList) :
    (file.path.withExtension golden).components =
      Path.leading root.entrance ++ (init ++ [Path.goldenName stem golden]) := by
  have hpieces := h.pieces
  rw [← List.append_assoc] at hpieces
  have hgolden := Path.pieces_golden hpieces (h.names _ (by simp)) h.stem_ne h.stem_ne_dot h.no_dot hslash
  rw [List.append_assoc] at hgolden
  refine Path.components_of_pieces hgolden (by simp) fun name hname => ?_
  rcases List.mem_append.mp hname with hname | hname
  · have hproper := h.names name (List.mem_append_left _ hname)
    exact ⟨hproper.1, hproper.2.1⟩
  · rw [List.mem_singleton.mp hname]
    exact Path.goldenName_ne h.stem golden

end Store.Seated

/-- Sources are found in the order of the components of their paths. -/
theorem Store.WellNamed.pairwise_components (h : files.WellNamed) (root : Path) (extension : String) :
    (files.sources root extension).Pairwise fun file twin => file.path.components < twin.path.components := by
  refine h.pairwise_sources root extension fun file twin init init' stem stem' hfile htwin hlt => ?_
  rw [hfile.components, htwin.components]
  exact List.append_left_lt hlt

/-- No two sources have one golden file. -/
theorem Store.WellNamed.nodup_golden (h : files.WellNamed) (root : Path) (extension : String)
    (hslash : '/' ∉ golden.toList) :
    ((files.sources root extension).map fun file => (file.path.withExtension golden).components).Nodup := by
  refine List.pairwise_map.mpr (h.pairwise_sources root extension ?_)
  intro file twin init init' stem stem' hfile htwin hlt heq
  rw [hfile.components_golden hslash, htwin.components_golden hslash] at heq
  obtain ⟨rfl, hname⟩ := List.append_inj' (List.append_cancel_left heq) rfl
  obtain rfl := Path.goldenName_injective (List.singleton_inj.mp hname)
  exact lt_irrefl _ hlt

/-! ## Fixtures -/

/-- The bytes of the components of a path. -/
def Path.byteComponents (path : Path) : List (List UInt8) :=
  path.components.map Text.bytes

theorem Text.map_bytes_lt {a b : List String} (h : a < b) : a.map bytes < b.map bytes := by
  induction a generalizing b with
  | nil =>
    cases b with
    | nil => exact absurd h (lt_irrefl _)
    | cons second more => exact List.nil_lt_cons _ _
  | cons first rest ih =>
    cases b with
    | nil => exact absurd h (List.not_lt_nil _)
    | cons second more =>
      rw [List.map_cons, List.map_cons, List.cons_lt_cons_iff]
      rcases List.cons_lt_cons_iff.mp h with hlt | ⟨rfl, hrest⟩
      · exact .inl (bytes_lt_bytes hlt)
      · exact .inr ⟨rfl, ih hrest⟩

theorem Path.byteComponents_lt {a b : Path} (h : a.components < b.components) : a.byteComponents < b.byteComponents :=
  Text.map_bytes_lt h

theorem Snapshot.pairwise_components (h : files.WellNamed) (environment : Environment) (filter : Filter) :
    (casesIn environment filter files).Pairwise fun fixture twin =>
      fixture.source.components < twin.source.components := by
  refine List.Pairwise.filter _ (List.pairwise_map.mpr ?_)
  exact h.pairwise_components environment.fixturesDirectory environment.sourceExtension

theorem Snapshot.nodup_golden (h : files.WellNamed) (environment : Environment) (filter : Filter)
    (hslash : '/' ∉ environment.goldenExtension.toList) :
    ((casesIn environment filter files).map (·.golden.components)).Nodup := by
  refine List.Nodup.sublist (List.filter_sublist.map _) ?_
  rw [List.map_map]
  exact h.nodup_golden environment.fixturesDirectory environment.sourceExtension hslash

theorem Interop.pairwise_components (h : files.WellNamed) (environment : Environment) (filter : Filter) :
    (casesIn environment filter files).Pairwise fun fixture twin =>
      fixture.source.components < twin.source.components := by
  have hsource : ∀ {file fixture}, caseOf? environment file = some fixture → fixture.source = file.path := by
    intro file fixture hfixture
    obtain ⟨name, -, rfl⟩ := Option.map_eq_some_iff.mp hfixture
    rfl
  refine List.Pairwise.filter _ (List.pairwise_filterMap.mpr ?_)
  refine (h.pairwise_components environment.interopDirectory environment.sourceExtension).imp ?_
  intro file twin hlt fixture hfixture other hother
  rwa [hsource hfixture, hsource hother]

theorem nodup_of_pairwise_lt {α : Type} {source : α → Path} {fixtures : List α}
    (h : fixtures.Pairwise fun fixture twin => (source fixture).components < (source twin).components) :
    (fixtures.map fun fixture => (source fixture).components).Nodup :=
  List.pairwise_map.mpr (h.imp fun hlt => ne_of_lt hlt)

/-- The snapshot fixtures of a file tree that a filter accepts differ in their sources, their names and their golden
files, interop fixtures in their sources and their names, and both are found in the order of their sources, compared
component by component and byte by byte. Paths are the same if their components are. -/
theorem discover_distinguishes (environment : Environment) (filter : Filter) (world : World)
    (hextension : Path.isBadExtension environment.goldenExtension = false) (hnamed : world.files.WellNamed) :
    (∃ fixtures, (Snapshot.discover environment filter world).1 = .ok fixtures ∧
      (fixtures.map (·.source.components)).Nodup ∧ (fixtures.map (·.name)).Nodup ∧
      (fixtures.map (·.golden.components)).Nodup ∧
      fixtures.Pairwise fun fixture twin => fixture.source.byteComponents < twin.source.byteComponents) ∧
    ((Interop.discover environment filter world).1.map (·.source.components)).Nodup ∧
    ((Interop.discover environment filter world).1.map (·.name)).Nodup ∧
    (Interop.discover environment filter world).1.Pairwise fun fixture twin =>
      fixture.source.byteComponents < twin.source.byteComponents := by
  have hslash : '/' ∉ environment.goldenExtension.toList := by
    simpa [Path.isBadExtension] using hextension
  have hsnapshots := Snapshot.pairwise_components hnamed environment filter
  have hinterop := Interop.pairwise_components hnamed environment filter
  rw [Snapshot.discover_apply environment filter hextension, Interop.discover_apply environment filter]
  exact ⟨⟨Snapshot.casesIn environment filter world.files, rfl, nodup_of_pairwise_lt hsnapshots,
    Snapshot.nodup_names hnamed environment filter, Snapshot.nodup_golden hnamed environment filter hslash,
    hsnapshots.imp Path.byteComponents_lt⟩, nodup_of_pairwise_lt hinterop,
    Interop.nodup_names hnamed environment filter, hinterop.imp Path.byteComponents_lt⟩

/-! ## Names with dots -/

/-- A tree in which a directory is named like a source, and stems have dots in them. -/
def dotted : Store :=
  ⟨[(["a"], .directory), (["a", "b.test.ts"], .file "".toUTF8), (["a.b.ts"], .file "".toUTF8),
    (["a.test.ts"], .file "".toUTF8), (["a.ts"], .file "".toUTF8)], []⟩

/-- Golden files without an extension, beside sources with one. -/
def bareGoldens : Environment :=
  ⟨⟨"/"⟩, ⟨"/a"⟩, "ts", "", "test", ""⟩

theorem wellNamed_dotted : dotted.WellNamed where
  ordered := by
    rw [Store.Ordered, dotted]
    decide
  names := by
    simp only [dotted, List.forall_mem_cons, List.not_mem_nil, false_implies, implies_true, and_true]
    decide
  stems := by
    simp only [dotted, List.forall_mem_cons, List.not_mem_nil, false_implies, implies_true, and_true,
      reduceCtorEq, true_and, List.getLast?_cons_cons, List.getLast?_singleton, Option.mem_some_iff, forall_eq']
    exact ⟨fun _ _ => ⟨'b', by decide, by decide⟩, fun _ _ => ⟨'a', by decide, by decide⟩,
      fun _ _ => ⟨'a', by decide, by decide⟩, fun _ _ => ⟨'a', by decide, by decide⟩⟩

theorem casesIn_dotted : (Snapshot.casesIn bareGoldens .all dotted).map (·.golden) =
    [⟨"/a/b.test"⟩, ⟨"/a.b"⟩, ⟨"/a.test"⟩, ⟨"/a"⟩] := by
  rw [Snapshot.casesIn, bareGoldens, Store.sources_of_directory (Snapshot.locate_root _)]
  simp only [dotted, List.filterMap_cons, Store.sourceAt?, List.filterMap_nil]
  decide

/-- Stems with dots, a directory that is named like a stem, and golden files without an extension: there are four
fixtures of one suite and one of the other, and all golden files differ. -/
theorem discover_distinguishes_dotted :
    dotted.WellNamed ∧ ∃ snapshots,
      (Snapshot.discover bareGoldens .all (.start dotted [])).1 = .ok snapshots ∧
      snapshots.map (·.golden) = [⟨"/a/b.test"⟩, ⟨"/a.b"⟩, ⟨"/a.test"⟩, ⟨"/a"⟩] ∧
      (snapshots.map (·.golden.components)).Nodup ∧
      snapshots.Pairwise fun fixture twin => fixture.source.byteComponents < twin.source.byteComponents := by
  have hextension : Path.isBadExtension bareGoldens.goldenExtension = false := by decide
  obtain ⟨⟨snapshots, hdiscover, -, -, hgolden, hordered⟩, -⟩ :=
    discover_distinguishes bareGoldens .all (.start dotted []) hextension wellNamed_dotted
  refine ⟨wellNamed_dotted, snapshots, hdiscover, ?_, hgolden, hordered⟩
  rw [Snapshot.discover_apply bareGoldens .all hextension] at hdiscover
  cases hdiscover
  exact casesIn_dotted

end GoldenBench
