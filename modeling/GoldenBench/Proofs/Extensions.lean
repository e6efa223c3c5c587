import GoldenBench.Proofs.Seats

/-!
# Files with an extension

A file bears an extension if its name is a stem, a dot and the extension, whatever dots there are in it
(`Store.Bears`). A path has what stands behind its last dot for its extension, so an extension with a dot in it is
that of no path, and no file that bears it is found.

* `Store.IsPlain.locate_pathOf`: the path that a file goes by leads to it.
* `Store.IsPlain.bears_iff`: a file that bears an extension without a dot has it.
* `Run.sourceFiles_iff`: what is found below a directory.
-/

namespace GoldenBench

open GoldenBench.Path (named)

variable {store : Store} {root path : Path} {top directory below : Key} {entry : Entry} {content : ByteArray}
  {extension : String} {file : SourceFile}

/-! ## Characters of a path -/

theorem Path.mem_piecesFrom_iff {c : Char} (hc : c ≠ '/') {held text : List Char} :
    (∃ piece ∈ piecesFrom held text, c ∈ piece) ↔ c ∈ held ∨ c ∈ text := by
  induction text generalizing held with
  | nil => simp [piecesFrom]
  | cons next rest ih =>
    rw [piecesFrom]
    split
    · rename_i hnext
      have hne : c ≠ next := hnext ▸ hc
      simp [ih, hne]
    · simp [ih, or_assoc, or_left_comm, or_comm]

/-- The characters of a path besides the slash are those of its pieces. -/
theorem Path.mem_text_iff {c : Char} (hc : c ≠ '/') :
    c ∈ path.text.toList ↔ ∃ piece ∈ path.pieces, c ∈ piece.toList := by
  rw [← or_false (c ∈ path.text.toList), or_comm, ← List.mem_nil_iff c, ← mem_piecesFrom_iff hc, pieces]
  simp

namespace Store

/-- Names lead down from a place to a regular file that is named with an extension: a stem that is not empty, a dot
and the extension. The file may also be at the place itself. -/
structure Bears (store : Store) (top : Key) (extension : String) (below : Key) : Prop where
  /-- There is a regular file. -/
  file : ∃ content, store.find? (top ++ below) = some (.file content)
  /-- Its name ends in a dot and the extension, and something stands before them. -/
  name : ∃ directory stem, stem ≠ [] ∧ top ++ below = directory ++ [named stem extension]

/-! ## Paths of files -/

/-- The path that a file goes by leads to it: down from a directory, or at once. -/
theorem IsPlain.leads_pathOf (h : store.IsPlain) (hroot : store.locate true root = .ok (.found top entry))
    (hfile : store.find? (top ++ below) = some (.file content)) :
    ∃ directory name, top ++ below = directory ++ [name] ∧
      store.Leads (SourceFile.pathOf root below) directory name := by
  by_cases hbelow : below = []
  · subst hbelow
    rw [List.append_nil] at hfile ⊢
    have hentry : store.find? top = some entry := holds_of_locate hroot
    rw [hfile] at hentry
    cases hentry
    exact h.leads_of_locate hroot
  · have hdirectory : store.find? top = some .directory := h.find?_of_append hfile hbelow
    have hentry : store.find? top = some entry := holds_of_locate hroot
    rw [hdirectory] at hentry
    cases hentry
    exact h.leads_below hroot hbelow hfile

/-- There is no zero byte in the path that a file goes by. -/
theorem IsPlain.contains_pathOf (h : store.IsPlain) (hroot : store.locate true root = .ok (.found top entry))
    (hfile : store.find? (top ++ below) = some (.file content)) :
    (SourceFile.pathOf root below).text.contains '\x00' = false := by
  obtain ⟨hzero, htext, -⟩ := Path.fault?_eq_none.mp (locate_eq_ok hroot).1
  by_cases hbelow : below = []
  · rwa [hbelow]
  have hnames : ∀ name ∈ below, IsName name := fun name hname =>
    h.isName hfile name (List.mem_append_right _ hname)
  have hentrance : ∀ piece ∈ root.entrance, piece ∈ root.pieces := by
    rw [Path.entrance]
    split
    · exact fun piece hpiece => List.dropLast_subset _ hpiece
    · exact fun piece hpiece => hpiece
  simp only [Bool.eq_false_iff, ne_eq, String.contains_char_eq, decide_eq_true_eq] at hzero ⊢
  rw [Path.mem_text_iff (by decide), pieces_pathOf htext hbelow hnames]
  rintro ⟨piece, hpiece, hmem⟩
  rcases List.mem_append.mp hpiece with hpiece | hpiece
  · exact hzero ((Path.mem_text_iff (by decide)).mpr ⟨piece, hentrance piece hpiece, hmem⟩)
  · exact (hnames piece hpiece).2.2.2.2.1 hmem

/-- The path that a file goes by leads to it, unless it is too long. -/
theorem IsPlain.locate_pathOf (h : store.IsPlain) (hroot : store.locate true root = .ok (.found top entry))
    (hfile : store.find? (top ++ below) = some (.file content)) (followLast : Bool) :
    store.locate followLast (SourceFile.pathOf root below) =
      if pathLimit < (SourceFile.pathOf root below).text.utf8ByteSize then .error .nameTooLong
      else .ok (.found (top ++ below) (.file content)) := by
  obtain ⟨directory, name, hplace, hleads⟩ := h.leads_pathOf hroot hfile
  have hzero := h.contains_pathOf hroot hfile
  rw [hplace] at hfile ⊢
  obtain ⟨hempty, hdot, hup, -, -, hlimit⟩ := h.isName hfile name (by simp)
  have htext := hleads.text_ne hempty
  split
  · rename_i hlong
    refine locate_of_fault ?_
    rw [Path.fault?, hzero]
    simp [htext, hlong]
  · rename_i hlong
    have hfault := Path.fault?_eq_none.mpr ⟨hzero, htext, Nat.not_lt.mp hlong⟩
    rw [locate_of_leads hleads ⟨hempty, hdot⟩ (h.find?_ne_link _) hfault, lookIn_of_fits hup hlimit, hfile]

/-! ## Extensions -/

/-- A file below a place has an extension just if it bears it and there is no dot in it. -/
theorem IsPlain.bears_iff (h : store.IsPlain) (hroot : store.locate true root = .ok (.found top entry)) :
    '.' ∉ extension.toList ∧ store.Bears top extension below ↔
      (∃ content, store.find? (top ++ below) = some (.file content)) ∧
        (SourceFile.pathOf root below).extension? = some extension := by
  constructor
  · rintro ⟨hdot, ⟨content, hfile⟩, directory, stem, hstem, hplace⟩
    refine ⟨⟨content, hfile⟩, ?_⟩
    obtain ⟨directory', name, hplace', before, hpieces, -⟩ := h.leads_pathOf hroot hfile
    obtain ⟨hempty, hpoint, hup, -⟩ := h.isName hfile name (by simp [hplace'])
    obtain ⟨-, hname⟩ := List.append_inj' (hplace'.symm.trans hplace) rfl
    rw [Path.extension?_of_pieces hpieces ⟨hempty, hpoint⟩ hup, List.singleton_inj.mp hname,
      Path.splitName_named hstem hdot, Option.map_some, String.ofList_toList]
  · rintro ⟨⟨content, hfile⟩, hextension⟩
    obtain ⟨directory, name, hplace, hleads⟩ := h.leads_pathOf hroot hfile
    obtain ⟨hempty, hpoint, hup, -⟩ := h.isName hfile name (by simp [hplace])
    obtain ⟨stem, rfl, hlies⟩ := hleads.lies ⟨hempty, hpoint, hup⟩ (hplace ▸ hfile) hextension
    exact ⟨hlies.no_dot, ⟨content, hfile⟩, directory, stem, hlies.stem_ne, hplace⟩

/-- The sources that a path leads to are the files from there on that have the extension. -/
theorem IsPlain.mem_sources_iff (h : store.IsPlain) (hroot : store.locate true root = .ok (.found top entry)) :
    file ∈ store.sources root extension ↔ ∃ below, (∃ content, store.find? (top ++ below) = some (.file content)) ∧
      (SourceFile.pathOf root below).extension? = some extension ∧ file = .ofKey root below := by
  have hentry : store.find? top = some entry := holds_of_locate hroot
  cases entry with
  | link target => exact absurd hentry (h.find?_ne_link top target)
  | file content =>
    -- nothing lies below a file
    have hbelow : ∀ {below content'}, store.find? (top ++ below) = some (.file content') → below = [] := by
      intro below content' hfile
      by_contra hne
      have hdirectory := h.find?_of_append hfile hne
      rw [hentry] at hdirectory
      cases hdirectory
    rw [sources_of_file h hroot]
    constructor
    · intro hfile
      split at hfile
      · rename_i hextension
        exact ⟨[], ⟨content, by rwa [List.append_nil]⟩, hextension, List.mem_singleton.mp hfile⟩
      · cases hfile
    · rintro ⟨below, ⟨content', hfile⟩, hextension, rfl⟩
      obtain rfl := hbelow hfile
      have hroot : root.extension? = some extension := hextension
      rw [if_pos hroot]
      exact List.mem_singleton_self _
  | directory =>
    rw [sources_of_directory hroot, List.mem_filterMap]
    constructor
    · rintro ⟨⟨key, entry⟩, hmem, hsource⟩
      obtain ⟨content, below, rfl, rfl, -, hextension, rfl⟩ := sourceAt?_eq_some.mp hsource
      exact ⟨below, ⟨content, h.find?_of_mem hmem⟩, hextension, rfl⟩
    · rintro ⟨below, ⟨content, hfile⟩, hextension, rfl⟩
      have hbelow : below ≠ [] := by
        rintro rfl
        rw [List.append_nil, hentry] at hfile
        cases hfile
      exact ⟨(top ++ below, .file content), mem_entries_of_find? hfile (by simp [hbelow]),
        sourceAt?_eq_some.mpr ⟨content, below, rfl, rfl, hbelow, hextension, rfl⟩⟩

end Store

/-- What is found below a directory that exists: if there is no dot in the extension, the regular files that are
named with it, at any depth, each of them once and by a path that leads to it unless it is too long, and nothing else;
if there is one, nothing, whatever lies there. -/
theorem Run.sourceFiles_iff {world : World} (hplain : world.files.IsPlain)
    (hroot : world.files.locate true root = .ok (.found top entry)) (extension : String) :
    (∀ file, file ∈ (Run.sourceFiles root extension world).1 ↔
      '.' ∉ extension.toList ∧ ∃ below, world.files.Bears top extension below ∧ file = .ofKey root below) ∧
    (Run.sourceFiles root extension world).1.Nodup ∧
    ∀ below, world.files.Bears top extension below → ∃ content,
      world.files.locate false (SourceFile.pathOf root below) =
        if Store.pathLimit < (SourceFile.pathOf root below).text.utf8ByteSize then .error .nameTooLong
        else .ok (.found (top ++ below) (.file content)) := by
  rw [Run.sourceFiles_apply]
  refine ⟨fun file => ?_, Store.nodup_sources hplain, fun below hbears => ?_⟩
  · rw [hplain.mem_sources_iff hroot]
    constructor
    · rintro ⟨below, hfile, hextension, rfl⟩
      obtain ⟨hdot, hbears⟩ := (hplain.bears_iff hroot).mpr ⟨hfile, hextension⟩
      exact ⟨hdot, below, hbears, rfl⟩
    · rintro ⟨hdot, below, hbears, rfl⟩
      obtain ⟨hfile, hextension⟩ := (hplain.bears_iff hroot).mp ⟨hdot, hbears⟩
      exact ⟨below, hfile, hextension, rfl⟩
  · obtain ⟨content, hfile⟩ := hbears.file
    exact ⟨content, hplain.locate_pathOf hroot hfile false⟩

/-! ## An extension of two parts -/

/-- A tree with a source deep down and a file whose extension has two parts. -/
def declarations : Store :=
  ⟨[(["a"], .directory), (["a", "b.ts"], .file "".toUTF8), (["c.d.ts"], .file "".toUTF8), (["d.ts"], .directory)],
    []⟩

theorem isPlain_declarations : declarations.IsPlain where
  ordered := by
    rw [Store.Ordered, declarations]
    decide
  names := by
    simp only [declarations, List.forall_mem_cons, List.not_mem_nil, false_implies, implies_true, and_true]
    decide
  parents := by simp [declarations, Store.find?, Store.lookup]
  no_links := by simp [declarations, Entry.isLink]

theorem bears_declarations : declarations.Bears [] "d.ts" ["c.d.ts"] :=
  ⟨⟨"".toUTF8, rfl⟩, [], ['c'], by decide, by decide⟩

/-- Of one and the same tree, both files are found with the last part of their extensions; with both parts, nothing is
found. -/
theorem sourceFiles_declarations :
    declarations.IsPlain ∧ declarations.locate true ⟨"/"⟩ = .ok (.found [] .directory) ∧
      (⟨"a/b", ⟨"/a/b.ts"⟩⟩ : SourceFile) ∈ (Run.sourceFiles ⟨"/"⟩ "ts" (.start declarations [])).1 ∧
      (⟨"c.d", ⟨"/c.d.ts"⟩⟩ : SourceFile) ∈ (Run.sourceFiles ⟨"/"⟩ "ts" (.start declarations [])).1 ∧
      ∀ file, file ∉ (Run.sourceFiles ⟨"/"⟩ "d.ts" (.start declarations [])).1 := by
  have hplain : (World.start declarations []).files.IsPlain := isPlain_declarations
  have hspec := fun extension => (Run.sourceFiles_iff hplain (Snapshot.locate_root _) extension).1
  refine ⟨isPlain_declarations, Snapshot.locate_root _, (hspec "ts" _).mpr ⟨by decide, ["a", "b.ts"], ?_, by decide⟩,
    (hspec "ts" _).mpr ⟨by decide, ["c.d.ts"], ?_, by decide⟩, fun file hfile => ?_⟩
  · exact ⟨⟨"".toUTF8, rfl⟩, ["a"], ['b'], by decide, by decide⟩
  · exact ⟨⟨"".toUTF8, rfl⟩, [], ['c', '.', 'd'], by decide, by decide⟩
  · exact absurd ((hspec "d.ts" file).mp hfile).1 (by decide)

/-- A file that is named with an extension of two parts is not found. -/
theorem not_found_of_two_parts :
    declarations.IsPlain ∧ declarations.locate true ⟨"/"⟩ = .ok (.found [] .directory) ∧
      declarations.Bears [] "d.ts" ["c.d.ts"] ∧ (Run.sourceFiles ⟨"/"⟩ "d.ts" (.start declarations [])).1 = [] := by
  refine ⟨isPlain_declarations, Snapshot.locate_root _, bears_declarations, ?_⟩
  rw [Run.sourceFiles_apply]
  change declarations.sources ⟨"/"⟩ "d.ts" = []
  rw [Store.sources_of_directory (Snapshot.locate_root _)]
  simp only [declarations, List.filterMap_cons, Store.sourceAt?, List.filterMap_nil]
  decide

end GoldenBench
