import GoldenBench.Proofs.Files.Sources

/-!
# Names of sources

A source goes by its path without the extension. Unless its stem is a single dot, the path can be told from that name
(`SourceFile.nameOf_injective`), so no two sources below a directory go by one name (`Store.nodup_names`).
-/

namespace GoldenBench

open GoldenBench.Path (named ofPieces)

variable {path root : Path} {before names : List String} {stem : List Char} {extension : String} {key : Key}

/-! ## Without the extension -/

namespace Path

theorem setExtension_empty (hpieces : path.pieces = before ++ [String.ofList (stem ++ ['.'])]) (hstem : stem ≠ [])
    (hdot : stem ≠ ['.']) : path.setExtension "" = ofPieces (before ++ [String.ofList stem]) := by
  obtain ⟨hempty, hpoint, hup⟩ := stem_dot_ne hstem hdot
  have hsplit : (splitName (String.ofList (stem ++ ['.'])).toList).1 = stem := by
    rw [String.toList_ofList, splitName_append (by simp), if_neg hstem]
  rw [setExtension, splitFile?_of_pieces hpieces ⟨hempty, hpoint⟩, if_neg hup]
  simp only [hsplit, ofBody_of_pieces hpieces]
  rfl

/-- Without its extension the last piece is the stem. -/
theorem withExtension_empty (hpieces : path.pieces = before ++ [named stem extension])
    (hname : named stem extension ≠ "" ∧ named stem extension ≠ "." ∧ named stem extension ≠ "..") (hstem : stem ≠ [])
    (hdot : stem ≠ ['.']) (hextension : '.' ∉ extension.toList) :
    path.withExtension "" = ofPieces (before ++ [String.ofList stem]) := by
  obtain ⟨hempty, hpoint, hup⟩ := hname
  have hslash : '/' ∉ (String.ofList (stem ++ ['.'])).toList := by
    have hslash := slash_not_mem_pieces path (named stem extension) (by simp [hpieces])
    rw [toList_named] at hslash
    simpa using fun h => hslash (List.mem_append_left _ h)
  rw [withExtension, extension?_of_pieces hpieces ⟨hempty, hpoint⟩ hup, splitName_named hstem hextension]
  simp only [Option.map_some, text_without_extension hpieces (toList_named stem extension)]
  exact setExtension_empty (pieces_ofPieces_concat hpieces hslash) hstem hdot

/-! ## Components -/

/-- The components that pieces in front of names come to: the root, and those of them that name something. -/
def leading (before : List String) : List String :=
  let absolute := before.head? == some ""
  let named := (if absolute then before.drop 1 else before).zipIdx.filter fun (piece, n) =>
    piece ≠ "" && (piece ≠ "." || (n == 0 && !absolute))
  (if absolute then ["/"] else []) ++ named.map (·.1)

theorem isAbsolute_eq (hpieces : path.pieces = before ++ names) (hnames : names ≠ [])
    (hproper : ∀ name ∈ names, name ≠ "") : path.isAbsolute = (before.head? == some "") := by
  obtain ⟨init, last, rfl⟩ := (List.eq_nil_or_concat' names).resolve_left hnames
  rw [← List.append_assoc] at hpieces
  rw [Bool.eq_iff_iff, isAbsolute_iff hpieces, beq_iff_eq]
  cases before with
  | nil =>
    refine ⟨fun ⟨rest, hrest⟩ => ?_, fun h => nomatch h⟩
    rw [List.nil_append] at hrest
    exact absurd rfl (hproper "" (by simp [hrest]))
  | cons first rest => simp

/-- The components of a path that ends in names are the names, behind what the pieces before come to. -/
theorem components_of_pieces (hpieces : path.pieces = before ++ names) (hnames : names ≠ [])
    (hproper : ∀ name ∈ names, name ≠ "" ∧ name ≠ ".") : path.components = leading before ++ names := by
  have habsolute := isAbsolute_eq hpieces hnames fun name hname => (hproper name hname).1
  have hbody : path.body = (if path.isAbsolute then before.drop 1 else before) ++ names := by
    rw [body, hpieces]
    split
    · rename_i h
      rw [habsolute, beq_iff_eq] at h
      obtain ⟨rest, rfl⟩ := List.head?_eq_some_iff.mp h
      rfl
    · rfl
  rw [components, hbody, List.zipIdx_append, List.filter_append, List.map_append, leading, ← habsolute,
    List.append_assoc]
  congr 2
  rw [List.filter_eq_self.mpr, List.zipIdx_map_fst]
  rintro ⟨piece, n⟩ hpiece
  obtain ⟨hempty, hpoint⟩ := hproper piece (List.fst_mem_of_mem_zipIdx hpiece)
  simp [hempty, hpoint]

/-- The components of names are the names. -/
theorem components_ofPieces (hnames : names ≠ [])
    (hproper : ∀ name ∈ names, name ≠ "" ∧ name ≠ "." ∧ '/' ∉ name.toList) : (ofPieces names).components = names := by
  have hpieces : (ofPieces names).pieces = [] ++ names := pieces_ofPieces hnames fun name h => (hproper name h).2.2
  exact components_of_pieces hpieces hnames fun name h => ⟨(hproper name h).1, (hproper name h).2.1⟩

end Path

/-! ## Names -/

namespace SourceFile

theorem name_ofKey (root : Path) (key : Key) : (ofKey root key).name = nameOf key := by
  rw [ofKey]

theorem pieces_relative (hkey : key ≠ []) (hnames : ∀ name ∈ key, IsName name) : (relative key).pieces = key :=
  Path.pieces_ofPieces hkey fun name hname => (hnames name hname).2.2.2.1

/-- A source goes by the names of its directories and the stem of its own. -/
theorem nameOf_eq {directory : Key} (hnames : ∀ name ∈ directory ++ [named stem extension], IsName name)
    (hstem : stem ≠ []) (hdot : stem ≠ ['.']) (hextension : '.' ∉ extension.toList) :
    nameOf (directory ++ [named stem extension]) = "/".intercalate (directory ++ [String.ofList stem]) := by
  obtain ⟨hempty, hpoint, hup, hslash, -⟩ := hnames (named stem extension) (by simp)
  rw [nameOf, Path.withExtension_empty (pieces_relative (by simp) hnames) ⟨hempty, hpoint, hup⟩ hstem hdot hextension,
    Path.components_ofPieces (by simp)]
  intro name hname
  rcases List.mem_append.mp hname with hname | hname
  · obtain ⟨hempty, hpoint, -, hslash, -⟩ := hnames name (List.mem_append_left _ hname)
    exact ⟨hempty, hpoint, hslash⟩
  · rw [List.mem_singleton.mp hname]
    refine ⟨fun h => hstem (String.ofList_eq_empty_iff.mp h), fun h => hdot ?_, fun h => hslash ?_⟩
    · rw [← String.toList_ofList (l := stem), h]
      rfl
    · rw [String.toList_ofList] at h
      rw [Path.toList_named]
      exact List.mem_append_left _ h

/-- The name tells the place. -/
theorem nameOf_injective {directory directory' : Key} {stem' : List Char}
    (hnames : ∀ name ∈ directory ++ [named stem extension], IsName name)
    (hnames' : ∀ name ∈ directory' ++ [named stem' extension], IsName name) (hstem : stem ≠ []) (hstem' : stem' ≠ [])
    (hdot : stem ≠ ['.']) (hdot' : stem' ≠ ['.']) (hextension : '.' ∉ extension.toList)
    (h : nameOf (directory ++ [named stem extension]) = nameOf (directory' ++ [named stem' extension])) :
    directory = directory' ∧ stem = stem' := by
  have hpieces : ∀ {directory : Key} {stem : List Char},
      (∀ name ∈ directory ++ [named stem extension], IsName name) →
      (ofPieces (directory ++ [String.ofList stem])).pieces = directory ++ [String.ofList stem] := by
    intro directory stem hnames
    refine Path.pieces_ofPieces (by simp) fun name hname => ?_
    rcases List.mem_append.mp hname with hname | hname
    · exact (hnames name (List.mem_append_left _ hname)).2.2.2.1
    · obtain ⟨-, -, -, hslash, -⟩ := hnames (named stem extension) (by simp)
      rw [List.mem_singleton.mp hname, String.toList_ofList]
      rw [Path.toList_named] at hslash
      exact fun hmem => hslash (List.mem_append_left _ hmem)
  rw [nameOf_eq hnames hstem hdot hextension, nameOf_eq hnames' hstem' hdot' hextension] at h
  have hsame := hpieces hnames
  rw [show ofPieces (directory ++ [String.ofList stem]) = ofPieces (directory' ++ [String.ofList stem']) from
    congrArg Path.mk h, hpieces hnames'] at hsame
  obtain ⟨rfl, hlast⟩ := List.append_inj' hsame rfl
  exact ⟨rfl, String.ofList_inj.mp (List.singleton_inj.mp hlast).symm⟩

end SourceFile

namespace Store

variable {store : Store}

/-- A tree that a disk can hold, with links or without, in which the stem of no file name consists of dots alone. -/
structure WellNamed (store : Store) : Prop where
  /-- Entries stand in the order of their keys. -/
  ordered : Ordered store.entries
  /-- Every name is one that a directory can hold. -/
  names : ∀ item ∈ store.entries, ∀ name ∈ item.1, IsName name
  /-- The stem of every file name has something else than dots in it. -/
  stems : ∀ item ∈ store.entries, ∀ content, item.2 = .file content → ∀ name ∈ item.1.getLast?,
    ∃ c ∈ (Path.splitName name.toList).1, c ≠ '.'

/-- Where a source below a directory lies: the directories from there on, and its stem, which is not made of dots
alone. -/
structure Seated (root : Path) (extension : String) (file : SourceFile) (init : Key) (stem : List Char) : Prop where
  /-- The directory goes by a text. -/
  root_text : root.text ≠ ""
  /-- The source lies there. -/
  eq_ofKey : file = .ofKey root (init ++ [named stem extension])
  /-- Directories can hold all names on the way. -/
  names : ∀ name ∈ init ++ [named stem extension], IsName name
  /-- The stem has something else than dots in it. -/
  stem : ∃ c ∈ stem, c ≠ '.'
  /-- The extension is what stands behind the last dot. -/
  no_dot : '.' ∉ extension.toList

variable {file : SourceFile} {init : Key}

theorem Seated.stem_ne (h : Seated root extension file init stem) : stem ≠ [] := by
  obtain ⟨c, hc, -⟩ := h.stem
  exact List.ne_nil_of_mem hc

theorem Seated.stem_ne_dot (h : Seated root extension file init stem) : stem ≠ ['.'] := by
  rintro rfl
  obtain ⟨c, hc, hne⟩ := h.stem
  exact hne (List.mem_singleton.mp hc)

theorem Seated.name_eq (h : Seated root extension file init stem) :
    file.name = SourceFile.nameOf (init ++ [named stem extension]) := by
  rw [h.eq_ofKey, SourceFile.name_ofKey]

/-- Where a source below a directory lies. -/
theorem WellNamed.exists_seated {top below : Key} {content : ByteArray} (h : store.WellNamed)
    (hmem : (top ++ below, .file content) ∈ store.entries) (hbelow : below ≠ []) (htext : root.text ≠ "")
    (hextension : (SourceFile.pathOf root below).extension? = some extension) :
    ∃ init stem, below = init ++ [named stem extension] ∧
      Seated root extension (.ofKey root below) init stem := by
  have hnames : ∀ name ∈ below, IsName name := fun name hname => h.names _ hmem name (List.mem_append_right _ hname)
  obtain ⟨init, name, rfl⟩ := (List.eq_nil_or_concat' below).resolve_left hbelow
  obtain ⟨hempty, hpoint, hup, -⟩ := hnames name (by simp)
  have hpieces := pieces_pathOf htext hbelow hnames
  rw [← List.append_assoc] at hpieces
  obtain ⟨stem, rfl, hstem, hdot⟩ := Path.exists_named hpieces ⟨hempty, hpoint⟩ hup hextension
  obtain ⟨c, hc, hne⟩ := h.stems _ hmem content rfl (named stem extension) (by simp)
  rw [Path.splitName_named hstem hdot] at hc
  exact ⟨init, stem, rfl, htext, rfl, hnames, ⟨c, hc, hne⟩, hdot⟩

/-- Where there is no directory there is one file at most. -/
theorem filesUnder_of_not_directory (h : ¬ ∃ top, store.locate true root = .ok (.found top .directory)) :
    store.filesUnder root = [] ∨ store.filesUnder root = [[]] := by
  rw [filesUnder]
  split
  · rename_i top hroot
    exact absurd ⟨top, hroot⟩ h
  · split
    · exact .inr rfl
    · exact .inl rfl
  · exact .inl rfl

/-- What holds of any two sources below a directory, of which one lies before the other, holds of all of them, in
order. -/
theorem Ordered.pairwise_sources {R : SourceFile → SourceFile → Prop} (h : Ordered store.entries) (root : Path)
    (extension : String)
    (hR : ∀ top below below' content content', store.locate true root = .ok (.found top .directory) →
      (top ++ below, .file content) ∈ store.entries → (top ++ below', .file content') ∈ store.entries →
      below ≠ [] → below' ≠ [] → (SourceFile.pathOf root below).extension? = some extension →
      (SourceFile.pathOf root below').extension? = some extension → below < below' →
      R (.ofKey root below) (.ofKey root below')) : (store.sources root extension).Pairwise R := by
  by_cases hroot : ∃ top, store.locate true root = .ok (.found top .directory)
  · obtain ⟨top, hroot⟩ := hroot
    rw [sources_of_directory hroot]
    refine List.pairwise_filterMap.mpr (h.imp_of_mem ?_)
    rintro ⟨key, entry⟩ ⟨key', entry'⟩ hmem hmem' hbefore file hfile twin htwin
    obtain ⟨content, below, rfl, rfl, hne, hextension, rfl⟩ := sourceAt?_eq_some.mp hfile
    obtain ⟨content', below', rfl, rfl, hne', hextension', rfl⟩ := sourceAt?_eq_some.mp htwin
    exact hR top below below' content content' hroot hmem hmem' hne hne' hextension hextension'
      (Key.lt_of_append_lt ((Key.before_iff_lt _ _).mp hbefore))
  · rcases filesUnder_of_not_directory hroot with hnone | hone
    · simp [sources, sourceFiles, hnone]
    · rw [sources, sourceFiles, hone]
      split
      · exact (List.pairwise_singleton _ _).sublist List.filter_sublist
      · exact .nil

/-- What holds of any two sources of which one lies before the other holds of all of them, in order. -/
theorem WellNamed.pairwise_sources {R : SourceFile → SourceFile → Prop} (h : store.WellNamed) (root : Path)
    (extension : String)
    (hR : ∀ file twin init init' stem stem', Seated root extension file init stem →
      Seated root extension twin init' stem' →
      init ++ [named stem extension] < init' ++ [named stem' extension] → R file twin) :
    (store.sources root extension).Pairwise R := by
  refine h.ordered.pairwise_sources root extension ?_
  intro top below below' content content' hroot hmem hmem' hne hne' hextension hextension' hlt
  have htext := (Path.fault?_eq_none.mp (locate_eq_ok hroot).1).2.1
  obtain ⟨init, stem, rfl, hseated⟩ := h.exists_seated hmem hne htext hextension
  obtain ⟨init', stem', rfl, hseated'⟩ := h.exists_seated hmem' hne' htext hextension'
  exact hR _ _ init init' stem stem' hseated hseated' hlt

/-- No two sources below a directory go by one name. -/
theorem WellNamed.nodup_names (h : store.WellNamed) (root : Path) (extension : String) :
    ((store.sources root extension).map (·.name)).Nodup := by
  refine List.pairwise_map.mpr (h.pairwise_sources root extension ?_)
  intro file twin init init' stem stem' hfile htwin hlt heq
  rw [hfile.name_eq, htwin.name_eq] at heq
  obtain ⟨rfl, rfl⟩ := SourceFile.nameOf_injective hfile.names htwin.names hfile.stem_ne htwin.stem_ne
    hfile.stem_ne_dot htwin.stem_ne_dot hfile.no_dot heq
  exact lt_irrefl _ hlt

end Store

end GoldenBench
