import GoldenBench.Proofs.Discovery
import GoldenBench.Proofs.Files.Lookup
import GoldenBench.Proofs.Files.Path
import Mathlib.Data.List.Induction

/-!
# Where sources lie

A source that is found in a plain tree lies in a directory, under a stem with the extension of sources
(`Store.Lies`). No two sources lie at one place, and which sources there are depends on nothing but the directories
and the places of files with that extension (`Store.SameSources`).

* `Store.exists_lies`: every source lies somewhere.
* `Store.sources_congr`: trees with the same sources in them give the same sources.
-/

namespace GoldenBench.Store

open GoldenBench.Path (named)

variable {store other : Store} {root path : Path} {extension : String} {followLast : Bool} {links : Nat}
  {here top directory key : Key} {names : List String} {entry : Entry} {content : ByteArray} {stem : List Char}
  {file : SourceFile}

/-! ## Names that lead down -/

theorem IsPlain.find?_of_append (h : store.IsPlain) (hfind : store.find? (here ++ names) = some entry)
    (hnames : names ≠ []) : store.find? here = some .directory := by
  induction names using List.reverseRecOn generalizing entry with
  | nil => exact absurd rfl hnames
  | append_singleton init last ih =>
    have hparent : store.find? (here ++ init) = some .directory := by
      have hparent := h.find?_dropLast hfind (by simp)
      rwa [← List.append_assoc, List.dropLast_concat] at hparent
    by_cases hinit : init = []
    · rwa [hinit, List.append_nil] at hparent
    · exact ih hparent hinit

theorem IsPlain.find?_above (h : store.IsPlain) (hdirectory : store.find? directory = some .directory) :
    store.find? directory.dropLast = some .directory := by
  by_cases hempty : directory = []
  · rw [hempty]
    rfl
  · exact h.find?_dropLast hdirectory hempty

/-- Names lead to the directory that they name. -/
theorem IsPlain.locateFrom_names (h : store.IsPlain) (hfind : store.find? (here ++ names) = some .directory) :
    store.locateFrom followLast links here names = .ok (.found (here ++ names) .directory) := by
  induction names generalizing here with
  | nil =>
    rw [List.append_nil] at hfind ⊢
    rw [locateFrom, hfind]
  | cons name rest ih =>
    have hhere := h.find?_of_append hfind (by simp)
    obtain ⟨hempty, hdot, hup, -, -, hlimit⟩ := h.isName hfind name (by simp)
    rw [List.append_cons] at hfind
    have hnext : store.find? (here ++ [name]) = some .directory := by
      by_cases hrest : rest = []
      · rwa [hrest, List.append_nil] at hfind
      · exact h.find?_of_append hfind hrest
    rw [locateFrom_entry hhere ⟨by simp [hempty, hdot], hup, Nat.not_lt.mpr hlimit⟩ hnext (by simp), ih hfind,
      ← List.append_cons]

/-- The directory that a path leads to is entered by its entrance. -/
theorem locateFrom_entrance (h : store.locate true root = .ok (.found top .directory)) :
    store.locateFrom true linkLimit [] root.entrance = .ok (.found top .directory) := by
  obtain ⟨-, hpieces⟩ := locate_eq_ok h
  by_cases hends : root.endsInSlash = true
  · rw [Path.pieces_of_endsInSlash hends] at hpieces
    obtain ⟨directory, hdirectory⟩ := exists_directory_of_locateFrom (by simp) hpieces
    obtain ⟨left, hleft⟩ := locateFrom_append hdirectory
    have hfound : store.find? directory = some .directory := holds_of_locateFrom hdirectory
    rw [hleft true [""] (by simp), locateFrom, hfound] at hpieces
    simp only [decide_true, Bool.true_or, ↓reduceIte] at hpieces
    rw [locateFrom, hfound] at hpieces
    cases hpieces
    exact hdirectory
  · rwa [Path.entrance, if_neg hends]

/-! ## Places of sources -/

/-- A path leads to a file: the directory that it lies in, and the stem and the extension of its name. -/
structure Lies (store : Store) (path : Path) (directory : Key) (stem : List Char) (extension : String) : Prop where
  /-- The path leads to the directory, and there to the name. -/
  leads : store.Leads path directory (named stem extension)
  /-- The directory holds a file of that name. -/
  file : ∃ content, store.find? (directory ++ [named stem extension]) = some (.file content)
  /-- The stem is not empty. -/
  stem_ne : stem ≠ []
  /-- The extension is what stands behind the last dot. -/
  no_dot : '.' ∉ extension.toList

theorem Leads.unique {name name' : String} {directory' : Key} (h : store.Leads path directory name)
    (h' : store.Leads path directory' name') : directory = directory' ∧ name = name' := by
  obtain ⟨before, hpieces, hbefore⟩ := h
  obtain ⟨before', hpieces', hbefore'⟩ := h'
  rw [hpieces] at hpieces'
  obtain ⟨rfl, hname⟩ := List.append_inj' hpieces' rfl
  rw [hbefore] at hbefore'
  cases hbefore'
  exact ⟨rfl, List.singleton_inj.mp hname⟩

theorem Lies.unique {directory' : Key} {stem' : List Char} (h : store.Lies path directory stem extension)
    (h' : store.Lies path directory' stem' extension) : directory = directory' ∧ stem = stem' := by
  obtain ⟨hdirectory, hname⟩ := h.leads.unique h'.leads
  exact ⟨hdirectory, Path.named_injective hname⟩

/-- A path that leads to a file and has an extension lies where it leads. -/
theorem Leads.lies {name : String} (h : store.Leads path directory name) (hname : name ≠ "" ∧ name ≠ "." ∧ name ≠ "..")
    (hfile : store.find? (directory ++ [name]) = some (.file content)) (hextension : path.extension? = some extension) :
    ∃ stem, name = named stem extension ∧ store.Lies path directory stem extension := by
  obtain ⟨before, hpieces, hbefore⟩ := h
  obtain ⟨stem, rfl, hstem, hdot⟩ :=
    Path.exists_named hpieces ⟨hname.1, hname.2.1⟩ hname.2.2 hextension
  exact ⟨stem, rfl, ⟨before, hpieces, hbefore⟩, ⟨content, hfile⟩, hstem, hdot⟩

/-- The pieces of the path of a file that was found below a directory. -/
theorem pieces_pathOf (htext : root.text ≠ "") (hkey : key ≠ []) (hnames : ∀ name ∈ key, IsName name) :
    (SourceFile.pathOf root key).pieces = root.entrance ++ key := by
  rw [SourceFile.pathOf, if_neg (by simpa using hkey)]
  exact Path.pieces_join htext hkey fun name hname => ⟨(hnames name hname).1, (hnames name hname).2.2.2.1⟩

/-- The path of a file that was found below a directory leads to the file. -/
theorem IsPlain.leads_below (h : store.IsPlain) (hroot : store.locate true root = .ok (.found top .directory))
    (hkey : key ≠ []) (hfile : store.find? (top ++ key) = some (.file content)) :
    ∃ directory name, top ++ key = directory ++ [name] ∧ store.Leads (SourceFile.pathOf root key) directory name := by
  have htext := (Path.fault?_eq_none.mp (locate_eq_ok hroot).1).2.1
  have hnames := h.isName hfile
  have hpieces := pieces_pathOf htext hkey fun name hname => hnames name (List.mem_append_right _ hname)
  obtain ⟨init, name, rfl⟩ := (List.eq_nil_or_concat' key).resolve_left hkey
  have hdirectory : store.find? (top ++ init) = some .directory := by
    rw [← List.append_assoc] at hfile
    exact h.find?_of_append hfile (by simp)
  refine ⟨top ++ init, name, by rw [List.append_assoc], root.entrance ++ init, by rw [hpieces, List.append_assoc], ?_⟩
  have hentrance := locateFrom_entrance hroot
  by_cases hinit : init = []
  · rwa [hinit, List.append_nil, List.append_nil]
  · obtain ⟨left, hleft⟩ := locateFrom_append hentrance
    rw [hleft true init hinit, h.locateFrom_names hdirectory]

/-- A file below a directory lies where its key says. -/
theorem IsPlain.lies_below (h : store.IsPlain) (hroot : store.locate true root = .ok (.found top .directory))
    (hkey : key ≠ []) (hfile : store.find? (top ++ key) = some (.file content))
    (hextension : (SourceFile.pathOf root key).extension? = some extension) :
    ∃ directory stem, top ++ key = directory ++ [named stem extension] ∧
      store.Lies (SourceFile.pathOf root key) directory stem extension := by
  obtain ⟨directory, name, hplace, hleads⟩ := h.leads_below hroot hkey hfile
  rw [hplace] at hfile
  obtain ⟨hempty, hdot, hup, -⟩ := h.isName hfile name (by simp)
  obtain ⟨stem, rfl, hlies⟩ := hleads.lies ⟨hempty, hdot, hup⟩ hfile hextension
  exact ⟨directory, stem, hplace, hlies⟩

/-- A path that leads to a file leads to it by its name. -/
theorem IsPlain.leads_of_locate (h : store.IsPlain)
    (hroot : store.locate true root = .ok (.found key (.file content))) :
    ∃ directory name, key = directory ++ [name] ∧ store.Leads root directory name := by
  obtain ⟨-, hpieces⟩ := locate_eq_ok hroot
  obtain ⟨before, name, hlast⟩ := (List.eq_nil_or_concat' root.pieces).resolve_left (Path.pieces_ne_nil root)
  rw [hlast] at hpieces
  obtain ⟨directory, hbefore⟩ := exists_directory_of_locateFrom (by simp) hpieces
  have hdirectory : store.find? directory = some .directory := holds_of_locateFrom hbefore
  obtain ⟨left, hleft⟩ := locateFrom_append hbefore
  rw [hleft true [name] (by simp)] at hpieces
  -- the two names that stay or go up lead to directories
  have hname : name ≠ "" ∧ name ≠ "." := by
    rw [← not_or]
    intro hstay
    rw [locateFrom_stay hdirectory (by simpa using hstay), locateFrom, hdirectory] at hpieces
    cases hpieces
  rw [locateFrom_name hdirectory hname (h.find?_ne_link _), lookIn] at hpieces
  have hup : name ≠ ".." := by
    rintro rfl
    have habove : store.find? directory.dropLast = some .directory := h.find?_above hdirectory
    rw [if_pos rfl, habove] at hpieces
    cases hpieces
  rw [if_neg hup] at hpieces
  split at hpieces
  · cases hpieces
  · split at hpieces
    · cases hpieces
      exact ⟨directory, name, rfl, before, hlast, hbefore⟩
    · cases hpieces

/-- A file that a path leads to lies where the path leads. -/
theorem IsPlain.lies_of_locate (h : store.IsPlain) (hroot : store.locate true root = .ok (.found key (.file content)))
    (hextension : root.extension? = some extension) :
    ∃ directory stem, key = directory ++ [named stem extension] ∧ store.Lies root directory stem extension := by
  obtain ⟨directory, name, rfl, hleads⟩ := h.leads_of_locate hroot
  have hfile := holds_of_locate hroot
  obtain ⟨hempty, hdot, hup, -⟩ := h.isName hfile name (by simp)
  obtain ⟨stem, rfl, hlies⟩ := hleads.lies ⟨hempty, hdot, hup⟩ hfile hextension
  exact ⟨directory, stem, rfl, hlies⟩

/-! ## Trees with the same sources -/

/-- Trees with the same directories, and with files of an extension in the same places, whatever these hold. -/
structure SameSources (extension : String) (store other : Store) : Prop where
  /-- The directories are the same. -/
  directories : ∀ key, store.find? key = some .directory ↔ other.find? key = some .directory
  /-- The places of files with the extension are the same. -/
  files : ∀ directory stem, stem ≠ [] →
    ((∃ content, store.find? (directory ++ [named stem extension]) = some (.file content)) ↔
      ∃ content, other.find? (directory ++ [named stem extension]) = some (.file content))

theorem SameSources.symm (h : SameSources extension store other) : SameSources extension other store :=
  ⟨fun key => (h.directories key).symm, fun directory stem hstem => (h.files directory stem hstem).symm⟩

theorem SameSources.keeps (h : SameSources extension store other) (hother : other.IsPlain) : store.Keeps other := by
  intro key entry hentry hfind
  cases entry with
  | file content => exact absurd rfl (hentry content)
  | directory => exact (h.directories key).mpr hfind
  | link target => exact absurd hfind (hother.find?_ne_link key target)

/-- A source lies at the same place in a tree with the same sources. -/
theorem Lies.congr (h : other.Lies path directory stem extension) (hother : other.IsPlain)
    (hsame : SameSources extension store other) : store.Lies path directory stem extension :=
  ⟨h.leads.keeps (hsame.keeps hother), (hsame.files directory stem h.stem_ne).mpr h.file, h.stem_ne, h.no_dot⟩

/-- Where a path with an extension leads that has no fault. -/
theorem Lies.locate (h : store.Lies path directory stem extension) (hplain : store.IsPlain)
    (hfault : path.fault? = none) (followLast : Bool) :
    ∃ content, store.find? (directory ++ [named stem extension]) = some (.file content) ∧
      store.locate followLast path = .ok (.found (directory ++ [named stem extension]) (.file content)) := by
  obtain ⟨content, hfile⟩ := h.file
  obtain ⟨hempty, hdot, hup, -, -, hlimit⟩ := hplain.isName hfile (named stem extension) (by simp)
  refine ⟨content, hfile, ?_⟩
  rw [locate_of_leads h.leads ⟨hempty, hdot⟩ (hplain.find?_ne_link _) hfault, lookIn_of_fits hup hlimit, hfile]

/-- The source that an entry is below a directory, if it is a file with the extension. -/
def sourceAt? (root : Path) (top : Key) (extension : String) : Key × Entry → Option SourceFile
  | (key, .file _) =>
    if top.isPrefixOf key && key.length ≠ top.length then
      let file := SourceFile.ofKey root (key.drop top.length)
      if file.path.extension? = some extension then some file else none
    else none
  | _ => none

theorem sourceAt?_eq_some : sourceAt? root top extension (key, entry) = some file ↔
    ∃ content below, entry = .file content ∧ key = top ++ below ∧ below ≠ [] ∧
      (SourceFile.pathOf root below).extension? = some extension ∧ file = .ofKey root below := by
  have hbelow : (top.isPrefixOf key && key.length ≠ top.length) = true ↔ ∃ below, key = top ++ below ∧ below ≠ [] := by
    rw [Bool.and_eq_true_iff, List.isPrefixOf_iff_prefix]
    constructor
    · rintro ⟨⟨below, rfl⟩, hlength⟩
      exact ⟨below, rfl, by simpa using hlength⟩
    · rintro ⟨below, rfl, hne⟩
      exact ⟨⟨below, rfl⟩, by simpa using hne⟩
  cases entry with
  | directory => simp [sourceAt?]
  | link target => simp [sourceAt?]
  | file content =>
    rw [sourceAt?]
    simp only [Option.ite_none_right_eq_some, hbelow]
    constructor
    · rintro ⟨⟨below, rfl, hne⟩, hfile⟩
      rw [List.drop_left] at hfile
      obtain ⟨hextension, hfile⟩ := hfile
      exact ⟨content, below, rfl, rfl, hne, hextension, (Option.some_inj.mp hfile).symm⟩
    · rintro ⟨_, below, -, rfl, hne, hextension, rfl⟩
      rw [List.drop_left]
      exact ⟨⟨below, rfl, hne⟩, hextension, rfl⟩

theorem sources_of_directory (h : store.locate true root = .ok (.found top .directory)) :
    store.sources root extension = store.entries.filterMap (sourceAt? root top extension) := by
  have hholds : store.holds root = true := by rw [holds, h]
  rw [sources, if_pos hholds, sourceFiles, filesUnder, h]
  simp only [filesBelow]
  rw [← List.filterMap_eq_map, ← List.filterMap_eq_filter, List.filterMap_filterMap, List.filterMap_filterMap]
  congr 1
  funext item
  obtain ⟨key, entry⟩ := item
  cases entry with
  | directory => rfl
  | link target => rfl
  | file content =>
    simp only [sourceAt?]
    split
    · simp [Option.guard]
    · rfl

theorem sources_of_file (hplain : store.IsPlain) (h : store.locate true root = .ok (.found key (.file content))) :
    store.sources root extension = if root.extension? = some extension then [.ofKey root []] else [] := by
  have hholds : store.holds root = true := by rw [holds, h]
  have hpath : (SourceFile.ofKey root []).path = root := rfl
  rw [sources, if_pos hholds, sourceFiles, filesUnder, h]
  dsimp only
  by_cases hextension : root.extension? = some extension
  · obtain ⟨directory, stem, -, hlies⟩ := hplain.lies_of_locate h hextension
    obtain ⟨content', -, hlocate⟩ := hlies.locate hplain (locate_eq_ok h).1 false
    simp [hlocate, hpath, hextension]
  · rw [if_neg hextension]
    split
    · simp [hpath, hextension]
    · rfl

/-- Where nothing is there are no sources. -/
theorem sources_eq_nil (h : ∀ key entry, store.locate true root ≠ .ok (.found key entry)) :
    store.sources root extension = [] := by
  have hholds : store.holds root = false := by
    rw [holds]
    split
    · rename_i hlocate
      exact absurd hlocate (h _ _)
    · rfl
  rw [sources, hholds]
  rfl

/-- A path leads to a directory, to a file, or to nothing. -/
theorem IsPlain.locate_cases (h : store.IsPlain) (root : Path) :
    (∃ top, store.locate true root = .ok (.found top .directory)) ∨
      (∃ key content, store.locate true root = .ok (.found key (.file content))) ∨
      ∀ key entry, store.locate true root ≠ .ok (.found key entry) := by
  by_cases hfound : ∃ key entry, store.locate true root = .ok (.found key entry)
  · obtain ⟨key, entry, hlocate⟩ := hfound
    cases entry with
    | directory => exact .inl ⟨key, hlocate⟩
    | file content => exact .inr (.inl ⟨key, content, hlocate⟩)
    | link target =>
      obtain ⟨-, hfrom⟩ := locate_eq_ok hlocate
      exact absurd (holds_of_locateFrom hfrom) (h.find?_ne_link key target)
  · exact .inr (.inr fun key entry hlocate => hfound ⟨key, entry, hlocate⟩)

/-- Every source lies somewhere, and it is the only source there. -/
theorem exists_lies (h : store.IsPlain) (hfile : file ∈ store.sources root extension) :
    ∃ directory stem, store.Lies file.path directory stem extension ∧
      ∀ twin ∈ store.sources root extension, store.Lies twin.path directory stem extension → twin = file := by
  rcases h.locate_cases root with ⟨top, hroot⟩ | ⟨key, content, hroot⟩ | hnone
  -- below a directory the place of a source determines the names that it is found by
  · have hplace : ∀ file ∈ store.sources root extension, ∃ below directory stem, file = .ofKey root below ∧
        top ++ below = directory ++ [named stem extension] ∧ store.Lies file.path directory stem extension := by
      intro file hfile
      rw [sources_of_directory hroot, List.mem_filterMap] at hfile
      obtain ⟨⟨key, entry⟩, hmem, hfile⟩ := hfile
      obtain ⟨content, below, rfl, rfl, hne, hextension, rfl⟩ := sourceAt?_eq_some.mp hfile
      obtain ⟨directory, stem, hkey, hlies⟩ := h.lies_below hroot hne (h.find?_of_mem hmem) hextension
      exact ⟨below, directory, stem, rfl, hkey, hlies⟩
    obtain ⟨below, directory, stem, rfl, hkey, hlies⟩ := hplace file hfile
    refine ⟨directory, stem, hlies, fun twin htwin htwinLies => ?_⟩
    obtain ⟨below', directory', stem', rfl, hkey', hlies'⟩ := hplace twin htwin
    obtain ⟨rfl, rfl⟩ := htwinLies.unique hlies'
    rw [List.append_cancel_left (hkey.trans hkey'.symm)]
  · rw [sources_of_file h hroot] at hfile ⊢
    split at hfile
    · rename_i hextension
      obtain rfl := List.mem_singleton.mp hfile
      obtain ⟨directory, stem, -, hlies⟩ := h.lies_of_locate hroot hextension
      refine ⟨directory, stem, hlies, fun twin htwin _ => ?_⟩
      rw [if_pos hextension] at htwin
      exact List.mem_singleton.mp htwin
    · cases hfile
  · rw [sources_eq_nil hnone] at hfile
    cases hfile

theorem nodup_sources (h : store.IsPlain) : (store.sources root extension).Nodup := by
  rcases h.locate_cases root with ⟨top, hroot⟩ | ⟨key, content, hroot⟩ | hnone
  · rw [sources_of_directory hroot]
    refine List.pairwise_filterMap.mpr (h.ordered.imp_of_mem fun {a b} ha hb hbefore file hfile twin htwin heq => ?_)
    obtain ⟨_, below, hentry, hkey, hne, hextension, rfl⟩ := sourceAt?_eq_some.mp hfile
    obtain ⟨_, below', hentry', hkey', hne', hextension', rfl⟩ := sourceAt?_eq_some.mp htwin
    obtain ⟨directory, stem, hplace, hlies⟩ := h.lies_below hroot hne (hkey ▸ hentry ▸ h.find?_of_mem ha) hextension
    obtain ⟨directory', stem', hplace', hlies'⟩ :=
      h.lies_below hroot hne' (hkey' ▸ hentry' ▸ h.find?_of_mem hb) hextension'
    have hpath : SourceFile.pathOf root below = SourceFile.pathOf root below' := congrArg SourceFile.path heq
    obtain ⟨rfl, rfl⟩ := hlies.unique (hpath ▸ hlies')
    have hsame : a.1 = b.1 := by rw [hkey, hkey', hplace, hplace']
    exact lt_irrefl b.1 ((Key.before_iff_lt _ _).mp (hsame ▸ hbefore))
  · rw [sources_of_file h hroot]
    split
    · exact List.pairwise_singleton _ _
    · exact List.nodup_nil
  · rw [sources_eq_nil hnone]
    exact List.nodup_nil

/-! ## The same sources -/

theorem locate_keeps (hkeeps : store.Keeps other) (hentry : store.find? key = some entry)
    (h : other.locate followLast path = .ok (.found key entry)) :
    store.locate followLast path = .ok (.found key entry) := by
  obtain ⟨hfault, hfrom⟩ := locate_eq_ok h
  rw [locate, hfault]
  exact locateFrom_keeps hkeeps hentry hfrom

/-- What can be a source at a place is one in both trees or in neither. -/
theorem SameSources.bind_sourceAt? (h : store.IsPlain) (hsame : SameSources extension store other)
    (hroot : store.locate true root = .ok (.found top .directory))
    (hsource : ((store.find? key).bind fun entry => sourceAt? root top extension (key, entry)) = some file) :
    ((other.find? key).bind fun entry => sourceAt? root top extension (key, entry)) = some file := by
  obtain ⟨entry, hfind, hsource⟩ := Option.bind_eq_some_iff.mp hsource
  obtain ⟨content, below, rfl, rfl, hne, hextension, rfl⟩ := sourceAt?_eq_some.mp hsource
  obtain ⟨directory, stem, hplace, hlies⟩ := h.lies_below hroot hne hfind hextension
  obtain ⟨content', hfile⟩ := (hsame.files directory stem hlies.stem_ne).mp hlies.file
  rw [← hplace] at hfile
  exact Option.bind_eq_some_iff.mpr
    ⟨_, hfile, sourceAt?_eq_some.mpr ⟨content', below, rfl, rfl, hne, hextension, rfl⟩⟩

theorem sources_congr_directory (h : store.IsPlain) (hother : other.IsPlain)
    (hsame : SameSources extension store other) (hroot : store.locate true root = .ok (.found top .directory)) :
    store.sources root extension = other.sources root extension := by
  have htop : store.find? top = some .directory := holds_of_locate hroot
  have hroot' := locate_keeps (hsame.symm.keeps h) ((hsame.directories top).mp htop) hroot
  rw [sources_of_directory hroot, sources_of_directory hroot']
  refine h.filterMap_congr hother fun key _ => Option.ext fun file => ?_
  exact ⟨hsame.bind_sourceAt? h hroot, hsame.symm.bind_sourceAt? hother hroot'⟩

theorem sources_congr_file (h : store.IsPlain) (hother : other.IsPlain)
    (hsame : SameSources extension store other) (hroot : store.locate true root = .ok (.found key (.file content)))
    (hextension : root.extension? = some extension) :
    store.sources root extension = other.sources root extension := by
  obtain ⟨directory, stem, -, hlies⟩ := h.lies_of_locate hroot hextension
  obtain ⟨content', -, hroot'⟩ := (hlies.congr h hsame.symm).locate hother (locate_eq_ok hroot).1 true
  rw [sources_of_file h hroot, sources_of_file hother hroot']

/-- A path leads to a directory, or to a file with the extension. -/
def Offers (store : Store) (root : Path) (extension : String) : Prop :=
  (∃ top, store.locate true root = .ok (.found top .directory)) ∨
    (∃ key content, store.locate true root = .ok (.found key (.file content))) ∧ root.extension? = some extension

theorem sources_congr_of_offers (h : store.IsPlain) (hother : other.IsPlain)
    (hsame : SameSources extension store other) (hroot : store.Offers root extension) :
    store.sources root extension = other.sources root extension := by
  rcases hroot with ⟨top, hroot⟩ | ⟨⟨key, content, hroot⟩, hextension⟩
  · exact sources_congr_directory h hother hsame hroot
  · exact sources_congr_file h hother hsame hroot hextension

theorem sources_of_not_offers (h : store.IsPlain) (hroot : ¬ store.Offers root extension) :
    store.sources root extension = [] := by
  rcases h.locate_cases root with htop | ⟨key, content, hfile⟩ | hnone
  · exact absurd (.inl htop) hroot
  · rw [sources_of_file h hfile]
    exact if_neg fun hextension => hroot (.inr ⟨⟨key, content, hfile⟩, hextension⟩)
  · exact sources_eq_nil hnone

/-- Trees with the same sources in them give the same sources. -/
theorem sources_congr (h : store.IsPlain) (hother : other.IsPlain) (hsame : SameSources extension store other)
    (root : Path) : store.sources root extension = other.sources root extension := by
  by_cases hroot : store.Offers root extension
  · exact sources_congr_of_offers h hother hsame hroot
  · by_cases hroot' : other.Offers root extension
    · exact (sources_congr_of_offers hother h hsame.symm hroot').symm
    · rw [sources_of_not_offers h hroot, sources_of_not_offers hother hroot']

end GoldenBench.Store
