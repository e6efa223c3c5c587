import GoldenBench.Proofs.Files.Sources
import GoldenBench.World
import Mathlib.Data.List.Nodup
import Mathlib.Data.List.Perm.Subperm

/-!
# Scratch directories are fresh

A number is free as a name if nothing is at its place or below. Each entry of a tree is in the way of one number at
most, so among more numbers than entries one is free (`Store.isFree_freeNumber`).

* `Errand.makeScratch_ok`: where a scratch directory lies, and what was there before.
* `Errand.remove_of_makeScratch`: without a scratch directory the tree is what it was.
* `Scratch.Lies.key_of_locate`: where a path into a scratch directory leads.
* `Errand.read_of_makeScratch`: no path into a scratch directory leads to a file at first.
-/

namespace GoldenBench

/-! ## Numbers as names -/

theorem toList_toString (n : Nat) : (toString n).toList = Nat.toDigits 10 n := by
  simp

theorem toString_injective : Function.Injective (toString : Nat → String) := fun m n h => by
  have hdigits : Nat.toDigits 10 m = Nat.toDigits 10 n := by rw [← toList_toString, ← toList_toString, h]
  rw [← Nat.ofDigitChars_ten_toDigits (n := m), hdigits, Nat.ofDigitChars_ten_toDigits]

/-- A number can be the name of a directory, if it is not too long. -/
theorem toString_names (n : Nat) : toString n ≠ "" ∧ toString n ≠ "." ∧ toString n ≠ ".." ∧
    '/' ∉ (toString n).toList ∧ '\x00' ∉ (toString n).toList := by
  have hdigit : ∀ c ∈ (toString n).toList, c.isDigit = true := fun c hc =>
    Nat.isDigit_of_mem_toDigits (by decide) (by decide) (toList_toString n ▸ hc)
  have hdot : '.' ∉ (toString n).toList := fun h => absurd (hdigit _ h) (by decide)
  refine ⟨fun h => ?_, fun h => hdot ?_, fun h => hdot ?_, fun h => absurd (hdigit _ h) (by decide),
    fun h => absurd (hdigit _ h) (by decide)⟩
  · exact Nat.toDigits_ne_nil ((toList_toString n).symm.trans (congrArg String.toList h))
  · rw [h]
    decide
  · rw [h]
    decide

/-- A number takes few bytes as a name. -/
theorem utf8ByteSize_toString_le {n k : Nat} (hk : 0 < k) (h : n < 10 ^ k) : (toString n).utf8ByteSize ≤ 4 * k := by
  have hsize : ∀ chars : List Char, (String.ofList chars).utf8ByteSize ≤ 4 * chars.length := by
    intro chars
    induction chars with
    | nil => simp
    | cons c rest ih =>
      have hc := c.utf8Size_le_four
      simp only [String.utf8ByteSize_ofList, String.utf8Len_cons, List.length_cons] at ih ⊢
      omega
  have hlength : (Nat.toDigits 10 n).length ≤ k := (Nat.length_toDigits_le_iff (by decide) hk).mpr h
  have hdigits := hsize (Nat.toDigits 10 n)
  rw [← toList_toString, String.ofList_toList, toList_toString] at hdigits
  omega

namespace Store

variable {files : Store} {directory key k : Key}

/-! ## Free places -/

theorem isFree_iff : files.isFree key = true ↔ ∀ item ∈ files.entries, ¬ key <+: item.1 := by
  simp only [isFree, List.all_eq_true, Bool.not_eq_true', ← List.isPrefixOf_iff_prefix, Bool.not_eq_true]

/-- Nothing is at a free place or below it. -/
theorem find?_of_isFree (h : files.isFree key = true) (hkey : key ≠ []) (hk : key <+: k) : files.find? k = none := by
  have hne : k ≠ [] := fun hnil => hkey (List.prefix_nil.mp (hnil ▸ hk))
  cases hentry : files.find? k with
  | none => rfl
  | some entry => exact absurd hk (isFree_iff.mp h _ (mem_entries_of_find? hentry hne))

/-- The names by which entries lie below a directory. -/
def namesBelow (files : Store) (directory : Key) : List String :=
  files.entries.filterMap fun item => (item.1.drop directory.length).head?

theorem mem_namesBelow {name : String} (h : ¬ files.isFree (directory ++ [name]) = true) :
    name ∈ files.namesBelow directory := by
  rw [isFree_iff] at h
  push Not at h
  obtain ⟨item, hitem, rest, hrest⟩ := h
  refine List.mem_filterMap.mpr ⟨item, hitem, ?_⟩
  rw [← hrest, List.append_assoc, List.drop_left]
  rfl

/-- Among more numbers than there are entries, one is free. -/
theorem isFree_freeNumber (files : Store) (directory : Key) (n : Nat) :
    files.isFree (directory ++ [toString (files.freeNumber directory n)]) = true := by
  let numbers := List.range' n (files.entries.length + 1)
  cases hfind : numbers.find? fun m => files.isFree (directory ++ [toString m]) with
  | some m =>
    rw [freeNumber, hfind, Option.getD_some]
    exact List.find?_some (p := fun m => files.isFree (directory ++ [toString m])) hfind
  | none =>
    have htaken : numbers.map toString ⊆ files.namesBelow directory := fun name hname => by
      obtain ⟨m, hm, rfl⟩ := List.mem_map.mp hname
      exact mem_namesBelow (List.find?_eq_none.mp hfind m hm)
    have hnodup : (numbers.map toString).Nodup := List.Nodup.map toString_injective (List.nodup_range' 1)
    have hle : (numbers.map toString).length ≤ (files.namesBelow directory).length :=
      (List.subperm_of_subset hnodup htaken).length_le
    have hbelow : (files.namesBelow directory).length ≤ files.entries.length := List.length_filterMap_le _ _
    have hnumbers : (numbers.map toString).length = files.entries.length + 1 := by simp [numbers]
    omega

end Store

/-! ## Paths from the root -/

/-- A path from the root leads along its names. -/
theorem Path.entrance_path {key : Key} (hkey : key ≠ []) (hnames : ∀ name ∈ key, name ≠ "" ∧ '/' ∉ name.toList) :
    key.path.text ≠ "" ∧ key.path.entrance = "" :: key := by
  have hpieces : key.path.pieces = "" :: key := by
    rw [Key.path, ofBody_eq_ofPieces true hkey, if_pos rfl]
    exact pieces_ofPieces (by simp) (by simpa using fun name hname => (hnames name hname).2)
  have hlast : key.path.pieces = ("" :: key.dropLast) ++ [key.getLast hkey] := by
    rw [hpieces, List.cons_append, List.dropLast_concat_getLast]
  refine ⟨fun htext => ?_, ?_⟩
  · have hempty : key.path.pieces = [""] := by rw [pieces, htext]; rfl
    exact hkey (List.cons_inj_right "" |>.mp (hpieces.symm.trans hempty))
  · rw [entrance, endsInSlash_of_pieces hlast (hnames _ (List.getLast_mem hkey)).1, if_neg (by simp), hpieces]

/-! ## Trees without what lies at a place -/

namespace Store

variable {files : Store} {key k : Key} {entry : Entry} {parcel : Parcel}

theorem filter_place (keeps : Key → Bool) (hk : keeps k = false) (entries : List (Key × Entry)) :
    (place k entry entries).filter (fun item => keeps item.1) = entries.filter fun item => keeps item.1 := by
  induction entries with
  | nil => simp [place, hk]
  | cons head rest ih =>
    obtain ⟨k', e'⟩ := head
    rw [place]
    split
    · rename_i heq
      subst heq
      simp [hk]
    · split
      · simp [hk]
      · simp only [List.filter_cons, ih]

theorem length_place_le (k : Key) (entry : Entry) (entries : List (Key × Entry)) :
    (place k entry entries).length ≤ entries.length + 1 := by
  induction entries with
  | nil => simp [place]
  | cons head rest ih =>
    obtain ⟨k', e'⟩ := head
    rw [place]
    split
    · simp
    · split
      · simp
      · simpa using ih

/-- What is set below a place is removed with it. -/
theorem remove_insert (hk : key <+: k) (entry : Entry) : (files.insert k entry).remove key = files.remove key := by
  rw [remove, remove, insert]
  congr 1
  exact filter_place (fun k => !key.isPrefixOf k) (by simpa using hk) files.entries

theorem remove_restore (h : ∀ item ∈ parcel, key <+: item.1) :
    (files.restore parcel).remove key = files.remove key := by
  induction parcel generalizing files with
  | nil => rfl
  | cons item rest ih =>
    have hrest := @ih (files.insert item.1 item.2) fun item hitem => h item (List.mem_cons_of_mem _ hitem)
    exact hrest.trans (remove_insert (h item List.mem_cons_self) item.2)

/-- Nothing is removed from a free place. -/
theorem remove_of_isFree (h : files.isFree key = true) : files.remove key = files := by
  have hkept : ∀ item ∈ files.entries, (!key.isPrefixOf item.1) = true := fun item hitem => by
    simpa [← List.isPrefixOf_iff_prefix] using isFree_iff.mp h item hitem
  rw [remove, List.filter_eq_self.mpr hkept]

theorem isPrefix_of_mem_within {item : Key × Entry} (h : item ∈ files.within key) : key <+: item.1 :=
  List.isPrefixOf_iff_prefix.mp (List.mem_filter.mp h).2

end Store

/-! ## Where a scratch directory lies -/

/-- A scratch directory lies where its path says. -/
structure Scratch.Lies (files : Store) (scratch : Scratch) (directory : Key) (number : String) : Prop where
  /-- A path leads to the directory that it lies in. -/
  root : files.locateFrom true Store.linkLimit [] ("" :: Run.scratchRoot) = .ok (.found directory .directory)
  /-- Its name is like that of a number. -/
  proper : number ≠ "" ∧ number ≠ "." ∧ number ≠ ".." ∧ '/' ∉ number.toList ∧ '\x00' ∉ number.toList
  /-- It goes by this name there and in its path. -/
  eq : scratch = ⟨directory ++ [number], Key.path (Run.scratchRoot ++ [number])⟩
  /-- It is there. -/
  there : files.find? (directory ++ [number]) = some .directory

/-- The pieces of a path into a scratch directory. -/
theorem pieces_scratch {number name : String} (hnumber : number ≠ "" ∧ '/' ∉ number.toList) (hname : IsName name) :
    ((Key.path (Run.scratchRoot ++ [number])).join ⟨name⟩).pieces = ("" :: Run.scratchRoot) ++ [number, name] := by
  have hnames : ∀ piece ∈ Run.scratchRoot ++ [number], piece ≠ "" ∧ '/' ∉ piece.toList := by
    rw [List.forall_mem_append]
    exact ⟨by decide, by simpa using hnumber⟩
  obtain ⟨htext, hentrance⟩ := Path.entrance_path (by simp) hnames
  have hproper : ∀ piece ∈ [name], piece ≠ "" ∧ '/' ∉ piece.toList := by simpa using ⟨hname.1, hname.2.2.2.1⟩
  have hjoin := Path.pieces_join htext (List.cons_ne_nil name []) hproper
  rw [hentrance, List.cons_append, List.append_assoc] at hjoin
  exact hjoin

namespace Scratch.Lies

variable {files after : Store} {scratch : Scratch} {directory : Key} {number name : String}

/-- It lies there as long as directories and links stay. -/
theorem keeps (h : scratch.Lies files directory number) (hkeeps : after.Keeps files) :
    scratch.Lies after directory number where
  root := Store.locateFrom_keeps hkeeps (hkeeps _ _ (by simp) (Store.holds_of_locateFrom h.root)) h.root
  proper := h.proper
  eq := h.eq
  there := hkeeps _ _ (by simp) h.there

/-- All but the last piece of a path into it lead to it, if its number is not too long. -/
theorem leads (h : scratch.Lies files directory number) (hlimit : number.utf8ByteSize ≤ Store.nameLimit)
    (hname : IsName name) : files.Leads (scratch.path.join ⟨name⟩) scratch.key name := by
  obtain ⟨hroot, ⟨hempty, hdot, hup, hslash, -⟩, rfl, hthere⟩ := h
  refine ⟨("" :: Run.scratchRoot) ++ [number], pieces_scratch ⟨hempty, hslash⟩ hname, ?_⟩
  obtain ⟨left, hleft⟩ := Store.locateFrom_append hroot
  rw [hleft true _ (by simp), Store.locateFrom_entry (Store.holds_of_locateFrom hroot)
    ⟨by simp [hempty, hdot], hup, Nat.not_lt.mpr hlimit⟩ hthere (by simp), Store.locateFrom, hthere]

/-- A path into it leads to what is there by that name, if it leads anywhere. -/
theorem key_of_locate {place : Store.Place} (h : scratch.Lies files directory number) (hname : IsName name)
    (hlink : ∀ target, files.find? (scratch.key ++ [name]) ≠ some (.link target))
    (hlocate : files.locate true (scratch.path.join ⟨name⟩) = .ok place) :
    place = .absent (scratch.key ++ [name]) ∨ ∃ entry, place = .found (scratch.key ++ [name]) entry := by
  by_cases hlimit : number.utf8ByteSize ≤ Store.nameLimit
  · rw [Store.locate_of_leads (h.leads hlimit hname) ⟨hname.1, hname.2.1⟩ hlink (Store.locate_eq_ok hlocate).1,
      Store.lookIn_of_fits hname.2.2.1 hname.2.2.2.2.2] at hlocate
    split at hlocate
    · cases hlocate
      exact .inr ⟨_, rfl⟩
    · cases hlocate
      exact .inl rfl
  -- no path leads on from a number that is too long
  · obtain ⟨hroot, ⟨hempty, hdot, hup, hslash, -⟩, rfl, -⟩ := h
    obtain ⟨left, hleft⟩ := Store.locateFrom_append hroot
    have hproper : ¬ (number = "" || number = ".") = true := by simp [hempty, hdot]
    have hfrom := (Store.locate_eq_ok hlocate).2
    rw [pieces_scratch ⟨hempty, hslash⟩ hname, hleft true _ (by simp), Store.locateFrom,
      Store.holds_of_locateFrom hroot] at hfrom
    simp only [hproper, hup, Nat.lt_of_not_le hlimit, Bool.false_eq_true, ↓reduceIte] at hfrom
    cases hfrom

/-- A path into it has no fault of its own, if its number is not too long. -/
theorem fault?_join (h : scratch.Lies files directory number) (hlimit : number.utf8ByteSize ≤ Store.nameLimit)
    (hname : IsName name) : (scratch.path.join ⟨name⟩).fault? = none := by
  obtain ⟨-, ⟨hempty, -, -, hslash, hzero⟩, rfl, -⟩ := h
  have htext : ((Key.path (Run.scratchRoot ++ [number])).join ⟨name⟩).text =
      "" ++ "/" ++ ("tmp" ++ "/" ++ ("scratch" ++ "/" ++ (number ++ "/" ++ name))) := by
    rw [← Path.ofPieces_pieces ((Key.path (Run.scratchRoot ++ [number])).join ⟨name⟩),
      pieces_scratch ⟨hempty, hslash⟩ hname]
    simp only [Run.scratchRoot, List.cons_append, List.nil_append]
    rw [Path.text_ofPieces_cons _ (by simp), Path.text_ofPieces_cons _ (by simp), Path.text_ofPieces_cons _ (by simp),
      Path.text_ofPieces_cons _ (by simp)]
    simp [Path.ofPieces]
  obtain ⟨-, -, -, -, hzero', hshort⟩ := hname
  rw [Path.fault?_eq_none, htext]
  refine ⟨?_, ?_, ?_⟩
  · simp [hzero, hzero']
  · simp
  · simp only [String.utf8ByteSize_append, Store.pathLimit, Store.nameLimit] at *
    have hfixed : "".utf8ByteSize + "/".utf8ByteSize + "tmp".utf8ByteSize + "scratch".utf8ByteSize = 11 := by decide
    omega

/-- Where a path into it leads, if its number is not too long. -/
theorem locate (h : scratch.Lies files directory number) (hlimit : number.utf8ByteSize ≤ Store.nameLimit)
    (hname : IsName name) (hlink : ∀ target, files.find? (scratch.key ++ [name]) ≠ some (.link target)) :
    files.locate true (scratch.path.join ⟨name⟩) = match files.find? (scratch.key ++ [name]) with
      | some entry => .ok (.found (scratch.key ++ [name]) entry)
      | none => .ok (.absent (scratch.key ++ [name])) := by
  have hlocate := Store.locate_of_leads (h.leads hlimit hname) ⟨hname.1, hname.2.1⟩ hlink (h.fault?_join hlimit hname)
  exact (hlocate true).trans (Store.lookIn_of_fits hname.2.2.1 hname.2.2.2.2.2)

/-- A file is put into it where nothing is, unless it is sealed. -/
theorem write (h : scratch.Lies files directory number) (hlimit : number.utf8ByteSize ≤ Store.nameLimit)
    (hname : IsName name) (hnone : files.find? (scratch.key ++ [name]) = none)
    (hopen : files.isSealed (scratch.key ++ [name]) = false) (content : ByteArray) :
    files.write (scratch.path.join ⟨name⟩) content = .ok (files.insert (scratch.key ++ [name]) (.file content)) := by
  have hslash : (scratch.path.join ⟨name⟩).endsInSlash = false := by
    obtain ⟨before, hpieces, -⟩ := h.leads hlimit hname
    exact Path.endsInSlash_of_pieces hpieces hname.1
  rw [Store.write, hslash, h.locate hlimit hname (by simp [hnone]), hnone]
  simp [hopen]

/-- A file that lies in it can be read. -/
theorem read (h : scratch.Lies files directory number) (hlimit : number.utf8ByteSize ≤ Store.nameLimit)
    (hname : IsName name) {content : ByteArray} (hfile : files.find? (scratch.key ++ [name]) = some (.file content)) :
    files.read (scratch.path.join ⟨name⟩) = .ok content := by
  rw [Store.read, h.locate hlimit hname (by simp [hfile]), hfile]

/-- A file that is written into it is removed with it. -/
theorem remove_of_write (h : scratch.Lies files directory number) (hname : IsName name)
    (hlink : ∀ target, files.find? (scratch.key ++ [name]) ≠ some (.link target)) {content : ByteArray}
    (hwrite : files.write (scratch.path.join ⟨name⟩) content = .ok after) :
    after.remove scratch.key = files.remove scratch.key := by
  obtain ⟨-, key, rfl, hplace⟩ := Store.write_eq_ok.mp hwrite
  have hkey : key = scratch.key ++ [name] := by
    rcases hplace with ⟨kept, hfound⟩ | ⟨habsent, -⟩
    · rcases h.key_of_locate hname hlink hfound with hplace | ⟨entry, hplace⟩
      · cases hplace
      · cases hplace
        rfl
    · rcases h.key_of_locate hname hlink habsent with hplace | ⟨entry, hplace⟩
      · cases hplace
        rfl
      · cases hplace
  rw [hkey, Store.remove_insert (List.prefix_append _ _)]

end Scratch.Lies

/-- The directory for scratch directories is found where its name says, if there is no link on the way. -/
theorem Store.locate_scratchRoot {files : Store} (hparent : files.find? ["tmp"] = some .directory)
    (hroot : files.find? Run.scratchRoot = some .directory) :
    files.locate true Run.scratchRoot.path = .ok (.found Run.scratchRoot .directory) := by
  have hpieces : Run.scratchRoot.path.pieces = ["", "tmp", "scratch"] := by decide
  have htext : Run.scratchRoot.path.text = "/tmp/scratch" := rfl
  have hfault : Run.scratchRoot.path.fault? = none := Path.fault?_eq_none.mpr ⟨by simp [htext], by decide, by decide⟩
  have htop : files.find? ([] ++ ["tmp"]) = some .directory := hparent
  have hnext : files.find? ([] ++ ["tmp"] ++ ["scratch"]) = some .directory := hroot
  rw [Store.locate, hfault, hpieces]
  simp only
  rw [Store.locateFrom_stay rfl rfl, Store.locateFrom_entry rfl ⟨by decide, by decide, by decide⟩ htop (by simp),
    Store.locateFrom_entry htop ⟨by decide, by decide, by decide⟩ hnext (by simp), Store.locateFrom, hnext]
  rfl

/-- What is there by such a name is a scratch directory. -/
theorem Scratch.lies_scratchRoot {files : Store} {number : String}
    (hproper : number ≠ "" ∧ number ≠ "." ∧ number ≠ ".." ∧ '/' ∉ number.toList ∧ '\x00' ∉ number.toList)
    (hparent : files.find? ["tmp"] = some .directory) (hroot : files.find? Run.scratchRoot = some .directory)
    (hthere : files.find? (Run.scratchRoot ++ [number]) = some .directory) :
    Scratch.Lies files ⟨Run.scratchRoot ++ [number], Key.path (Run.scratchRoot ++ [number])⟩ Run.scratchRoot
      number where
  root := (Store.locate_eq_ok (Store.locate_scratchRoot hparent hroot)).2
  proper := hproper
  eq := rfl
  there := hthere

namespace Errand

variable {workspace start : Workspace} {scratch : Scratch} {name : String}

/-- A scratch directory lies where nothing was, in a directory that a path leads to. -/
theorem makeScratch_ok (h : makeScratch workspace = (.ok scratch, start)) :
    ∃ directory number, scratch.Lies start.files directory number ∧ workspace.files.isFree scratch.key = true ∧
      start.files = workspace.files.insert scratch.key .directory := by
  rw [makeScratch] at h
  split at h
  · rename_i directory hlocate
    dsimp only at h
    split at h
    · cases h
    · cases h
      generalize hn : workspace.files.freeNumber directory (workspace.scratches % Run.scratchCycle) = n
      have hfree : workspace.files.isFree (directory ++ [toString n]) = true := hn ▸ Store.isFree_freeNumber _ _ _
      have hkey : directory ++ [toString n] ≠ [] := by simp
      have hextends := Store.extends_insert (Store.find?_of_isFree hfree hkey List.prefix_rfl) .directory
      have hentrance : Run.scratchRoot.path.entrance = "" :: Run.scratchRoot :=
        (Path.entrance_path (by decide) (by decide)).2
      -- the way to the number is the one that led to its directory before
      have hroot := Store.locateFrom_keeps hextends.keeps (hextends _ _ (Store.holds_of_locate hlocate))
        (hentrance ▸ Store.locateFrom_entrance hlocate)
      refine ⟨directory, toString n, ⟨hroot, toString_names n, rfl, ?_⟩, hfree, rfl⟩
      rw [Store.find?_insert _ _ _ _ hkey, if_pos rfl]
  all_goals cases h

theorem makeScratch_error {fault : FileFault} (h : makeScratch workspace = (.error fault, start)) :
    start = workspace := by
  rw [makeScratch] at h
  split at h
  · dsimp only at h
    split at h
    · cases h
      rfl
    · cases h
  all_goals
    cases h
    rfl

theorem key_ne_nil_of_makeScratch (h : makeScratch workspace = (.ok scratch, start)) : scratch.key ≠ [] := by
  obtain ⟨directory, number, hlies, -⟩ := makeScratch_ok h
  rw [hlies.eq]
  simp

/-- Nothing is in a scratch directory at first. -/
theorem find?_of_makeScratch (h : makeScratch workspace = (.ok scratch, start)) (name : String) :
    start.files.find? (scratch.key ++ [name]) = none := by
  have hkey := key_ne_nil_of_makeScratch h
  obtain ⟨-, -, -, hfree, hfiles⟩ := makeScratch_ok h
  rw [hfiles, Store.find?_insert _ _ _ _ hkey, if_neg (by simp),
    Store.find?_of_isFree hfree hkey (List.prefix_append _ _)]

/-- Without a scratch directory the tree is what it was. -/
theorem remove_of_makeScratch (h : makeScratch workspace = (.ok scratch, start)) :
    start.files.remove scratch.key = workspace.files := by
  obtain ⟨-, -, -, hfree, hfiles⟩ := makeScratch_ok h
  rw [hfiles, Store.remove_insert List.prefix_rfl, Store.remove_of_isFree hfree]

/-- No path into a scratch directory leads to a file at first. -/
theorem read_of_makeScratch (h : makeScratch workspace = (.ok scratch, start)) (hname : IsName name)
    (content : ByteArray) : start.files.read (scratch.path.join ⟨name⟩) ≠ .ok content := by
  obtain ⟨directory, number, hlies, -⟩ := makeScratch_ok h
  have hnothing := find?_of_makeScratch h name
  intro hread
  rw [Store.read] at hread
  split at hread
  · rename_i found hlocate
    rcases hlies.key_of_locate hname (by simp [hnothing]) hlocate with habsent | ⟨entry, hfound⟩
    · cases habsent
    · cases hfound
      exact absurd (Store.holds_of_locate hlocate) (by simp [Store.Holds, hnothing])
  all_goals cases hread

/-- A scratch directory is made if there is a directory for it that is not sealed. -/
theorem makeScratch_eq {directory : Key}
    (hlocate : workspace.files.locate true Run.scratchRoot.path = .ok (.found directory .directory))
    (hopen : directory ∉ workspace.files.sealed) :
    ∃ number, number = toString (workspace.files.freeNumber directory (workspace.scratches % Run.scratchCycle)) ∧
      makeScratch workspace = (.ok ⟨directory ++ [number], Key.path (Run.scratchRoot ++ [number])⟩,
        { workspace with
          files := workspace.files.insert (directory ++ [number]) .directory
          scratches := workspace.files.freeNumber directory (workspace.scratches % Run.scratchCycle) + 1 }) := by
  refine ⟨_, rfl, ?_⟩
  rw [makeScratch, hlocate]
  simp [Store.isSealed, hopen]

/-! ## Errands with a scratch directory -/

variable {α β : Type} (workspace)

theorem pure_apply (a : α) : (pure a : Errand α) workspace = (a, workspace) := rfl

theorem bind_apply (step : Errand α) (next : α → Errand β) :
    (step >>= next) workspace = next (step workspace).1 (step workspace).2 := rfl

theorem files_apply : files workspace = (workspace.files, workspace) := rfl

/-- Where an errand with a scratch directory is refused, nothing happens. Otherwise the directory is gone in the end. -/
theorem files_withScratch (refuse : FileFault → α) (step : Path → Errand α) :
    (withScratch refuse step workspace).2.files =
      match makeScratch workspace with
      | (.error _, _) => workspace.files
      | (.ok scratch, start) => (step scratch.path start).2.files.remove scratch.key := by
  rw [withScratch, bind_apply]
  rcases hmade : makeScratch workspace with ⟨fault | scratch, start⟩
  · exact congrArg Workspace.files (makeScratch_error hmade)
  · rfl

theorem withScratch_fst (refuse : FileFault → α) (step : Path → Errand α) :
    (withScratch refuse step workspace).1 =
      match makeScratch workspace with
      | (.error fault, _) => refuse fault
      | (.ok scratch, start) => (step scratch.path start).1 := by
  rw [withScratch, bind_apply]
  rcases makeScratch workspace with ⟨fault | scratch, start⟩
  · rfl
  · rfl

end Errand

end GoldenBench
