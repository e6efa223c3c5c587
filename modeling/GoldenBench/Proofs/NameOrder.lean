import GoldenBench.Proofs.Extensions
import GoldenBench.Proofs.Identity

/-!
# Names and the order in which fixtures are found

A walk compares the names of directories and files one by one, files with their extensions, so it sees the end of a
name where the name of a fixture has a slash or ends (`Path.walked`). Names of fixtures come in another order where
that makes a difference (`Path.Overtakes`).

* `Path.overtakes_iff`: when a name that comes later is found first.
* `Path.walked_lt`: the order of a walk in one comparison of texts.
* `Snapshot.discover_ordered_iff`: fixtures come in the order of their names unless one of them overtakes another.
-/

namespace GoldenBench

open GoldenBench.Path (named ofPieces)

namespace Path

/-! ## Texts in the order of a walk -/

/-- A character of a path as a walk compares it: where there is a slash a name ends, and that comes before any
character that a longer name goes on with. -/
def walkedChar (c : Char) : Char :=
  if c = '/' then '\x00' else c

/-- The characters of a path as a walk compares them. -/
def walked (text : List Char) : List Char :=
  text.map walkedChar

/-- A name comes after another one, but with what is behind them, a walk comes to it first. -/
inductive Overtakes (name ending name' ending' : List Char) : Prop where
  /-- A directory is left for names that go on behind its own with a character before the slash. -/
  | leaves (before below more : List Char) (c : Char) (hname : name = before ++ '/' :: below)
    (hname' : name' = before ++ c :: more) (hc : c < '/')
  /-- The name goes on where the other one ends, and a walk comes to that before the ending of the other. -/
  | continues (more : List Char) (hmore : more ≠ []) (hname : name = name' ++ more)
    (hlt : walked (more ++ ending) < walked ending')

variable {name ending name' ending' : List Char} {c c' : Char}

theorem walked_append (text more : List Char) : walked (text ++ more) = walked text ++ walked more :=
  List.map_append

theorem not_lt_zero (c : Char) : ¬ c < '\x00' := Nat.not_lt_zero _

theorem walkedChar_slash_lt (hc : c ≠ '/') (hzero : c ≠ '\x00') : walkedChar '/' < walkedChar c := by
  rw [walkedChar, walkedChar, if_pos rfl, if_neg hc]
  exact lt_of_le_of_ne (not_lt.mp (not_lt_zero c)) hzero.symm

/-- No character but the slash comes earlier in a walk than one that it is greater than. -/
theorem eq_slash_of_walkedChar_le (hlt : c' < c) (h : walkedChar c ≤ walkedChar c') : c = '/' := by
  by_contra hc
  rw [walkedChar, if_neg hc, walkedChar] at h
  split at h
  · exact not_lt_zero c' (lt_of_lt_of_le hlt h)
  · exact absurd hlt (not_lt.mpr h)

theorem Overtakes.cons_iff :
    Overtakes (c :: name) ending (c :: name') ending' ↔ Overtakes name ending name' ending' := by
  constructor
  · rintro (⟨before, below, more, d, hname, hname', hd⟩ | ⟨more, hmore, hname, hlt⟩)
    · cases before with
      | nil =>
        obtain ⟨rfl, -⟩ := List.cons_eq_cons.mp hname
        obtain ⟨rfl, -⟩ := List.cons_eq_cons.mp hname'
        exact absurd hd (lt_irrefl _)
      | cons first before =>
        exact .leaves before below more d (List.cons_eq_cons.mp hname).2 (List.cons_eq_cons.mp hname').2 hd
    · exact .continues more hmore (List.cons_eq_cons.mp hname).2 hlt
  · rintro (⟨before, below, more, d, rfl, rfl, hd⟩ | ⟨more, hmore, rfl, hlt⟩)
    · exact .leaves (c :: before) below more d rfl rfl hd
    · exact .continues more hmore rfl hlt

theorem Overtakes.of_cons_ne (h : Overtakes (c :: name) ending (c' :: name') ending') (hne : c ≠ c') :
    c = '/' ∧ c' < '/' := by
  rcases h with ⟨before, below, more, d, hname, hname', hd⟩ | ⟨more, hmore, hname, hlt⟩
  · cases before with
    | nil =>
      obtain ⟨rfl, -⟩ := List.cons_eq_cons.mp hname
      obtain ⟨rfl, -⟩ := List.cons_eq_cons.mp hname'
      exact ⟨rfl, hd⟩
    | cons first before =>
      exact absurd ((List.cons_eq_cons.mp hname).1.trans (List.cons_eq_cons.mp hname').1.symm) hne
  · exact absurd (List.cons_eq_cons.mp hname).1 hne

/-- A name overtakes another one just if it comes later and is found first. -/
theorem overtakes_iff (hzero : '\x00' ∉ name') :
    Overtakes name ending name' ending' ↔ walked (name ++ ending) < walked (name' ++ ending') ∧ name' < name := by
  induction name generalizing name' with
  | nil =>
    refine iff_of_false ?_ fun h => List.not_lt_nil _ h.2
    rintro (⟨before, below, more, d, hname, -⟩ | ⟨more, hmore, hname, -⟩)
    · simp at hname
    · simp [hmore] at hname
  | cons c name ih =>
    cases name' with
    | nil =>
      constructor
      · rintro (⟨before, below, more, d, -, hname', -⟩ | ⟨more, -, hname, hlt⟩)
        · simp at hname'
        · exact ⟨by rwa [hname], List.nil_lt_cons _ _⟩
      · rintro ⟨hlt, -⟩
        exact .continues (c :: name) (by simp) rfl hlt
    | cons c' name' =>
      obtain ⟨hc', htail⟩ := List.ne_and_not_mem_of_not_mem_cons hzero
      rw [List.cons_append, List.cons_append, walked, List.map_cons, walked, List.map_cons, List.cons_lt_cons_iff,
        List.cons_lt_cons_iff]
      by_cases hcc : c = c'
      · subst hcc
        simp only [lt_irrefl, false_or, true_and]
        exact Overtakes.cons_iff.trans (ih htail)
      · constructor
        · intro h
          obtain ⟨rfl, hlt⟩ := h.of_cons_ne hcc
          exact ⟨.inl (walkedChar_slash_lt hlt.ne hc'.symm), .inl hlt⟩
        · rintro ⟨hwalked, hlt⟩
          replace hlt := hlt.resolve_right fun heq => hcc heq.1.symm
          obtain rfl := eq_slash_of_walkedChar_le hlt (hwalked.elim le_of_lt fun heq => heq.1.le)
          exact .leaves [] name name' c' rfl rfl hlt

theorem not_overtakes_self : ¬ Overtakes name ending name ending' := by
  rintro (⟨before, below, more, c, hname, hname', hc⟩ | ⟨more, hmore, hname, -⟩)
  · obtain ⟨rfl, -⟩ := List.cons_eq_cons.mp (List.append_cancel_left (hname.symm.trans hname'))
    exact absurd hc (lt_irrefl _)
  · exact hmore (List.append_right_eq_self.mp hname.symm)

/-! ## Keys in the order of a walk -/

theorem walkedChar_of_ne (hc : c ≠ '/') : walkedChar c = c :=
  if_neg hc

/-- A name that comes first does so whatever stands behind the two, as long as the name ends there. -/
theorem walked_append_lt {first later behind more : List Char} (hfirst : '/' ∉ first) (hlater : '/' ∉ later)
    (hzero : '\x00' ∉ later) (hbehind : ∀ next ∈ behind.head?, next = '/') (h : first < later) :
    walked (first ++ behind) < walked (later ++ more) := by
  induction first generalizing later with
  | nil =>
    cases later with
    | nil => exact absurd h (lt_irrefl _)
    | cons d later =>
      obtain ⟨hslash, -⟩ := List.ne_and_not_mem_of_not_mem_cons hlater
      obtain ⟨hnull, -⟩ := List.ne_and_not_mem_of_not_mem_cons hzero
      cases behind with
      | nil => exact List.nil_lt_cons _ _
      | cons next behind =>
        obtain rfl := hbehind next rfl
        exact List.cons_lt_cons_iff.mpr (.inl (walkedChar_slash_lt hslash.symm hnull.symm))
  | cons c first ih =>
    cases later with
    | nil => exact absurd h (List.not_lt_nil _)
    | cons d later =>
      obtain ⟨hslash, hfirst⟩ := List.ne_and_not_mem_of_not_mem_cons hfirst
      obtain ⟨hslash', hlater⟩ := List.ne_and_not_mem_of_not_mem_cons hlater
      obtain ⟨-, hzero⟩ := List.ne_and_not_mem_of_not_mem_cons hzero
      refine List.cons_lt_cons_iff.mpr ?_
      rw [walkedChar_of_ne hslash.symm, walkedChar_of_ne hslash'.symm]
      exact (List.cons_lt_cons_iff.mp h).imp_right fun ⟨heq, hrest⟩ => ⟨heq, ih hfirst hlater hzero hrest⟩

/-- What follows a name in a path of names: nothing, or a slash and the other names. -/
theorem toList_intercalate_cons (name : String) (rest : Key) : ("/".intercalate (name :: rest)).toList =
    name.toList ++ if rest = [] then [] else '/' :: ("/".intercalate rest).toList := by
  by_cases hrest : rest = []
  · simp [hrest]
  · rw [if_neg hrest]
    simpa [ofPieces] using congrArg String.toList (text_ofPieces_cons name hrest)

/-- A walk comes to paths in the order of their names. -/
theorem walked_lt {key key' : Key} (hnames : ∀ name ∈ key, IsName name) (hnames' : ∀ name ∈ key', IsName name)
    (h : key < key') : walked ("/".intercalate key).toList < walked ("/".intercalate key').toList := by
  induction key generalizing key' with
  | nil =>
    obtain ⟨name, rest, rfl⟩ := List.exists_cons_of_ne_nil (fun hnil : key' = [] => List.not_lt_nil _ (hnil ▸ h))
    obtain ⟨c, more, hchars⟩ := List.exists_cons_of_ne_nil fun hnil : name.toList = [] =>
      (hnames' name (by simp)).1 (String.toList_inj.mp hnil)
    rw [toList_intercalate_cons, hchars]
    exact List.nil_lt_cons _ _
  | cons name rest ih =>
    cases key' with
    | nil => exact absurd h (List.not_lt_nil _)
    | cons name' rest' =>
      obtain ⟨-, -, -, hslash, -⟩ := hnames name (by simp)
      obtain ⟨-, -, -, hslash', hzero, -⟩ := hnames' name' (by simp)
      rw [toList_intercalate_cons, toList_intercalate_cons]
      rcases List.cons_lt_cons_iff.mp h with hlt | ⟨rfl, hrest⟩
      · refine walked_append_lt hslash hslash' hzero (fun next hnext => ?_) (String.lt_iff_toList_lt.mp hlt)
        split at hnext
        · cases hnext
        · exact (Option.some_inj.mp hnext).symm
      · have hne : rest' ≠ [] := fun hnil => List.not_lt_nil _ (hnil ▸ hrest)
        rw [walked_append, walked_append, if_neg hne]
        refine List.append_left_lt ?_
        split
        · exact List.nil_lt_cons _ _
        · refine List.cons_lt_cons_iff.mpr (.inr ⟨rfl, ih ?_ ?_ hrest⟩)
          · exact fun name hname => hnames name (List.mem_cons_of_mem _ hname)
          · exact fun name hname => hnames' name (List.mem_cons_of_mem _ hname)

/-! ## Names of stems -/

/-- How a stem is written in the name of a fixture: a single dot as two. -/
def shown (stem : List Char) : List Char :=
  if stem = ['.'] then ['.', '.'] else stem

/-- What a file name has behind the name that the fixture goes by. -/
def endingOf (stem : List Char) (extension : String) : List Char :=
  if stem = ['.'] then extension.toList else '.' :: extension.toList

theorem shown_append_endingOf (stem : List Char) (extension : String) :
    shown stem ++ endingOf stem extension = (named stem extension).toList := by
  rw [shown, endingOf, toList_named]
  split
  · rename_i hstem
    rw [hstem]
    rfl
  · rfl

theorem mem_named_of_mem_shown {c : Char} {stem : List Char} (h : c ∈ shown stem) (extension : String) :
    c ∈ (named stem extension).toList := by
  rw [← shown_append_endingOf]
  exact List.mem_append_left _ h

theorem shown_ne {stem : List Char} (hstem : stem ≠ []) :
    String.ofList (shown stem) ≠ "" ∧ String.ofList (shown stem) ≠ "." := by
  have hne : ∀ text : String, shown stem ≠ text.toList → String.ofList (shown stem) ≠ text :=
    fun text htext heq => htext (by rw [← heq, String.toList_ofList])
  refine ⟨hne "" ?_, hne "." ?_⟩ <;>
  · rw [shown]
    split
    · decide
    · assumption

theorem withExtension_dot {path : Path} {before : List String} {extension : String}
    (hpieces : path.pieces = before ++ [named ['.'] extension])
    (hname : named ['.'] extension ≠ "" ∧ named ['.'] extension ≠ "." ∧ named ['.'] extension ≠ "..")
    (hextension : '.' ∉ extension.toList) : path.withExtension "" = ofPieces (before ++ [".."]) := by
  obtain ⟨hempty, hpoint, hup⟩ := hname
  have hdots : String.ofList (['.'] ++ ['.']) = ".." := rfl
  have hpieces' : (ofPieces (before ++ [".."])).pieces = before ++ [".."] :=
    pieces_ofPieces_concat hpieces (by decide)
  rw [withExtension, extension?_of_pieces hpieces ⟨hempty, hpoint⟩ hup, splitName_named (by simp) hextension]
  simp only [Option.map_some, text_without_extension hpieces (toList_named ['.'] extension), hdots]
  rw [setExtension, splitFile?_of_pieces hpieces' (by decide), if_pos rfl]

end Path

theorem SourceFile.nameOf_shown {directory : Key} {stem : List Char} {extension : String}
    (hnames : ∀ name ∈ directory ++ [named stem extension], IsName name) (hstem : stem ≠ [])
    (hextension : '.' ∉ extension.toList) : nameOf (directory ++ [named stem extension]) =
      "/".intercalate (directory ++ [String.ofList (Path.shown stem)]) := by
  by_cases hdot : stem = ['.']
  · subst hdot
    obtain ⟨hempty, hpoint, hup, -⟩ := hnames (named ['.'] extension) (by simp)
    rw [nameOf, Path.withExtension_dot (pieces_relative (by simp) hnames) ⟨hempty, hpoint, hup⟩ hextension,
      Path.components_ofPieces (by simp)]
    · rfl
    · intro name hname
      rcases List.mem_append.mp hname with hname | hname
      · obtain ⟨hempty, hpoint, -, hslash, -⟩ := hnames name (List.mem_append_left _ hname)
        exact ⟨hempty, hpoint, hslash⟩
      · rw [List.mem_singleton.mp hname]
        decide
  · rw [nameOf_eq hnames hstem hdot hextension, Path.shown, if_neg hdot]

/-! ## Fixtures -/

namespace SnapshotCase

/-- What the file name of the source has behind the last piece of the name. -/
def ending (fixture : SnapshotCase) : List Char :=
  (fixture.source.components.getLastD "").toList.drop ((Path.mk fixture.name).components.getLastD "").length

/-- The name and what its file has behind it, as a walk compares them. -/
def walked (fixture : SnapshotCase) : List Char :=
  Path.walked (fixture.name.toList ++ fixture.ending)

/-- The name of a fixture comes after that of another one, but a walk finds the fixture first. -/
def Overtakes (fixture other : SnapshotCase) : Prop :=
  Path.Overtakes fixture.name.toList fixture.ending other.name.toList other.ending

end SnapshotCase

namespace Snapshot

variable {files : Store} {environment : Environment} {filter : Filter} {root : Path} {top below init : Key}
  {content : ByteArray} {extension : String} {stem : List Char} {fixture : SnapshotCase} {fixtures : List SnapshotCase}

/-- The directories that lead to the source of a fixture, and the stem that it is named by. -/
structure Lodged (root : Path) (extension : String) (fixture : SnapshotCase) (init : Key) (stem : List Char) :
    Prop where
  /-- Directories can hold all names on the way. -/
  names : ∀ name ∈ init ++ [named stem extension], IsName name
  /-- The stem is not empty. -/
  stem_ne : stem ≠ []
  /-- The source lies there. -/
  source : fixture.source.components = Path.leading root.entrance ++ (init ++ [named stem extension])
  /-- The fixture goes by the names of the directories and the stem. -/
  name : fixture.name = (ofPieces (init ++ [String.ofList (Path.shown stem)])).text

theorem name_caseOf (environment : Environment) (file : SourceFile) : (caseOf environment file).name = file.name :=
  rfl

/-- Where the fixture of a source below a directory of a plain tree is lodged. -/
theorem exists_lodged (environment : Environment) (hplain : files.IsPlain)
    (hroot : files.locate true root = .ok (.found top .directory))
    (hfile : (top ++ below, .file content) ∈ files.entries) (hbelow : below ≠ [])
    (hextension : (SourceFile.pathOf root below).extension? = some extension) :
    ∃ init stem, below = init ++ [named stem extension] ∧
      Lodged root extension (caseOf environment (.ofKey root below)) init stem := by
  have htext : root.text ≠ "" := (Path.fault?_eq_none.mp (Store.locate_eq_ok hroot).1).2.1
  have hnames : ∀ name ∈ below, IsName name := fun name hname =>
    hplain.names _ hfile name (List.mem_append_right _ hname)
  have hsource : (SourceFile.pathOf root below).components = Path.leading root.entrance ++ below :=
    Path.components_of_pieces (Store.pieces_pathOf htext hbelow hnames) hbelow fun name hname =>
      ⟨(hnames name hname).1, (hnames name hname).2.1⟩
  obtain ⟨directory, stem, hplace, hlies⟩ := hplain.lies_below hroot hbelow (hplain.find?_of_mem hfile) hextension
  obtain ⟨init, name, rfl⟩ := (List.eq_nil_or_concat' below).resolve_left hbelow
  rw [← List.append_assoc] at hplace
  obtain ⟨-, hlast⟩ := List.append_inj' hplace rfl
  obtain rfl := List.singleton_inj.mp hlast
  refine ⟨init, stem, rfl, hnames, hlies.stem_ne, hsource, ?_⟩
  rw [name_caseOf, SourceFile.name_ofKey, SourceFile.nameOf_shown hnames hlies.stem_ne hlies.no_dot]
  rfl

namespace Lodged

/-- The pieces of the name are the names of something. -/
theorem proper (h : Lodged root extension fixture init stem) :
    ∀ name ∈ init ++ [String.ofList (Path.shown stem)],
      name ≠ "" ∧ name ≠ "." ∧ '/' ∉ name.toList ∧ '\x00' ∉ name.toList := by
  intro name hname
  rcases List.mem_append.mp hname with hname | hname
  · obtain ⟨hempty, hpoint, -, hslash, hzero, -⟩ := h.names name (List.mem_append_left _ hname)
    exact ⟨hempty, hpoint, hslash, hzero⟩
  · obtain ⟨-, -, -, hslash, hzero, -⟩ := h.names (named stem extension) (by simp)
    rw [List.mem_singleton.mp hname, String.toList_ofList]
    exact ⟨(Path.shown_ne h.stem_ne).1, (Path.shown_ne h.stem_ne).2,
      fun hmem => hslash (Path.mem_named_of_mem_shown hmem extension),
      fun hmem => hzero (Path.mem_named_of_mem_shown hmem extension)⟩

theorem ending_eq (h : Lodged root extension fixture init stem) : fixture.ending = Path.endingOf stem extension := by
  have hcomponents : (ofPieces (init ++ [String.ofList (Path.shown stem)])).components =
      init ++ [String.ofList (Path.shown stem)] :=
    Path.components_ofPieces (by simp) fun name hname =>
      ⟨(h.proper name hname).1, (h.proper name hname).2.1, (h.proper name hname).2.2.1⟩
  rw [SnapshotCase.ending, h.name, h.source, hcomponents, ← List.append_assoc]
  simp [← Path.shown_append_endingOf]

/-- The name and its ending are the path of the source from the directory of fixtures. -/
theorem walked_eq (h : Lodged root extension fixture init stem) :
    fixture.walked = Path.walked ("/".intercalate (init ++ [named stem extension])).toList := by
  obtain ⟨start, hstart⟩ := Path.exists_text_ofPieces init
  rw [SnapshotCase.walked, h.ending_eq, h.name, hstart, String.toList_ofList, List.append_assoc,
    Path.shown_append_endingOf, ← hstart]
  rfl

theorem zero_not_mem (h : Lodged root extension fixture init stem) : '\x00' ∉ fixture.name.toList := by
  rw [h.name, Path.mem_text_iff (by decide),
    Path.pieces_ofPieces (by simp) fun name hname => (h.proper name hname).2.2.1]
  rintro ⟨name, hname, hmem⟩
  exact (h.proper name hname).2.2.2 hmem

end Lodged

/-- The fixtures of a plain tree come in the order of a walk. -/
theorem pairwise_walked (hplain : files.IsPlain) (environment : Environment) (filter : Filter) :
    (casesIn environment filter files).Pairwise fun fixture other => fixture.walked < other.walked ∧
      '\x00' ∉ fixture.name.toList ∧ '\x00' ∉ other.name.toList := by
  refine List.Pairwise.filter _ (List.pairwise_map.mpr (hplain.ordered.pairwise_sources _ _ ?_))
  intro top below below' content content' hroot hfile hfile' hbelow hbelow' hextension hextension' hlt
  obtain ⟨init, stem, rfl, hlodged⟩ := exists_lodged environment hplain hroot hfile hbelow hextension
  obtain ⟨init', stem', rfl, hlodged'⟩ := exists_lodged environment hplain hroot hfile' hbelow' hextension'
  rw [hlodged.walked_eq, hlodged'.walked_eq]
  exact ⟨Path.walked_lt hlodged.names hlodged'.names hlt, hlodged.zero_not_mem, hlodged'.zero_not_mem⟩

theorem casesIn_of_discover {world : World} (hdiscover : (discover environment filter world).1 = .ok fixtures) :
    fixtures = casesIn environment filter world.files := by
  cases hextension : Path.isBadExtension environment.goldenExtension with
  | true =>
    obtain ⟨hnone, rfl⟩ := casesIn_of_discovers hextension hdiscover
    exact hnone.symm
  | false =>
    rw [discover_apply environment filter hextension] at hdiscover
    cases hdiscover
    rfl

/-- Snapshot fixtures come in the order in which a walk comes to their sources. That is the order of their names, byte
by byte, just if no fixture overtakes another one. -/
theorem discover_ordered_iff {world : World} (hplain : world.files.IsPlain)
    (hdiscover : (discover environment filter world).1 = .ok fixtures) :
    (fixtures.Pairwise fun fixture other => fixture.walked < other.walked) ∧
    ((fixtures.Pairwise fun fixture other => Text.bytes fixture.name ≤ Text.bytes other.name) ↔
      ∀ fixture ∈ fixtures, ∀ other ∈ fixtures, ¬ fixture.Overtakes other) := by
  have hpairs := pairwise_walked hplain environment filter
  rw [← casesIn_of_discover hdiscover] at hpairs
  have hnames : ∀ fixture other : SnapshotCase, Text.bytes fixture.name ≤ Text.bytes other.name ↔
      ¬ other.name.toList < fixture.name.toList := fun fixture other => by
    rw [Text.bytes_le_bytes_iff, ← not_lt, String.lt_iff_toList_lt]
  simp only [hnames]
  refine ⟨hpairs.imp fun h => h.1, fun hsorted => ?_, fun hnone => ?_⟩
  · have hboth : fixtures.Pairwise fun fixture other => ¬ fixture.Overtakes other ∧ ¬ other.Overtakes fixture := by
      refine (hpairs.and hsorted).imp fun {fixture other} ⟨⟨hlt, hzero, hzero'⟩, hname⟩ => ⟨?_, ?_⟩
      · exact fun h => hname ((Path.overtakes_iff hzero').mp h).2
      · exact fun h => lt_asymm hlt ((Path.overtakes_iff hzero).mp h).1
    have hsymm : Std.Symm fun fixture other : SnapshotCase =>
        ¬ fixture.Overtakes other ∧ ¬ other.Overtakes fixture := ⟨fun _ _ h => ⟨h.2, h.1⟩⟩
    intro fixture hfixture other hother
    exact (hboth.forall_of_forall (fun fixture _ => ⟨Path.not_overtakes_self, Path.not_overtakes_self⟩)
      hfixture hother).1
  · refine hpairs.imp_of_mem ?_
    rintro fixture other hfixture hother ⟨hlt, -, hzero⟩ hname
    exact hnone fixture hfixture other hother ((Path.overtakes_iff hzero).mpr ⟨hlt, hname⟩)

/-! ## A tree out of order -/

/-- A tree in which a walk comes to the fixtures in the reverse order of their names. -/
def crossed : Store :=
  ⟨[(["a"], .directory), (["a", "b.ts"], .file "".toUTF8), (["a-b.ts"], .file "".toUTF8),
    (["a.ts"], .file "".toUTF8)], []⟩

/-- The fixtures of that tree. -/
def crossedCases : List SnapshotCase :=
  [⟨"a/b", ⟨"/a/b.ts"⟩, ⟨"/a/b.wat"⟩⟩, ⟨"a-b", ⟨"/a-b.ts"⟩, ⟨"/a-b.wat"⟩⟩, ⟨"a", ⟨"/a.ts"⟩, ⟨"/a.wat"⟩⟩]

theorem isPlain_crossed : crossed.IsPlain where
  ordered := by
    rw [Store.Ordered, crossed]
    decide
  names := by
    simp only [crossed, List.forall_mem_cons, List.not_mem_nil, false_implies, implies_true, and_true]
    decide
  parents := by simp [crossed, Store.find?, Store.lookup]
  no_links := by simp [crossed, Entry.isLink]

theorem discover_crossed : (discover rootEnvironment .all (.start crossed [])).1 = .ok crossedCases := by
  rw [discover_apply _ _ setsApart_rootEnvironment.isBadExtension]
  have hcases : casesIn rootEnvironment .all crossed = crossedCases := by
    rw [casesIn, rootEnvironment, Store.sources_of_directory (locate_root _)]
    simp only [crossed, List.filterMap_cons, Store.sourceAt?, List.filterMap_nil]
    decide
  exact congrArg Except.ok hcases

/-- One fixture is left for one that goes on with a dash instead of a slash, and that one goes on where the third
ends. -/
theorem discover_ordered_iff_crossed :
    crossed.IsPlain ∧ (discover rootEnvironment .all (.start crossed [])).1 = .ok crossedCases ∧
      (crossedCases.Pairwise fun fixture other => fixture.walked < other.walked) ∧
      ¬ crossedCases.Pairwise fun fixture other => Text.bytes fixture.name ≤ Text.bytes other.name := by
  obtain ⟨hwalked, hordered⟩ := discover_ordered_iff isPlain_crossed discover_crossed
  refine ⟨isPlain_crossed, discover_crossed, hwalked, fun hsorted => ?_⟩
  refine hordered.mp hsorted ⟨"a/b", ⟨"/a/b.ts"⟩, ⟨"/a/b.wat"⟩⟩ (by decide)
    ⟨"a-b", ⟨"/a-b.ts"⟩, ⟨"/a-b.wat"⟩⟩ (by decide) ?_
  exact .leaves ['a'] ['b'] ['b'] '-' (by decide) (by decide) (by decide)

/-- The fixtures of a plain tree do not always come in the order of their names. -/
theorem not_in_name_order :
    crossed.IsPlain ∧ ∃ fixtures, (discover rootEnvironment .all (.start crossed [])).1 = .ok fixtures ∧
      ¬ fixtures.Pairwise fun fixture other => Text.bytes fixture.name ≤ Text.bytes other.name := by
  refine ⟨isPlain_crossed, crossedCases, discover_crossed, ?_⟩
  simp only [Text.bytes_le_bytes_iff]
  decide

end Snapshot

end GoldenBench
