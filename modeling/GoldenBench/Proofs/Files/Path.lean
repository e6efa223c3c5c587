import GoldenBench.Files.Path
import Mathlib.Tactic.Common

/-!
# Paths by their pieces

A path is its pieces with slashes between them (`Path.ofPieces_pieces`), and pieces without a slash are those of the
path that they make (`Path.pieces_ofPieces`).

* `Path.pieces_withExtension`: another extension changes the last piece and nothing else.
* `Path.extension?_of_pieces`: the extension is that of the last piece.
* `Path.pieces_join`: names seen from a directory come after the pieces that lead into it.
-/

namespace GoldenBench.Path

variable {path : Path} {before : List String} {name : String} {stem old : List Char}

/-! ## Pieces -/

/-- The path with these pieces. -/
def ofPieces (pieces : List String) : Path :=
  ⟨"/".intercalate pieces⟩

theorem piecesFrom_eq_splitOnPPrepend (held text : List Char) :
    piecesFrom held text = List.splitOnPPrepend (· == '/') text held := by
  induction text generalizing held with
  | nil => rfl
  | cons c rest ih =>
    rw [piecesFrom, List.splitOnPPrepend, ih, ih]
    simp only [beq_iff_eq]

theorem pieces_eq_splitOn (path : Path) : path.pieces = (path.text.toList.splitOn '/').map String.ofList :=
  congrArg _ (piecesFrom_eq_splitOnPPrepend [] path.text.toList)

/-- A path is its pieces with slashes between them. -/
theorem ofPieces_pieces (path : Path) : ofPieces path.pieces = path := by
  have htext : "/".intercalate path.pieces = path.text := by
    have hids : String.toList ∘ String.ofList = id := funext fun _ => String.toList_ofList
    apply String.toList_inj.mp
    rw [String.toList_intercalate, pieces_eq_splitOn, List.map_map, hids, List.map_id]
    exact List.intercalate_splitOn '/'
  exact congrArg mk htext

/-- Pieces without a slash are those of the path that they make. -/
theorem pieces_ofPieces {pieces : List String} (hpieces : pieces ≠ []) (hslash : ∀ piece ∈ pieces, '/' ∉ piece.toList) :
    (ofPieces pieces).pieces = pieces := by
  have hids : String.ofList ∘ String.toList = id := funext fun _ => String.ofList_toList
  have htext : (ofPieces pieces).text.toList = ['/'].intercalate (pieces.map String.toList) :=
    String.toList_intercalate
  rw [pieces_eq_splitOn, htext, List.splitOn_intercalate '/' (by simpa using hslash) (by simpa using hpieces),
    List.map_map, hids, List.map_id]

theorem pieces_ne_nil (path : Path) : path.pieces ≠ [] := by
  rw [pieces_eq_splitOn]
  simp

theorem slash_not_mem_piecesFrom {held text : List Char} (hheld : '/' ∉ held) :
    ∀ piece ∈ piecesFrom held text, '/' ∉ piece := by
  induction text generalizing held with
  | nil =>
    intro piece hpiece
    rwa [List.mem_singleton.mp hpiece, List.mem_reverse]
  | cons c rest ih =>
    intro piece hpiece
    rw [piecesFrom] at hpiece
    split at hpiece
    · rcases List.mem_cons.mp hpiece with rfl | hpiece
      · rwa [List.mem_reverse]
      · exact ih (by simp) piece hpiece
    · rename_i hc
      exact ih (by simp [hheld, Ne.symm hc]) piece hpiece

/-- No piece has a slash in it. -/
theorem slash_not_mem_pieces (path : Path) : ∀ piece ∈ path.pieces, '/' ∉ piece.toList := by
  intro piece hpiece
  obtain ⟨chars, hchars, rfl⟩ := List.mem_map.mp hpiece
  rw [String.toList_ofList]
  exact slash_not_mem_piecesFrom (by simp) chars hchars

/-- The pieces of a path with another last piece. -/
theorem pieces_ofPieces_concat (hpieces : path.pieces = before ++ [name]) {other : String}
    (hslash : '/' ∉ other.toList) : (ofPieces (before ++ [other])).pieces = before ++ [other] := by
  refine pieces_ofPieces (by simp) fun piece hpiece => ?_
  rcases List.mem_append.mp hpiece with hpiece | hpiece
  · exact slash_not_mem_pieces path piece (by simp [hpieces, hpiece])
  · rwa [List.mem_singleton.mp hpiece]

/-! ## The root -/

theorem text_ofPieces_cons (piece : String) {rest : List String} (hrest : rest ≠ []) :
    (ofPieces (piece :: rest)).text = piece ++ "/" ++ (ofPieces rest).text := by
  obtain ⟨next, more, rfl⟩ := List.exists_cons_of_ne_nil hrest
  apply String.toList_inj.mp
  simp only [ofPieces, String.toList_append, String.toList_intercalate, List.map_cons]
  rw [List.intercalate_cons_cons]

theorem ofBody_eq_ofPieces (absolute : Bool) {body : List String} (hbody : body ≠ []) :
    ofBody absolute body = ofPieces (if absolute then "" :: body else body) := by
  have htext : ((if absolute then "/" else "") ++ "/".intercalate body : String) =
      (ofPieces (if absolute then "" :: body else body)).text := by
    cases absolute with
    | false => simp [ofPieces]
    | true =>
      rw [if_pos rfl, if_pos rfl, text_ofPieces_cons "" hbody]
      simp [ofPieces]
  exact congrArg mk htext

/-- A path starts at the root just if its first piece is empty and not its last. -/
theorem isAbsolute_iff (hpieces : path.pieces = before ++ [name]) :
    path.isAbsolute = true ↔ ∃ rest, before = "" :: rest := by
  have hslash := slash_not_mem_pieces path
  rw [← ofPieces_pieces path, hpieces]
  rw [hpieces] at hslash
  cases before with
  | nil =>
    have hhead : '/' ∉ name.toList := hslash name (by simp)
    simp only [isAbsolute, ofPieces, List.nil_append, String.intercalate_singleton]
    cases hchars : name.toList with
    | nil => simp
    | cons c rest =>
      rw [hchars] at hhead
      simp [Ne.symm (List.ne_of_not_mem_cons hhead)]
  | cons first rest =>
    have hhead : '/' ∉ first.toList := hslash first (by simp)
    rw [isAbsolute, List.cons_append, text_ofPieces_cons first (by simp), String.toList_append, String.toList_append]
    cases hchars : first.toList with
    | nil =>
      have hfirst : first = "" := by
        apply String.toList_inj.mp
        rw [hchars]
        rfl
      subst hfirst
      simp
    | cons c more =>
      rw [hchars] at hhead
      have hfirst : first ≠ "" := by
        rintro rfl
        cases hchars
      simp [Ne.symm (List.ne_of_not_mem_cons hhead), hfirst]

theorem body_of_pieces (hpieces : path.pieces = before ++ [name]) :
    path.body = (if path.isAbsolute then before.drop 1 else before) ++ [name] := by
  rw [body, hpieces]
  by_cases habsolute : path.isAbsolute = true
  · obtain ⟨rest, rfl⟩ := (isAbsolute_iff hpieces).mp habsolute
    rw [if_pos habsolute, if_pos habsolute]
    rfl
  · rw [if_neg habsolute, if_neg habsolute]

theorem ofBody_of_pieces (hpieces : path.pieces = before ++ [name]) (other : String) :
    ofBody path.isAbsolute ((if path.isAbsolute then before.drop 1 else before) ++ [other]) =
      ofPieces (before ++ [other]) := by
  rw [ofBody_eq_ofPieces _ (by simp)]
  by_cases habsolute : path.isAbsolute = true
  · obtain ⟨rest, rfl⟩ := (isAbsolute_iff hpieces).mp habsolute
    rw [if_pos habsolute, if_pos habsolute]
    rfl
  · rw [if_neg habsolute, if_neg habsolute]

/-! ## File names -/

theorem trimBody_concat (absolute : Bool) (body : List String) (hname : name ≠ "" ∧ name ≠ ".") :
    trimBody absolute (body ++ [name]) = body ++ [name] := by
  rw [trimBody, List.reverse_append, List.reverse_singleton, List.singleton_append, trimReversed, if_neg hname.1,
    if_neg hname.2, List.reverse_cons, List.reverse_reverse]

theorem splitFile?_of_pieces (hpieces : path.pieces = before ++ [name]) (hname : name ≠ "" ∧ name ≠ ".") :
    path.splitFile? =
      if name = ".." then none else some (if path.isAbsolute then before.drop 1 else before, name.toList) := by
  rw [splitFile?, body_of_pieces hpieces]
  simp [trimBody_concat _ _ hname, hname.2]

/-- The extension is that of the last piece. -/
theorem extension?_of_pieces (hpieces : path.pieces = before ++ [name]) (hname : name ≠ "" ∧ name ≠ ".")
    (hup : name ≠ "..") : path.extension? = (splitName name.toList).2.map String.ofList := by
  rw [extension?, splitFile?_of_pieces hpieces hname, if_neg hup]

theorem setExtension_of_pieces (hpieces : path.pieces = before ++ [name]) (hname : name ≠ "" ∧ name ≠ ".")
    (hup : name ≠ "..") {extension : String} (hextension : extension ≠ "") :
    path.setExtension extension =
      ofPieces (before ++ [String.ofList (splitName name.toList).1 ++ "." ++ extension]) := by
  rw [setExtension, splitFile?_of_pieces hpieces hname, if_neg hup]
  simp only [String.isEmpty_iff, hextension, ↓reduceIte, ofBody_of_pieces hpieces]

/-- A name is cut at its last dot, if something stands before it. -/
theorem splitName_append (hold : '.' ∉ old) :
    splitName (stem ++ '.' :: old) = if stem = [] then (stem ++ '.' :: old, none) else (stem, some old) := by
  have hextension : ((stem ++ '.' :: old).reverse.takeWhile (· ≠ '.')).reverse = old := by
    have hall : ∀ c ∈ old.reverse, (decide (c ≠ '.')) = true := fun c hc =>
      decide_eq_true fun h => hold (List.mem_reverse.mp (h ▸ hc))
    rw [List.reverse_append, List.reverse_cons, List.append_assoc, List.takeWhile_append_of_pos hall]
    simp
  have hlength : (stem ++ '.' :: old).length - old.length - 1 = stem.length := by
    simp only [List.length_append, List.length_cons]
    omega
  have hshort : old.length ≠ (stem ++ '.' :: old).length := by
    simp only [List.length_append, List.length_cons]
    omega
  rw [splitName]
  simp only [hextension, hlength, List.take_left, hshort]
  simp

theorem splitName_of_not_mem {file : List Char} (h : '.' ∉ file) : splitName file = (file, none) := by
  have hextension : (file.reverse.takeWhile (· ≠ '.')).reverse = file := by
    have hall : ∀ c ∈ file.reverse, (decide (c ≠ '.')) = true := fun c hc =>
      decide_eq_true fun hdot => h (List.mem_reverse.mp (hdot ▸ hc))
    rw [← List.append_nil file.reverse, List.takeWhile_append_of_pos hall]
    simp
  rw [splitName]
  simp only [hextension]
  simp

/-- A name with an extension is a stem, a dot and the extension. -/
theorem eq_append_of_splitName {file : List Char} (h : splitName file = (stem, some old)) :
    file = stem ++ '.' :: old ∧ stem ≠ [] ∧ '.' ∉ old := by
  by_cases hdot : '.' ∈ file
  · obtain ⟨later, earlier, hreverse, hlater⟩ := List.eq_append_cons_of_mem (List.mem_reverse.mpr hdot)
    have hfile : file = earlier.reverse ++ '.' :: later.reverse := by
      rw [← file.reverse_reverse, hreverse]
      simp
    rw [hfile, splitName_append (by simpa using hlater)] at h
    split at h
    · cases h
    · rename_i hstem
      cases h
      exact ⟨hfile, hstem, by simpa using hlater⟩
  · rw [splitName_of_not_mem hdot] at h
    cases h

/-! ## Other extensions -/

/-- A stem and an extension as the name of a file. -/
def named (stem : List Char) (extension : String) : String :=
  String.ofList stem ++ "." ++ extension

/-- The name of a file once it has another extension. A stem that is a single dot leaves no name at all. -/
def renamed (stem : List Char) (extension : String) : String :=
  if stem = ['.'] then ".." else named stem extension

theorem renamed_of_ne {extension : String} (h : renamed stem extension ≠ "..") :
    renamed stem extension = named stem extension :=
  if_neg fun hdot => h (if_pos hdot)

theorem toList_named (stem : List Char) (extension : String) :
    (named stem extension).toList = stem ++ '.' :: extension.toList := by
  simp [named]

theorem splitName_named {extension : String} (hstem : stem ≠ []) (hdot : '.' ∉ extension.toList) :
    splitName (named stem extension).toList = (stem, some extension.toList) := by
  rw [toList_named, splitName_append hdot, if_neg hstem]

theorem named_injective {other : List Char} {extension : String} (h : named stem extension = named other extension) :
    stem = other := by
  have hchars := congrArg String.toList h
  rw [toList_named, toList_named] at hchars
  exact List.append_cancel_right hchars

/-- The last piece of a path with an extension is a stem with the extension. -/
theorem exists_named (hpieces : path.pieces = before ++ [name]) (hname : name ≠ "" ∧ name ≠ ".") (hup : name ≠ "..")
    {extension : String} (h : path.extension? = some extension) :
    ∃ stem, name = named stem extension ∧ stem ≠ [] ∧ '.' ∉ extension.toList := by
  rw [extension?_of_pieces hpieces hname hup, Option.map_eq_some_iff] at h
  obtain ⟨old, hold, rfl⟩ := h
  have hsplit : splitName name.toList = ((splitName name.toList).1, some old) := Prod.ext rfl hold
  obtain ⟨hchars, hstem, hdot⟩ := eq_append_of_splitName hsplit
  refine ⟨(splitName name.toList).1, String.toList_inj.mp ?_, hstem, by simpa using hdot⟩
  rw [toList_named, String.toList_ofList]
  exact hchars

/-- A name with an extension is neither of the two that lead elsewhere. -/
theorem named_ne {extension : String} (hstem : stem ≠ []) (hextension : extension ≠ "") :
    named stem extension ≠ "" ∧ named stem extension ≠ "." ∧ named stem extension ≠ ".." := by
  have hlength : 3 ≤ (named stem extension).toList.length := by
    have hstem := List.length_pos_iff.mpr hstem
    have hextension : extension.toList ≠ [] := fun h => hextension (String.toList_inj.mp h)
    have hextension := List.length_pos_iff.mpr hextension
    rw [toList_named, List.length_append, List.length_cons]
    omega
  refine ⟨?_, ?_, ?_⟩ <;>
  · intro h
    rw [h] at hlength
    revert hlength
    decide

theorem exists_text_ofPieces (before : List String) :
    ∃ start : List Char, ∀ other : String,
      (ofPieces (before ++ [other])).text.toList = start ++ other.toList := by
  induction before with
  | nil => exact ⟨[], fun other => by simp [ofPieces]⟩
  | cons first rest ih =>
    obtain ⟨start, hstart⟩ := ih
    refine ⟨first.toList ++ '/' :: start, fun other => ?_⟩
    rw [List.cons_append, text_ofPieces_cons first (by simp), String.toList_append, hstart]
    simp

theorem mem_text_of_mem_name (hpieces : path.pieces = before ++ [name]) {c : Char} (h : c ∈ name.toList) :
    c ∈ path.text.toList := by
  obtain ⟨start, hstart⟩ := exists_text_ofPieces before
  rw [← ofPieces_pieces path, hpieces, hstart]
  exact List.mem_append_right _ h

/-- Without its extension, a path ends in the stem and the dot. -/
theorem text_without_extension (hpieces : path.pieces = before ++ [name]) (hchars : name.toList = stem ++ '.' :: old) :
    String.ofList (path.text.toList.take (path.text.length - (String.ofList old).length)) =
      (ofPieces (before ++ [String.ofList (stem ++ ['.'])])).text := by
  obtain ⟨start, hstart⟩ := exists_text_ofPieces before
  have htext : path.text.toList = (start ++ (stem ++ ['.'])) ++ old := by
    rw [← ofPieces_pieces path, hpieces, hstart, hchars]
    simp
  apply String.toList_inj.mp
  rw [hstart, String.toList_ofList, ← String.length_toList, htext, String.length_ofList, String.toList_ofList,
    List.length_append, Nat.add_sub_cancel, List.take_left]

/-- What is left of a name without its extension leads nowhere else, unless the stem is a dot. -/
theorem stem_dot_ne (hstem : stem ≠ []) (hdot : stem ≠ ['.']) : String.ofList (stem ++ ['.']) ≠ "" ∧
    String.ofList (stem ++ ['.']) ≠ "." ∧ String.ofList (stem ++ ['.']) ≠ ".." := by
  have hne : ∀ text : String, stem ++ ['.'] ≠ text.toList → String.ofList (stem ++ ['.']) ≠ text :=
    fun text htext heq => htext (by rw [← heq, String.toList_ofList])
  refine ⟨hne "" (by simp), hne "." (by simpa using hstem), hne ".." fun heq => hdot ?_⟩
  exact List.append_cancel_right (heq : stem ++ ['.'] = ['.'] ++ ['.'])

/-- What is left of a name without its extension takes another one. -/
theorem pieces_setExtension {extension : String}
    (hpieces : path.pieces = before ++ [String.ofList (stem ++ ['.'])]) (hstem : stem ≠ [])
    (hextension : extension ≠ "") (hslash : '/' ∉ extension.toList) :
    (path.setExtension extension).pieces = before ++ [renamed stem extension] := by
  by_cases hdot : stem = ['.']
  · subst hdot
    have hnone : path.splitFile? = none := by
      have hdots : String.ofList (['.'] ++ ['.']) = ".." := rfl
      rw [hdots] at hpieces
      rw [splitFile?_of_pieces hpieces (by decide), if_pos rfl]
    rw [setExtension, hnone, renamed, if_pos rfl]
    exact hpieces
  · obtain ⟨hempty, hpoint, hup⟩ := stem_dot_ne hstem hdot
    have hname : (splitName (String.ofList (stem ++ ['.'])).toList).1 = stem := by
      rw [String.toList_ofList, splitName_append (by simp), if_neg hstem]
    have hstemSlash := slash_not_mem_pieces path (String.ofList (stem ++ ['.'])) (by simp [hpieces])
    rw [setExtension_of_pieces hpieces ⟨hempty, hpoint⟩ hup hextension, hname, renamed, if_neg hdot]
    refine pieces_ofPieces_concat hpieces ?_
    simpa [hslash] using hstemSlash

/-- Another extension changes the last piece and nothing else. -/
theorem pieces_withExtension (hpieces : path.pieces = before ++ [name]) (hname : name ≠ "" ∧ name ≠ ".")
    (hup : name ≠ "..") (hsplit : splitName name.toList = (stem, some old)) {extension : String}
    (hextension : extension ≠ "") (hslash : '/' ∉ extension.toList) :
    (path.withExtension extension).pieces = before ++ [renamed stem extension] := by
  obtain ⟨hchars, hstem, hold⟩ := eq_append_of_splitName hsplit
  have hstemSlash : '/' ∉ (String.ofList (stem ++ ['.'])).toList := by
    have hnameSlash := slash_not_mem_pieces path name (by simp [hpieces])
    rw [hchars] at hnameSlash
    simpa using fun h => hnameSlash (List.mem_append_left _ h)
  rw [withExtension, extension?_of_pieces hpieces hname hup, hsplit]
  simp only [Option.map_some, text_without_extension hpieces hchars]
  exact pieces_setExtension (pieces_ofPieces_concat hpieces hstemSlash) hstem hextension hslash

/-! ## Paths seen from a directory -/

theorem text_ofPieces_append {before after : List String} (hbefore : before ≠ []) (hafter : after ≠ []) :
    (ofPieces (before ++ after)).text = (ofPieces before).text ++ "/" ++ (ofPieces after).text := by
  induction before with
  | nil => exact absurd rfl hbefore
  | cons first rest ih =>
    rw [List.cons_append, text_ofPieces_cons first (by simp [hafter])]
    by_cases hrest : rest = []
    · subst hrest
      simp [ofPieces]
    · rw [ih hrest, text_ofPieces_cons first hrest]
      simp only [String.append_assoc]

/-- The pieces of two texts with a slash between them are the pieces of both. -/
theorem pieces_append (directory path : Path) :
    (mk (directory.text ++ "/" ++ path.text)).pieces = directory.pieces ++ path.pieces := by
  have htext : mk (directory.text ++ "/" ++ path.text) = ofPieces (directory.pieces ++ path.pieces) := by
    have hboth := text_ofPieces_append (pieces_ne_nil directory) (pieces_ne_nil path)
    rw [ofPieces_pieces, ofPieces_pieces] at hboth
    exact congrArg mk hboth.symm
  rw [htext, pieces_ofPieces (by simp [pieces_ne_nil])]
  intro piece hpiece
  rcases List.mem_append.mp hpiece with hpiece | hpiece
  · exact slash_not_mem_pieces directory piece hpiece
  · exact slash_not_mem_pieces path piece hpiece

theorem endsInSlash_of_pieces (hpieces : path.pieces = before ++ [name]) (hname : name ≠ "") :
    path.endsInSlash = false := by
  have hslash : '/' ∉ name.toList := slash_not_mem_pieces path name (by simp [hpieces])
  have hchars : name.toList ≠ [] := fun h => hname (String.toList_inj.mp h)
  obtain ⟨start, hstart⟩ := exists_text_ofPieces before
  rw [endsInSlash, ← ofPieces_pieces path, hpieces, hstart, List.getLast?_append, List.getLast?_eq_some_getLast hchars,
    Option.some_or]
  exact beq_eq_false_iff_ne.mpr fun h => hslash (Option.some_inj.mp h ▸ List.getLast_mem hchars)

/-- A path that ends in a slash has an empty last piece. -/
theorem exists_of_endsInSlash (h : path.endsInSlash = true) : ∃ directory : Path, path = ⟨directory.text ++ "/"⟩ := by
  obtain ⟨start, hstart⟩ := List.getLast?_eq_some_iff.mp (beq_iff_eq.mp h)
  refine ⟨⟨String.ofList start⟩, ?_⟩
  have htext : path.text = String.ofList start ++ "/" := by
    apply String.toList_inj.mp
    rw [hstart]
    simp
  exact congrArg mk htext

/-- The pieces of a path that lead to what lies below it. -/
def entrance (path : Path) : List String :=
  if path.endsInSlash then path.pieces.dropLast else path.pieces

theorem pieces_of_endsInSlash (h : path.endsInSlash = true) : path.pieces = path.entrance ++ [""] := by
  obtain ⟨parent, rfl⟩ := exists_of_endsInSlash h
  have hpieces := pieces_append parent ⟨""⟩
  rw [String.append_empty] at hpieces
  have hempty : pieces ⟨""⟩ = [""] := rfl
  rw [entrance, if_pos h, hpieces, hempty, List.dropLast_concat]

/-- The pieces of a path of names that is seen from a directory. -/
theorem pieces_join {directory : Path} {names : List String} (hdirectory : directory.text ≠ "") (hnames : names ≠ [])
    (hproper : ∀ name ∈ names, name ≠ "" ∧ '/' ∉ name.toList) :
    (directory.join (ofPieces names)).pieces = directory.entrance ++ names := by
  have hpieces : (ofPieces names).pieces = names := pieces_ofPieces hnames fun name h => (hproper name h).2
  have hrelative : (ofPieces names).isAbsolute = false := by
    have hlast : names = names.dropLast ++ [names.getLast hnames] := (List.dropLast_concat_getLast hnames).symm
    rw [Bool.eq_false_iff]
    intro habsolute
    obtain ⟨rest, hrest⟩ := (isAbsolute_iff (hpieces.trans hlast)).mp habsolute
    exact (hproper "" (by rw [hlast, hrest]; simp)).1 rfl
  have htext : directory.text.isEmpty = false := by simpa [Bool.eq_false_iff] using hdirectory
  rw [join, hrelative, htext]
  simp only [Bool.or_self, Bool.false_eq_true, ↓reduceIte]
  by_cases hends : directory.endsInSlash = true
  · have hparent := pieces_of_endsInSlash hends
    obtain ⟨parent, rfl⟩ := exists_of_endsInSlash hends
    have hslash := pieces_append parent ⟨""⟩
    rw [String.append_empty, hparent] at hslash
    rw [if_pos hends, pieces_append, hpieces, List.append_cancel_right hslash]
  · rw [if_neg hends, pieces_append, hpieces, entrance, if_neg hends]

end GoldenBench.Path
