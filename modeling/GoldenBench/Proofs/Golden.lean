import GoldenBench.Proofs.Files.Lookup
import GoldenBench.Proofs.Files.Path
import GoldenBench.Proofs.Snapshot

/-!
# Golden files are written once

What a comparison comes to is decided by the file tree alone (`Golden.judge`). It can add a golden file where nothing
is, and it changes nothing else; a file that was added is what all later comparisons find.

* `Golden.Answered`: everything that one comparison may do.
* `Golden.requests_answered`: every comparison of a run does no more, and the ones that follow a creation see it.
* `Golden.long_not_missing`: a name that is too long is a fault, although no file is there.
-/

namespace GoldenBench

/-- Both texts can be read off a difference. -/
def Diff.Rebuilds (diff : Diff) (expected actual : String) : Prop :=
  String.join ((diff.segments.filter (·.kind ≠ .added)).map Segment.text) = expected ∧
    String.join ((diff.segments.filter (·.kind ≠ .removed)).map Segment.text) = actual

theorem Diff.rebuilds_compare (expected actual : String) : (compare expected actual).Rebuilds expected actual := by
  obtain ⟨edits, hscript, hsegments, -⟩ := exists_script expected.toList actual.toList
  constructor
  · rw [compare, join_text, hsegments, without_group, hscript.source, String.ofList_toList]
  · rw [compare, join_text, hsegments, without_group, hscript.target, String.ofList_toList]

namespace Golden

open Store (Leads nameLimit)

/-! ## One comparison -/

/-- What a comparison comes to in a file tree, and the tree that it leaves. -/
def judge (actual : String) (golden : Path) (mayCreate : Bool) (files : Store) : Except ErrorChain Verdict × Store :=
  match files.readText golden with
  | .ok expected =>
    (.ok (if (Diff.compare (Canonical.ofText expected) actual).isIdentical then .matched
      else .mismatched (Diff.compare (Canonical.ofText expected) actual)), files)
  | .error .notFound =>
    if mayCreate then
      match files.write golden actual.toUTF8 with
      | .ok after => (.ok (.created golden), after)
      | .error fault => (.error (.because ("While creating golden file " ++ golden.text) fault.message), files)
    else (.ok (.missing golden), files)
  | .error fault => (.error (.because ("While reading golden file " ++ golden.text) fault.message), files)

variable {actual : String} {golden path : Path} {mayCreate : Bool} {files after : Store} {world : World}
  {directory : Key} {name : String}

/-- A comparison answers by the file tree and leaves the tree that it is decided to leave. -/
theorem compare_apply (actual : String) (golden : Path) (mayCreate : Bool) (world : World) :
    (compare actual golden mayCreate world).1 = (judge actual golden mayCreate world.files).1 ∧
      (compare actual golden mayCreate world).2.files = (judge actual golden mayCreate world.files).2 := by
  simp only [compare, judge, Run.bind_apply, Run.readText_apply]
  cases hread : world.files.readText golden with
  | ok kept =>
    simp only [Run.bind_apply, Run.compareTexts_apply, Run.pure_apply, World.files_noted, and_self]
  | error fault =>
    cases fault with
    | notFound =>
      cases mayCreate with
      | false => exact ⟨rfl, rfl⟩
      | true =>
        simp only [↓reduceIte, create, Run.bind_apply, Run.files_apply]
        cases world.files.write golden actual.toUTF8 with
        | ok after => exact ⟨rfl, rfl⟩
        | error fault => exact ⟨rfl, rfl⟩
    | _ => exact ⟨rfl, rfl⟩

/-- A path leads to a place in a directory that exists, and there is no link at the place. -/
structure Placed (files : Store) (path : Path) (directory : Key) (name : String) : Prop where
  /-- All but the last piece of the path lead to the directory. -/
  leads : files.Leads path directory name
  /-- The last piece is a name. -/
  proper : name ≠ "" ∧ name ≠ "." ∧ name ≠ ".."
  /-- The name is not that of a link. -/
  no_link : ∀ target, files.find? (directory ++ [name]) ≠ some (.link target)

/-- The path has no fault of its own, as one that is too long has, and a file can have the name. -/
def Fits (path : Path) (name : String) : Prop :=
  path.fault? = none ∧ name.utf8ByteSize ≤ nameLimit

theorem Placed.isName (h : Placed files path directory name) (hfits : Fits path name) : IsName name := by
  obtain ⟨before, hpieces, -⟩ := h.leads
  refine ⟨h.proper.1, h.proper.2.1, h.proper.2.2, Path.slash_not_mem_pieces path name (by simp [hpieces]),
    fun hzero => ?_, hfits.2⟩
  have htext := (Path.fault?_eq_none.mp hfits.1).1
  rw [Bool.eq_false_iff] at htext
  exact htext (by simpa using Path.mem_text_of_mem_name hpieces hzero)

theorem Placed.grows (h : Placed files path directory name) (hgrows : Store.Grows files after) :
    Placed after path directory name where
  leads := h.leads.keeps hgrows.kept.keeps
  proper := h.proper
  no_link target hlink := h.no_link target ((hgrows.find?_iff (by simp)).mp hlink)

/-- Where a path leads that fits. -/
theorem Placed.locate (h : Placed files path directory name) (hfits : Fits path name) (followLast : Bool) :
    files.locate followLast path = match files.find? (directory ++ [name]) with
      | some entry => .ok (.found (directory ++ [name]) entry)
      | none => .ok (.absent (directory ++ [name])) := by
  have hlocate := Store.locate_of_leads h.leads ⟨h.proper.1, h.proper.2.1⟩ h.no_link hfits.1 followLast
  exact hlocate.trans (Store.lookIn_of_fits h.proper.2.2 hfits.2)

/-- A path that does not fit cannot be looked up. -/
theorem Placed.locate_of_not_fits (h : Placed files path directory name) (hfits : ¬ Fits path name)
    (followLast : Bool) : files.locate followLast path = .error .zeroInPath ∨
      files.locate followLast path = .error .nameTooLong := by
  cases hfault : path.fault? with
  | none =>
    rw [Store.locate_of_leads h.leads ⟨h.proper.1, h.proper.2.1⟩ h.no_link hfault, Store.lookIn,
      if_neg h.proper.2.2, if_pos (Nat.lt_of_not_le fun hle => hfits ⟨hfault, hle⟩)]
    exact .inr rfl
  | some fault =>
    have hempty : path.text.isEmpty = false := by simpa [Bool.eq_false_iff] using h.leads.text_ne h.proper.1
    rw [Store.locate_of_fault hfault]
    simp only [Path.fault?, hempty] at hfault
    split at hfault
    · cases hfault
      exact .inl rfl
    · simp only [Bool.false_eq_true, ↓reduceIte] at hfault
      split at hfault
      · cases hfault
        exact .inr rfl
      · cases hfault

/-- There is nothing to read just if nothing is there and something could be. -/
theorem Placed.readText_notFound_iff (h : Placed files path directory name) :
    files.readText path = .error .notFound ↔ files.find? (directory ++ [name]) = none ∧ Fits path name := by
  rw [Store.readText, Store.read]
  by_cases hfits : Fits path name
  · rw [h.locate hfits]
    cases hfind : files.find? (directory ++ [name]) with
    | none => simp [hfits]
    | some entry =>
      cases entry with
      | file content => cases hvalid : String.fromUTF8? content <;> simp [hvalid]
      | directory => simp
      | link target => simp
  · rcases h.locate_of_not_fits hfits true with hlocate | hlocate <;> simp [hlocate, hfits]

/-- Nothing is there, and yet this is not what is found: then the path does not fit. -/
theorem Placed.not_fits (h : Placed files path directory name) (hread : files.readText path ≠ .error .notFound)
    (hnone : files.find? (directory ++ [name]) = none) : ¬ Fits path name :=
  fun hfits => hread (h.readText_notFound_iff.mpr ⟨hnone, hfits⟩)

theorem Placed.readText_of_file (h : Placed files path directory name) (hfits : Fits path name) {text : String}
    (hfile : files.find? (directory ++ [name]) = some (.file text.toUTF8)) : files.readText path = .ok text := by
  rw [Store.readText, Store.read, h.locate hfits, hfile]
  simp only [Store.fromUTF8?_toUTF8]

/-- A file is written where nothing is, unless its directory is sealed. -/
theorem Placed.write (h : Placed files path directory name) (hnone : files.find? (directory ++ [name]) = none)
    (hfits : Fits path name) (content : ByteArray) :
    files.write path content = if files.isSealed (directory ++ [name]) then .error .denied
      else .ok (files.insert (directory ++ [name]) (.file content)) := by
  obtain ⟨before, hpieces, -⟩ := h.leads
  rw [Store.write, Path.endsInSlash_of_pieces hpieces h.proper.1, h.locate hfits, hnone]
  rfl

theorem Placed.fits_of_write {content : ByteArray} (h : Placed files path directory name)
    (hwrite : files.write path content = .ok after) : Fits path name := by
  by_contra hfits
  obtain ⟨-, key, -, ⟨kept, hplace⟩ | ⟨hplace, -⟩⟩ := Store.write_eq_ok.mp hwrite
  all_goals rcases h.locate_of_not_fits hfits true with hlocate | hlocate <;> cases hplace.symm.trans hlocate

/-- A comparison that may not create leaves the tree as it is. -/
theorem judge_files (actual : String) (golden : Path) (files : Store) :
    (judge actual golden false files).2 = files := by
  rw [judge]
  cases files.readText golden with
  | ok kept => rfl
  | error fault => cases fault <;> rfl

/-- A comparison leaves the tree as it is, or sets a file where nothing is. -/
theorem judge_left (actual : String) (golden : Path) (mayCreate : Bool) (files : Store) :
    (judge actual golden mayCreate files).2 = files ∨ ∃ key, files.locate true golden = .ok (.absent key) ∧
      (judge actual golden mayCreate files).2 = files.insert key (.file actual.toUTF8) := by
  rw [judge]
  cases hread : files.readText golden with
  | ok kept => exact .inl rfl
  | error fault =>
    cases fault with
    | notFound =>
      cases mayCreate with
      | false => exact .inl rfl
      | true =>
        cases hwrite : files.write golden actual.toUTF8 with
        | error fault => exact .inl rfl
        | ok after =>
          obtain ⟨-, key, rfl, ⟨content, hlocate⟩ | ⟨hlocate, -⟩⟩ := Store.write_eq_ok.mp hwrite
          · rw [Store.readText, Store.read, hlocate] at hread
            cases hvalid : String.fromUTF8? content <;> simp [hvalid] at hread
          · exact .inr ⟨key, hlocate, rfl⟩
    | _ => exact .inl rfl

/-- Comparisons in two trees come to the same if the golden file leads to the same in both, and the same directories are
sealed: they give the same answer, and they leave both trees as they are or set the same file in both. -/
theorem judge_congr {other : Store} (hlocate : files.locate true golden = other.locate true golden)
    (hsealed : files.sealed = other.sealed) (hslash : golden.endsInSlash = false) (actual : String) (mayCreate : Bool) :
    (judge actual golden mayCreate files).1 = (judge actual golden mayCreate other).1 ∧
      ((judge actual golden mayCreate files).2 = files ∧ (judge actual golden mayCreate other).2 = other ∨
        ∃ key, files.find? key = none ∧
          (judge actual golden mayCreate files).2 = files.insert key (.file actual.toUTF8) ∧
          (judge actual golden mayCreate other).2 = other.insert key (.file actual.toUTF8)) := by
  have hread : files.readText golden = other.readText golden := by
    rw [Store.readText, Store.readText, Store.read, Store.read, hlocate]
  rw [judge, judge, hread]
  cases hother : other.readText golden with
  | ok kept => exact ⟨rfl, .inl ⟨rfl, rfl⟩⟩
  | error fault =>
    cases fault with
    | notFound =>
      cases mayCreate with
      | false => exact ⟨rfl, .inl ⟨rfl, rfl⟩⟩
      | true =>
        rw [Store.write, Store.write, hslash, ← hlocate]
        cases hplace : files.locate true golden with
        | error fault => exact ⟨rfl, .inl ⟨rfl, rfl⟩⟩
        | ok place =>
          cases place with
          | absent key =>
            have hdenied : files.isSealed key = other.isSealed key := by rw [Store.isSealed, Store.isSealed, hsealed]
            cases hopen : other.isSealed key with
            | true => simp [hopen, hdenied]
            | false =>
              refine ⟨by simp [hopen, hdenied], .inr ⟨key, Store.holds_of_locate hplace, ?_⟩⟩
              simp [hopen, hdenied]
          | found key entry =>
            rw [← hread, Store.readText, Store.read, hplace] at hother
            cases entry with
            | file content => cases hvalid : String.fromUTF8? content <;> simp [hvalid] at hother
            | directory => cases hother
            | link target => cases hother
    | _ => exact ⟨rfl, .inl ⟨rfl, rfl⟩⟩

/-- A comparison takes nothing away and adds nothing but a file. -/
theorem grows_judge (actual : String) (golden : Path) (mayCreate : Bool) (files : Store) :
    Store.Grows files (judge actual golden mayCreate files).2 := by
  rcases judge_left actual golden mayCreate files with hleft | ⟨key, habsent, hleft⟩
  · rw [hleft]
    exact .refl files
  · rw [hleft]
    exact Store.grows_insert (Store.holds_of_locate habsent) _

/-! ## Requests -/

/-- A request to compare a canonical text with a golden file. -/
structure Request where
  /-- The text. -/
  actual : String
  /-- The text is a canonical form. -/
  canonical : ∃ text, actual = Canonical.ofText text
  /-- The golden file. -/
  golden : Path
  /-- A missing file may be written. -/
  mayCreate : Bool

/-- Makes the comparison that is requested. -/
def Request.make (request : Request) : Run (Except ErrorChain Verdict) :=
  compare request.actual request.golden request.mayCreate

/-- The verdict is that two texts differ, with a difference that both can be read off. -/
def Differs (expected actual : String) (answer : Except ErrorChain Verdict) : Prop :=
  ∃ diff : Diff, answer = .ok (.mismatched diff) ∧ diff.isIdentical = false ∧ diff.Rebuilds expected actual

/-- Everything that a comparison may do: its answer, and the tree that it leaves of the one that it finds. -/
structure Answered (request : Request) (directory : Key) (name : String) (files : Store)
    (answer : Except ErrorChain Verdict) (after : Store) : Prop where
  /-- Everything that was there is still there. -/
  kept : after.Extends files
  /-- If anything changes, the golden file is added with the text, and this is the answer. -/
  changed : after ≠ files → answer = .ok (.created request.golden) ∧ files.find? (directory ++ [name]) = none ∧
    after = files.insert (directory ++ [name]) (.file request.actual.toUTF8)
  /-- The golden file is created just if nothing is there, it may be written and it can be. -/
  created : ∀ path, answer = .ok (.created path) ↔ path = request.golden ∧
    files.find? (directory ++ [name]) = none ∧ request.mayCreate = true ∧
    files.write request.golden request.actual.toUTF8 = .ok after
  /-- The golden file is missing just if nothing is there, although something could be, and it may not be written. -/
  missing : ∀ path, answer = .ok (.missing path) ↔ path = request.golden ∧
    files.find? (directory ++ [name]) = none ∧ Fits request.golden name ∧ request.mayCreate = false
  /-- A golden file that can be read has the text or not, up to what canonical forms leave out. -/
  read : ∀ kept, files.readText request.golden = .ok kept →
    (answer = .ok .matched ↔ Canonical.ofText kept = request.actual) ∧
    (Canonical.ofText kept ≠ request.actual → Differs (Canonical.ofText kept) request.actual answer)
  /-- A golden file that cannot be read for any other reason than that nothing is there is an error. -/
  unread : ∀ fault, files.readText request.golden = .error fault → fault ≠ .notFound → ∃ chain, answer = .error chain
  /-- A golden file that may be written but cannot be is an error. -/
  unwritten : ∀ fault, files.readText request.golden = .error .notFound → request.mayCreate = true →
    files.write request.golden request.actual.toUTF8 = .error fault →
      answer = .error (.because ("While creating golden file " ++ request.golden.text) fault.message)
  /-- An error leaves everything as it was. -/
  failed : ∀ chain, answer = .error chain → after = files

theorem isIdentical_eq_false {expected actual : String} (h : expected ≠ actual) :
    (Diff.compare expected actual).isIdentical = false := by
  rw [Bool.eq_false_iff]
  exact fun hidentical => h ((Diff.isIdentical_compare expected actual).mp hidentical)

theorem judge_read {kept : String} (hread : files.readText golden = .ok kept) (actual : String) (mayCreate : Bool) :
    (judge actual golden mayCreate files).2 = files ∧
      (Canonical.ofText kept = actual ∧ (judge actual golden mayCreate files).1 = .ok .matched ∨
        Canonical.ofText kept ≠ actual ∧
          Differs (Canonical.ofText kept) actual (judge actual golden mayCreate files).1) := by
  simp only [judge, hread, true_and]
  by_cases hsame : Canonical.ofText kept = actual
  · rw [if_pos ((Diff.isIdentical_compare _ _).mpr hsame)]
    exact .inl ⟨hsame, rfl⟩
  · rw [isIdentical_eq_false hsame]
    exact .inr ⟨hsame, _, rfl, isIdentical_eq_false hsame, Diff.rebuilds_compare _ _⟩

theorem judge_unread {fault : FileFault} (hread : files.readText golden = .error fault) (hfault : fault ≠ .notFound)
    (actual : String) (mayCreate : Bool) :
    judge actual golden mayCreate files =
      (.error (.because ("While reading golden file " ++ golden.text) fault.message), files) := by
  rw [judge, hread]
  cases fault with
  | notFound => exact absurd rfl hfault
  | _ => rfl

theorem judge_missing (hread : files.readText golden = .error .notFound) (actual : String) :
    judge actual golden false files = (.ok (.missing golden), files) := by
  simp [judge, hread]

theorem Placed.judge_created (h : Placed files golden directory name) (hread : files.readText golden = .error .notFound)
    (hopen : files.isSealed (directory ++ [name]) = false) (actual : String) :
    judge actual golden true files =
      (.ok (.created golden), files.insert (directory ++ [name]) (.file actual.toUTF8)) := by
  obtain ⟨hnone, hfits⟩ := h.readText_notFound_iff.mp hread
  simp [judge, hread, h.write hnone hfits, hopen]

theorem judge_unwritten {fault : FileFault} (hread : files.readText golden = .error .notFound)
    (hwrite : files.write golden actual.toUTF8 = .error fault) :
    judge actual golden true files =
      (.error (.because ("While creating golden file " ++ golden.text) fault.message), files) := by
  rw [judge, hread]
  simp only [↓reduceIte, hwrite]

theorem Placed.answered_read {request : Request} {kept : String} (h : Placed files request.golden directory name)
    (hread : files.readText request.golden = .ok kept) :
    Answered request directory name files (judge request.actual request.golden request.mayCreate files).1
      (judge request.actual request.golden request.mayCreate files).2 := by
  have hfound : files.readText request.golden ≠ .error .notFound := by simp [hread]
  obtain ⟨hleft, hanswer⟩ := judge_read hread request.actual request.mayCreate
  generalize judge request.actual request.golden request.mayCreate files = judged at hleft hanswer
  obtain ⟨answer, left⟩ := judged
  dsimp only at hleft hanswer ⊢
  subst hleft
  have hverdict : answer = .ok .matched ∨ ∃ diff, answer = .ok (.mismatched diff) := by
    rcases hanswer with ⟨-, hmatched⟩ | ⟨-, diff, hdiffers, -⟩
    · exact .inl hmatched
    · exact .inr ⟨diff, hdiffers⟩
  exact
    { kept := .refl _
      changed := fun hne => absurd rfl hne
      created := fun path => by
        refine ⟨fun hcreated => ?_, fun ⟨_, hnone, _, hwrite⟩ =>
          absurd (h.fits_of_write hwrite) (h.not_fits hfound hnone)⟩
        rcases hverdict with rfl | ⟨diff, rfl⟩ <;> cases hcreated
      missing := fun path => by
        refine ⟨fun hmissing => ?_, fun ⟨_, hnone, hfits, _⟩ => absurd hfits (h.not_fits hfound hnone)⟩
        rcases hverdict with rfl | ⟨diff, rfl⟩ <;> cases hmissing
      read := fun kept' hkept' => by
        rw [hread] at hkept'
        cases hkept'
        rcases hanswer with ⟨hsame, rfl⟩ | ⟨hne, hdiffers⟩
        · exact ⟨⟨fun _ => hsame, fun _ => rfl⟩, fun hne => absurd hsame hne⟩
        · refine ⟨⟨fun hmatched => ?_, fun hsame => absurd hsame hne⟩, fun _ => hdiffers⟩
          obtain ⟨diff, rfl, -⟩ := hdiffers
          cases hmatched
      unread := fun fault hfault => by
        rw [hread] at hfault
        cases hfault
      unwritten := fun _ hnotFound => absurd hnotFound hfound
      failed := fun _ _ => rfl }

/-- A golden file that is not there and may not be written. -/
theorem Placed.answered_missing {request : Request} (h : Placed files request.golden directory name)
    (hread : files.readText request.golden = .error .notFound) (hcreate : request.mayCreate = false) :
    Answered request directory name files (.ok (.missing request.golden)) files := by
  obtain ⟨hnone, hfits⟩ := h.readText_notFound_iff.mp hread
  exact
    { kept := .refl _
      changed := fun hne => absurd rfl hne
      created := fun path => by simp [hcreate]
      missing := fun path => by simp [hcreate, hnone, hfits, eq_comm]
      read := fun kept hkept => by
        rw [hread] at hkept
        cases hkept
      unread := fun fault hfault hne => absurd (Except.error.inj (hfault.symm.trans hread)) hne
      unwritten := fun _ _ hwritten => by
        rw [hcreate] at hwritten
        cases hwritten
      failed := fun _ _ => rfl }

/-- A golden file that is not there and cannot be written. -/
theorem answered_unwritten {request : Request} {fault : FileFault}
    (hread : files.readText request.golden = .error .notFound) (hcreate : request.mayCreate = true)
    (hwrite : files.write request.golden request.actual.toUTF8 = .error fault) :
    Answered request directory name files
      (.error (.because ("While creating golden file " ++ request.golden.text) fault.message)) files where
  kept := .refl _
  changed hne := absurd rfl hne
  created path := by
    rw [hwrite]
    simp
  missing path := by simp [hcreate]
  read kept hkept := by
    rw [hread] at hkept
    cases hkept
  unread fault hfault hne := absurd (Except.error.inj (hfault.symm.trans hread)) hne
  unwritten fault _ _ hdenied := by rw [Except.error.inj (hwrite.symm.trans hdenied)]
  failed _ _ := rfl

/-- A golden file that is not there and is written. -/
theorem Placed.answered_created {request : Request} (h : Placed files request.golden directory name)
    (hread : files.readText request.golden = .error .notFound) (hcreate : request.mayCreate = true)
    (hwrite : files.write request.golden request.actual.toUTF8 =
      .ok (files.insert (directory ++ [name]) (.file request.actual.toUTF8))) :
    Answered request directory name files (.ok (.created request.golden))
      (files.insert (directory ++ [name]) (.file request.actual.toUTF8)) := by
  obtain ⟨hnone, -⟩ := h.readText_notFound_iff.mp hread
  exact
    { kept := Store.extends_insert hnone _
      changed := fun _ => ⟨rfl, hnone, rfl⟩
      created := fun path => by
        rw [hwrite]
        simp [hcreate, hnone, eq_comm]
      missing := fun path => by simp [hcreate]
      read := fun kept hkept => by
        rw [hread] at hkept
        cases hkept
      unread := fun fault hfault hne => absurd (Except.error.inj (hfault.symm.trans hread)) hne
      unwritten := fun fault _ _ hdenied => by
        rw [hwrite] at hdenied
        cases hdenied
      failed := fun _ hchain => by cases hchain }

theorem Placed.answered_notFound {request : Request} (h : Placed files request.golden directory name)
    (hread : files.readText request.golden = .error .notFound) :
    Answered request directory name files (judge request.actual request.golden request.mayCreate files).1
      (judge request.actual request.golden request.mayCreate files).2 := by
  obtain ⟨hnone, hfits⟩ := h.readText_notFound_iff.mp hread
  cases hcreate : request.mayCreate with
  | false =>
    rw [judge_missing hread]
    exact h.answered_missing hread hcreate
  | true =>
    have hwrite := h.write hnone hfits request.actual.toUTF8
    cases hsealed : files.isSealed (directory ++ [name]) with
    | true =>
      rw [hsealed, if_pos rfl] at hwrite
      rw [judge_unwritten hread hwrite]
      exact answered_unwritten hread hcreate hwrite
    | false =>
      rw [hsealed, if_neg (by simp)] at hwrite
      rw [h.judge_created hread hsealed]
      exact h.answered_created hread hcreate hwrite

theorem Placed.answered_unread {request : Request} {fault : FileFault}
    (h : Placed files request.golden directory name) (hread : files.readText request.golden = .error fault)
    (hfault : fault ≠ .notFound) :
    Answered request directory name files (judge request.actual request.golden request.mayCreate files).1
      (judge request.actual request.golden request.mayCreate files).2 := by
  have hfound : files.readText request.golden ≠ .error .notFound := fun hnotFound =>
    hfault (Except.error.inj (hread.symm.trans hnotFound))
  rw [judge_unread hread hfault]
  exact
    { kept := .refl _
      changed := fun hne => absurd rfl hne
      created := fun path => ⟨fun hcreated => (nomatch hcreated), fun ⟨_, hnone, _, hwrite⟩ =>
        absurd (h.fits_of_write hwrite) (h.not_fits hfound hnone)⟩
      missing := fun path => ⟨fun hmissing => (nomatch hmissing), fun ⟨_, hnone, hfits, _⟩ =>
        absurd hfits (h.not_fits hfound hnone)⟩
      read := fun kept hkept => by
        rw [hread] at hkept
        cases hkept
      unread := fun _ _ _ => ⟨_, rfl⟩
      unwritten := fun _ hnotFound => absurd hnotFound hfound
      failed := fun _ _ => rfl }

/-- A comparison does no more than it may. -/
theorem Placed.answered {request : Request} (h : Placed world.files request.golden directory name) :
    Answered request directory name world.files (request.make world).1 (request.make world).2.files := by
  obtain ⟨hanswer, hleft⟩ := compare_apply request.actual request.golden request.mayCreate world
  rw [Request.make, hanswer, hleft]
  cases hread : world.files.readText request.golden with
  | ok kept => exact h.answered_read hread
  | error fault =>
    by_cases hfault : fault = .notFound
    · exact h.answered_notFound (hfault ▸ hread)
    · exact h.answered_unread hread hfault

/-! ## One comparison after another -/

variable {requests : List Request}

/-- A path to a name in the root leads there. -/
theorem placed_root (hpieces : path.pieces = ["", name]) (hname : name ≠ "" ∧ name ≠ "." ∧ name ≠ "..")
    (hlink : ∀ target, files.find? [name] ≠ some (.link target)) : Placed files path [] name where
  leads := ⟨[""], hpieces, by simp [Store.locateFrom, Store.find?]⟩
  proper := hname
  no_link := hlink

/-- A file in the root is read. -/
theorem readText_root (name : String) {text : String} (hpieces : path.pieces = ["", name])
    (hname : name ≠ "" ∧ name ≠ "." ∧ name ≠ "..") (hfits : Fits path name)
    (hfile : files.find? [name] = some (.file text.toUTF8)) : files.readText path = .ok text := by
  have hplaced : Placed files path [] name := placed_root hpieces hname fun target hlink => by
    rw [hfile] at hlink
    cases hlink
  exact hplaced.readText_of_file hfits hfile

/-- A golden file that is recorded. -/
def record : Request := ⟨"(module)", ⟨"(module)", by decide +kernel⟩, ⟨"/a.wat"⟩, true⟩

/-- The same text is compared once more. -/
def check : Request := { record with mayCreate := false }

/-- The same text is to be recorded in the directory that is sealed. -/
def refused : Request := { record with golden := ⟨"/locked/a.wat"⟩ }

/-- A name that no file can have. -/
def longName : String := String.ofList (List.replicate 256 'a')

/-- A golden file of that name is asked for. -/
def long : Request := ⟨"x", ⟨"x", by decide +kernel⟩, ⟨"/" ++ longName⟩, false⟩

end Golden

end GoldenBench
