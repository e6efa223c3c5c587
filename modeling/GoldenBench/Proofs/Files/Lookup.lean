import GoldenBench.Proofs.Files.Tree

/-!
# Looking a path up

All but the last piece of a path lead to a directory (`Store.Leads`), and the last piece is looked up there
(`Store.lookIn`). A tree that keeps the directories and links of another one (`Store.Keeps`) leads to the same
directories.

* `Store.locate_of_leads`: where a path leads is what its last piece comes to in its directory.
* `Store.Leads.keeps`: the directory stays the same as long as directories and links stay.
-/

namespace GoldenBench.Store

variable {store other : Store} {followLast : Bool} {links : Nat} {here key directory : Key} {entry : Entry}
  {path : Path} {name : String} {before todo : List String}

/-! ## Trees with the same directories and links -/

/-- A tree has every directory and every link that another one has. -/
def Keeps (store other : Store) : Prop :=
  ∀ key entry, (∀ content, entry ≠ .file content) → other.find? key = some entry → store.find? key = some entry

theorem Extends.keeps (h : store.Extends other) : store.Keeps other := fun key entry _ => h key entry

/-- A path goes nowhere from a file. -/
theorem eq_of_locateFrom_file {content : ByteArray} (hhere : other.find? here = some (.file content))
    (h : other.locateFrom followLast links here todo = .ok (.found key entry)) :
    todo = [] ∧ key = here ∧ entry = .file content := by
  cases todo with
  | nil =>
    rw [locateFrom, hhere] at h
    cases h
    exact ⟨rfl, rfl, rfl⟩
  | cons piece rest =>
    rw [locateFrom, hhere] at h
    cases h

/-- A path leads to the same entry where directories and links stay and so does the entry. -/
theorem locateFrom_keeps (hkeeps : store.Keeps other) (hentry : store.find? key = some entry)
    (h : other.locateFrom followLast links here todo = .ok (.found key entry)) :
    store.locateFrom followLast links here todo = .ok (.found key entry) := by
  revert h
  fun_induction locateFrom other followLast links here todo with
  | case1 links here entry' hhere =>
    intro h
    cases h
    rw [locateFrom, hentry]
  | case6 links here piece rest hhere hnone ih =>
    intro h
    rw [locateFrom_stay (hkeeps _ _ (by simp) hhere) hnone]
    exact ih h
  | case7 links here rest hhere hnone ih =>
    intro h
    rw [locateFrom_up (hkeeps _ _ (by simp) hhere)]
    exact ih h
  | case11 links here piece rest hhere hnone hup hlimit target hlink hlast =>
    intro h
    cases h
    rw [locateFrom, hkeeps _ _ (by simp) hhere]
    simp only [hnone, Bool.false_eq_true, hup, hlimit, ↓reduceIte, hentry, hlast]
  | case13 here piece rest hhere hnone hup hlimit target hlink hlast links ih =>
    intro h
    rw [locateFrom_link (hkeeps _ _ (by simp) hhere) ⟨hnone, hup, hlimit⟩ (hkeeps _ _ (by simp) hlink) hlast]
    exact ih h
  | case14 links here piece rest hhere hnone hup hlimit next hnext hfound ih =>
    intro h
    -- a file is not kept as it is, but nothing follows it, so it is the entry at the end
    have hstays : store.find? (here ++ [piece]) = some next := by
      cases next with
      | link target => exact absurd rfl (hnext target)
      | file content =>
        obtain ⟨-, rfl, rfl⟩ := eq_of_locateFrom_file hfound h
        exact hentry
      | directory => exact hkeeps _ _ (by simp) hfound
    rw [locateFrom_entry (hkeeps _ _ (by simp) hhere) ⟨hnone, hup, hlimit⟩ hstays hnext]
    exact ih h
  | _ => intro h; cases h

/-! ## The last piece -/

/-- What a name comes to in a directory that holds no link of that name. -/
def lookIn (store : Store) (directory : Key) (name : String) : Except FileFault Place :=
  if name = ".." then
    match store.find? directory.dropLast with
    | some entry => .ok (.found directory.dropLast entry)
    | none => .error .notFound
  else if nameLimit < name.utf8ByteSize then .error .nameTooLong
  else
    match store.find? (directory ++ [name]) with
    | some entry => .ok (.found (directory ++ [name]) entry)
    | none => .ok (.absent (directory ++ [name]))

/-- What a name comes to that does not lead up and is not too long. -/
theorem lookIn_of_fits (hup : name ≠ "..") (hlimit : name.utf8ByteSize ≤ nameLimit) :
    store.lookIn directory name = match store.find? (directory ++ [name]) with
      | some entry => .ok (.found (directory ++ [name]) entry)
      | none => .ok (.absent (directory ++ [name])) :=
  (if_neg hup).trans (if_neg (Nat.not_lt.mpr hlimit))

theorem lookIn_eq_absent (h : store.lookIn directory name = .ok (.absent key)) :
    name ≠ ".." ∧ name.utf8ByteSize ≤ nameLimit ∧ key = directory ++ [name] ∧ store.find? key = none := by
  rw [lookIn] at h
  split at h
  · split at h <;> cases h
  · rename_i hup
    split at h
    · cases h
    · rename_i hlimit
      split at h
      · cases h
      · rename_i hnone
        cases h
        exact ⟨hup, Nat.not_lt.mp hlimit, rfl, hnone⟩

/-- All but the last piece of a path lead to a directory. -/
def Leads (store : Store) (path : Path) (directory : Key) (name : String) : Prop :=
  ∃ before, path.pieces = before ++ [name] ∧
    store.locateFrom true linkLimit [] before = .ok (.found directory .directory)

theorem Leads.find?_directory (h : store.Leads path directory name) : store.find? directory = some .directory := by
  obtain ⟨before, -, hbefore⟩ := h
  exact holds_of_locateFrom hbefore

/-- A path without a text has no name at its end. -/
theorem Leads.text_ne (h : store.Leads path directory name) (hname : name ≠ "") : path.text ≠ "" := by
  obtain ⟨before, hpieces, -⟩ := h
  intro htext
  have hpiece : path.pieces = [""] := by rw [Path.pieces, htext]; rfl
  rw [hpiece, eq_comm, List.append_eq_singleton_iff] at hpieces
  rcases hpieces with ⟨-, h⟩ | ⟨-, h⟩
  · exact hname (List.singleton_inj.mp h)
  · cases h

/-- The fault of a path with a name at its end is another one. -/
theorem Leads.fault?_ne_notFound (h : store.Leads path directory name) (hname : name ≠ "") :
    path.fault? ≠ some .notFound := by
  have hempty : path.text.isEmpty = false := by simpa [Bool.eq_false_iff] using h.text_ne hname
  rw [Path.fault?, hempty]
  split
  · simp
  · simp only [Bool.false_eq_true, ↓reduceIte]
    split <;> simp

theorem Leads.keeps (h : other.Leads path directory name) (hkeeps : store.Keeps other) :
    store.Leads path directory name := by
  obtain ⟨before, hpieces, hbefore⟩ := h
  exact ⟨before, hpieces, locateFrom_keeps hkeeps
    (hkeeps _ _ (by simp) (holds_of_locateFrom hbefore)) hbefore⟩

/-- A path that leads to a directory leads on from there. -/
theorem locateFrom_append (h : store.locateFrom followLast links here before = .ok (.found directory .directory)) :
    ∃ left, ∀ follow rest, rest ≠ [] →
      store.locateFrom follow links here (before ++ rest) = store.locateFrom follow left directory rest := by
  revert h
  fun_induction locateFrom store followLast links here before with
  | case1 links here entry hhere =>
    intro h
    cases h
    exact ⟨links, fun _ _ _ => rfl⟩
  | case6 links here piece rest hhere hnone ih =>
    intro h
    obtain ⟨left, hleft⟩ := ih h
    refine ⟨left, fun follow more hmore => ?_⟩
    rw [List.cons_append, locateFrom_stay hhere hnone, hleft follow more hmore]
  | case7 links here rest hhere hnone ih =>
    intro h
    obtain ⟨left, hleft⟩ := ih h
    refine ⟨left, fun follow more hmore => ?_⟩
    rw [List.cons_append, locateFrom_up hhere, hleft follow more hmore]
  | case13 here piece rest hhere hnone hup hlimit target hlink hlast links ih =>
    intro h
    obtain ⟨left, hleft⟩ := ih h
    refine ⟨left, fun follow more hmore => ?_⟩
    rw [List.cons_append, locateFrom_link hhere ⟨hnone, hup, hlimit⟩ hlink (by simp [hmore]), ← List.append_assoc]
    exact hleft follow more hmore
  | case14 links here piece rest hhere hnone hup hlimit next hnext hfound ih =>
    intro h
    obtain ⟨left, hleft⟩ := ih h
    refine ⟨left, fun follow more hmore => ?_⟩
    rw [List.cons_append, locateFrom_entry hhere ⟨hnone, hup, hlimit⟩ hfound hnext, hleft follow more hmore]
  | _ => intro h; cases h

/-- All but the last pieces of a path that leads somewhere lead to a directory. -/
theorem exists_directory_of_locateFrom {place : Place} (htodo : todo ≠ [])
    (h : store.locateFrom true links here (before ++ todo) = .ok place) :
    ∃ directory, store.locateFrom true links here before = .ok (.found directory .directory) := by
  revert h
  fun_induction locateFrom store true links here before with
  | case1 links here entry hhere =>
    intro h
    obtain ⟨piece, rest, rfl⟩ := List.exists_cons_of_ne_nil htodo
    rw [List.nil_append, locateFrom, hhere] at h
    cases entry with
    | directory => exact ⟨here, rfl⟩
    | file content => cases h
    | link target => cases h
  | case2 links here hhere =>
    intro h
    obtain ⟨piece, rest, rfl⟩ := List.exists_cons_of_ne_nil htodo
    rw [List.nil_append, locateFrom, hhere] at h
    cases h
  | case6 links here piece rest hhere hnone ih =>
    intro h
    rw [List.cons_append, locateFrom_stay hhere hnone] at h
    exact ih h
  | case7 links here rest hhere hnone ih =>
    intro h
    rw [List.cons_append, locateFrom_up hhere] at h
    exact ih h
  | case13 here piece rest hhere hnone hup hlimit target hlink hlast links ih =>
    intro h
    rw [List.cons_append, locateFrom_link hhere ⟨hnone, hup, hlimit⟩ hlink (by simp), ← List.append_assoc] at h
    exact ih h
  | case14 links here piece rest hhere hnone hup hlimit next hnext hfound ih =>
    intro h
    rw [List.cons_append, locateFrom_entry hhere ⟨hnone, hup, hlimit⟩ hfound hnext] at h
    exact ih h
  | case9 links here piece rest hhere hnone hup hlimit habsent hlast
  | case10 links here piece rest hhere hnone hup hlimit habsent hlast =>
    intro h
    have hend : (rest ++ todo).isEmpty = false := by simp [htodo]
    rw [List.cons_append, locateFrom, hhere] at h
    simp [hnone, hup, hlimit, habsent, hend] at h
  | case12 here piece rest hhere hnone hup hlimit target hlink hlast =>
    intro h
    rw [List.cons_append, locateFrom, hhere] at h
    simp [hnone, hup, hlimit, hlink] at h
  | _ => intro h; rw [List.cons_append, locateFrom] at h; simp_all

theorem locateFrom_name (hdirectory : store.find? directory = some .directory) (hname : name ≠ "" ∧ name ≠ ".")
    (hlink : ∀ target, store.find? (directory ++ [name]) ≠ some (.link target)) :
    store.locateFrom followLast links directory [name] = store.lookIn directory name := by
  have hnone : (name = "" || name = ".") = false := by simp [hname]
  rw [locateFrom, hdirectory, lookIn]
  simp only [hnone, Bool.false_eq_true, ↓reduceIte]
  by_cases hup : name = ".."
  · rw [if_pos hup, if_pos hup]
    cases habove : store.find? directory.dropLast with
    | none => simp [locateFrom, habove]
    | some entry => simp [locateFrom, habove]
  · rw [if_neg hup, if_neg hup]
    by_cases hlimit : nameLimit < name.utf8ByteSize
    · rw [if_pos hlimit, if_pos hlimit]
    · rw [if_neg hlimit, if_neg hlimit]
      cases hentry : store.find? (directory ++ [name]) with
      | none => rfl
      | some entry =>
        cases entry with
        | link target => exact absurd hentry (hlink target)
        | file content => simp [locateFrom, hentry]
        | directory => simp [locateFrom, hentry]

/-- Where a path without a fault leads is what its last piece comes to in its directory. -/
theorem locate_of_leads (h : store.Leads path directory name) (hname : name ≠ "" ∧ name ≠ ".")
    (hlink : ∀ target, store.find? (directory ++ [name]) ≠ some (.link target)) (hfault : path.fault? = none)
    (followLast : Bool) : store.locate followLast path = store.lookIn directory name := by
  obtain ⟨before, hpieces, hbefore⟩ := h
  have hdirectory := holds_of_locateFrom hbefore
  obtain ⟨left, hleft⟩ := locateFrom_append hbefore
  rw [locate, hfault, hpieces, hleft followLast [name] (by simp), locateFrom_name hdirectory hname hlink]

end GoldenBench.Store
