import GoldenBench.Files.Store
import Mathlib.Tactic.Common

/-!
# What was written can be read

A path that leads to a file, or to a name that its directory does not hold, leads to the file that is set there
(`Store.locateFrom_insert`): what it leads through are directories and links, and these stay.

* `Store.write_eq_ok`: when a file is written, and what is there afterwards.
* `Store.read_write`: a file that was written has the content that it was given.
* `Store.readText_write` is the same of texts.
-/

namespace GoldenBench

theorem Path.fault?_eq_none {path : Path} : path.fault? = none ↔
    path.text.contains '\x00' = false ∧ path.text ≠ "" ∧ path.text.utf8ByteSize ≤ Store.pathLimit := by
  rw [fault?]
  cases path.text.contains '\x00' <;> by_cases hempty : path.text = "" <;> simp [hempty]

namespace Store

variable {store after : Store} {followLast : Bool} {links : Nat} {here key : Key} {piece : String}
  {rest todo : List String} {content : ByteArray} {place : Place}

/-- The entry at a place, or that there is none, as a tree has it. -/
def Holds (store : Store) : Place → Prop
  | .found key entry => store.find? key = some entry
  | .absent key => store.find? key = none

/-- A path leads to what is there. -/
theorem holds_of_locateFrom (h : store.locateFrom followLast links here todo = .ok place) : store.Holds place := by
  revert h
  fun_induction locateFrom store followLast links here todo with
  | case1 links here entry hhere =>
    intro h
    cases h
    exact hhere
  | case6 links here piece rest hhere hnone ih => exact ih
  | case7 links here rest hhere hnone ih => exact ih
  | case9 links here piece rest hhere hnone hup hlimit habsent hlast =>
    intro h
    cases h
    exact habsent
  | case11 links here piece rest hhere hnone hup hlimit target hlink hlast =>
    intro h
    cases h
    exact hlink
  | case13 here piece rest hhere hnone hup hlimit target hlink hlast links ih => exact ih
  | case14 links here piece rest hhere hnone hup hlimit entry hentry hfound ih => exact ih
  | _ => intro h; cases h

/-- No tree takes a path that has a fault of its own. -/
theorem locate_of_fault {path : Path} {fault : FileFault} (h : path.fault? = some fault) :
    store.locate followLast path = .error fault := by
  rw [locate, h]

theorem locate_eq_ok {path : Path} (h : store.locate followLast path = .ok place) :
    path.fault? = none ∧ store.locateFrom followLast linkLimit [] path.pieces = .ok place := by
  rw [locate] at h
  split at h
  · cases h
  · exact ⟨‹_›, h⟩

theorem holds_of_locate {path : Path} (h : store.locate followLast path = .ok place) : store.Holds place :=
  holds_of_locateFrom (locate_eq_ok h).2

/-! ## One piece of a path -/

variable {entry : Entry} {target : Path}

/-- A piece that leads nowhere else. -/
theorem locateFrom_stay (hhere : store.find? here = some .directory) (hpiece : (piece = "" || piece = ".") = true) :
    store.locateFrom followLast links here (piece :: rest) = store.locateFrom followLast links here rest := by
  rw [locateFrom, hhere]
  simp only [hpiece, ↓reduceIte]

/-- A piece that leads up. -/
theorem locateFrom_up (hhere : store.find? here = some .directory) :
    store.locateFrom followLast links here (".." :: rest) =
      store.locateFrom followLast links here.dropLast rest := by
  have hpiece : ¬ (decide (".." = "") || decide (".." = ".")) = true := by decide
  rw [locateFrom, hhere]
  simp only [hpiece, Bool.false_eq_true, ↓reduceIte]

/-- The piece can be the name of an entry. -/
def CanName (piece : String) : Prop :=
  ¬ (piece = "" || piece = ".") = true ∧ piece ≠ ".." ∧ ¬ nameLimit < piece.utf8ByteSize

/-- The name of a file or a directory. -/
theorem locateFrom_entry (hhere : store.find? here = some .directory) (hpiece : CanName piece)
    (hfound : store.find? (here ++ [piece]) = some entry) (hentry : ∀ target, entry ≠ .link target) :
    store.locateFrom followLast links here (piece :: rest) =
      store.locateFrom followLast links (here ++ [piece]) rest := by
  obtain ⟨hname, hup, hlimit⟩ := hpiece
  rw [locateFrom, hhere]
  simp only [hname, hup, hlimit, hfound, Bool.false_eq_true, ↓reduceIte]

/-- The name of a link that is followed. -/
theorem locateFrom_link (hhere : store.find? here = some .directory) (hpiece : CanName piece)
    (hlink : store.find? (here ++ [piece]) = some (.link target)) (hlast : ¬ (rest.isEmpty && !followLast) = true) :
    store.locateFrom followLast (links + 1) here (piece :: rest) =
      store.locateFrom followLast links (if target.isAbsolute then [] else here) (target.pieces ++ rest) := by
  obtain ⟨hname, hup, hlimit⟩ := hpiece
  rw [locateFrom, hhere]
  simp only [hname, hup, hlimit, hlink, hlast, Bool.false_eq_true, ↓reduceIte]

/-! ## Setting a file -/

/-- No path goes on from a place: there is a file, or nothing. -/
def IsEnd (store : Store) (key : Key) : Prop :=
  store.find? key = none ∨ ∃ content, store.find? key = some (.file content)

theorem IsEnd.ne_nil (h : store.IsEnd key) : key ≠ [] := by
  rintro rfl
  rcases h with h | ⟨content, h⟩
  · cases h
  · cases h

/-- The file that is set at a place. -/
theorem IsEnd.find?_insert_self (h : store.IsEnd key) :
    (store.insert key (.file content)).find? key = some (.file content) := by
  rw [find?_insert store key key _ h.ne_nil, if_pos rfl]

/-- Directories and links stay when a file is set. -/
theorem IsEnd.find?_insert_of_some {k : Key} {entry : Entry} (h : store.IsEnd key) (hk : store.find? k = some entry)
    (hentry : ∀ content, entry ≠ .file content) :
    (store.insert key (.file content)).find? k = some entry := by
  rw [find?_insert store k key _ h.ne_nil, if_neg, hk]
  rintro rfl
  rcases h with h | ⟨content, h⟩
  · rw [h] at hk
    cases hk
  · rw [h] at hk
    cases hk
    exact hentry _ rfl

/-- A path that leads to the end leads there also once a file has been set there. -/
theorem locateFrom_insert (hkey : store.IsEnd key)
    (hplace : place = .absent key ∨ ∃ content, place = .found key (.file content))
    (h : store.locateFrom followLast links here todo = .ok place) :
    (store.insert key (.file content)).locateFrom followLast links here todo = .ok (.found key (.file content)) := by
  revert h
  fun_induction locateFrom store followLast links here todo with
  | case1 links here entry hhere =>
    intro h
    cases h
    obtain h | ⟨content', h⟩ := hplace
    · cases h
    · cases h
      rw [locateFrom, hkey.find?_insert_self]
  | case6 links here piece rest hhere hnone ih =>
    intro h
    rw [locateFrom_stay (hkey.find?_insert_of_some hhere (by simp)) hnone]
    exact ih h
  | case7 links here rest hhere hnone ih =>
    intro h
    rw [locateFrom_up (hkey.find?_insert_of_some hhere (by simp))]
    exact ih h
  | case9 links here piece rest hhere hnone hup hlimit habsent hlast =>
    intro h
    cases h
    obtain h | ⟨content', h⟩ := hplace
    · cases h
      rw [locateFrom_entry (hkey.find?_insert_of_some hhere (by simp)) ⟨hnone, hup, hlimit⟩ hkey.find?_insert_self
        (by simp), List.isEmpty_iff.mp hlast, locateFrom, hkey.find?_insert_self]
    · cases h
  | case11 links here piece rest hhere hnone hup hlimit target hlink hlast =>
    intro h
    cases h
    rcases hplace with h | ⟨content, h⟩ <;> cases h
  | case13 here piece rest hhere hnone hup hlimit target hlink hlast links ih =>
    intro h
    rw [locateFrom_link (hkey.find?_insert_of_some hhere (by simp)) ⟨hnone, hup, hlimit⟩
      (hkey.find?_insert_of_some hlink (by simp)) hlast]
    exact ih h
  | case14 links here piece rest hhere hnone hup hlimit entry hentry hfound ih =>
    intro h
    by_cases heq : here ++ [piece] = key
    · subst heq
      rw [locateFrom_entry (hkey.find?_insert_of_some hhere (by simp)) ⟨hnone, hup, hlimit⟩ hkey.find?_insert_self
        (by simp)]
      exact ih h
    · have hstays := find?_insert store (here ++ [piece]) key (.file content) hkey.ne_nil
      rw [if_neg heq, hfound] at hstays
      rw [locateFrom_entry (hkey.find?_insert_of_some hhere (by simp)) ⟨hnone, hup, hlimit⟩ hstays hentry]
      exact ih h
  | _ => intro h; cases h

/-- A file is written where one is, or where nothing is and something may be put. -/
theorem write_eq_ok {path : Path} : store.write path content = .ok after ↔ path.endsInSlash = false ∧ ∃ key,
    after = store.insert key (.file content) ∧
      ((∃ kept, store.locate true path = .ok (.found key (.file kept))) ∨
        store.locate true path = .ok (.absent key) ∧ store.isSealed key = false) := by
  rw [write]
  cases hslash : path.endsInSlash with
  | true =>
    cases path.fault? with
    | some fault => simp
    | none => cases store.locate false path.withoutEndSlashes <;> simp
  | false =>
    cases hplace : store.locate true path with
    | error fault => simp
    | ok place =>
      rcases place with ⟨key, kept | _ | target⟩ | key
      · constructor
        · intro h
          cases h
          exact ⟨rfl, key, rfl, .inl ⟨kept, rfl⟩⟩
        · rintro ⟨-, key', rfl, ⟨kept', hfound⟩ | ⟨habsent, -⟩⟩
          · cases hfound
            rfl
          · cases habsent
      · simp
      · simp
      · cases hsealed : store.isSealed key with
        | true => simp [hsealed]
        | false =>
          simp only [hsealed, Bool.false_eq_true, ↓reduceIte, true_and]
          constructor
          · intro h
            cases h
            exact ⟨key, rfl, .inr ⟨rfl, hsealed⟩⟩
          · rintro ⟨key', rfl, ⟨kept', hfound⟩ | ⟨habsent, -⟩⟩
            · cases hfound
            · cases habsent
              rfl

/-- A file that was written has the content that it was given. -/
theorem read_write {path : Path} (h : store.write path content = .ok after) : after.read path = .ok content := by
  obtain ⟨-, key, rfl, hlocate⟩ := write_eq_ok.mp h
  obtain ⟨place, hplace, hkey⟩ : ∃ place, store.locate true path = .ok place ∧
      (place = .absent key ∨ ∃ content, place = .found key (.file content)) := by
    rcases hlocate with ⟨kept, hfound⟩ | ⟨habsent, -⟩
    · exact ⟨_, hfound, .inr ⟨kept, rfl⟩⟩
    · exact ⟨_, habsent, .inl rfl⟩
  have hend : store.IsEnd key := by
    have hholds := holds_of_locate hplace
    rcases hkey with rfl | ⟨content, rfl⟩
    · exact .inl hholds
    · exact .inr ⟨content, hholds⟩
  obtain ⟨hfault, hfrom⟩ := locate_eq_ok hplace
  rw [read, locate, hfault]
  simp only [locateFrom_insert hend hkey hfrom]

theorem fromUTF8?_toUTF8 (text : String) : String.fromUTF8? text.toUTF8 = some text :=
  dif_pos text.isValidUTF8

/-- A text that was written can be read. -/
theorem readText_write {path : Path} {text : String} (h : store.write path text.toUTF8 = .ok after) :
    after.readText path = .ok text := by
  rw [readText, read_write h]
  simp only [fromUTF8?_toUTF8]

end Store

end GoldenBench
