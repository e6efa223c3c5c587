import GoldenBench.Proofs.Files.Sources

/-!
# Trees that differ at the ends of some paths

Two trees may differ in whether there is a file where a path ends, and in what the file holds, and agree everywhere
else (`Store.DifferAt`). Other paths lead to the same in both.

* `Store.endsAt_iff`: a path ends where its last piece is a name in the directory that it leads to.
* `Store.DifferAt.locate_eq`: where a path leads that ends elsewhere.
* `Store.DifferAt.grows`: trees that grow stay apart as they are.
-/

namespace GoldenBench.Store

open GoldenBench.Path (named)

variable {store other after : Store} {path : Path} {paths : List Path} {key directory : Key} {name extension : String}
  {stem : List Char}

/-! ## Ends of paths -/

/-- A path leads to a file, or to a name that its directory does not hold. -/
def EndsAt (store : Store) (path : Path) (key : Key) : Prop :=
  store.locate true path = .ok (.absent key) ∨ ∃ content, store.locate true path = .ok (.found key (.file content))

theorem EndsAt.isEnd (h : store.EndsAt path key) : store.IsEnd key := by
  rcases h with habsent | ⟨content, hfound⟩
  · exact .inl (holds_of_locate habsent)
  · exact .inr ⟨content, holds_of_locate hfound⟩

theorem IsEnd.ne_directory (h : store.IsEnd key) : store.find? key ≠ some .directory := by
  intro hdirectory
  rcases h with hnone | ⟨content, hfile⟩
  · rw [hnone] at hdirectory
    cases hdirectory
  · rw [hfile] at hdirectory
    cases hdirectory

theorem IsEnd.grows (h : store.IsEnd key) (hgrows : Grows store after) : after.IsEnd key := by
  rcases h with hnone | ⟨content, hfile⟩
  · cases hafter : after.find? key with
    | none => exact .inl hafter
    | some entry =>
      obtain ⟨content, rfl⟩ := hgrows.added key entry hnone hafter
      exact .inr ⟨content, hafter⟩
  · exact .inr ⟨content, hgrows.kept _ _ hfile⟩

/-- The last piece of a path is one that a path can end with. -/
def CanEnd (path : Path) (name : String) : Prop :=
  path.fault? = none ∧ name ≠ ".." ∧ name.utf8ByteSize ≤ nameLimit

/-- Where a path ends. -/
theorem endsAt_iff (hplain : store.IsPlain) (hleads : store.Leads path directory name)
    (hname : name ≠ "" ∧ name ≠ ".") :
    store.EndsAt path key ↔ CanEnd path name ∧ key = directory ++ [name] ∧ store.IsEnd key := by
  by_cases hfault : path.fault? = none
  case neg =>
    obtain ⟨fault, hfault⟩ := Option.ne_none_iff_exists'.mp hfault
    simp [EndsAt, CanEnd, locate_of_fault hfault, hfault]
  rw [EndsAt, locate_of_leads hleads hname (hplain.find?_ne_link _) hfault, lookIn, CanEnd]
  split_ifs with hup hlimit
  · simp [hup, hplain.find?_above hleads.find?_directory]
  · simp [Nat.not_le.mpr hlimit]
  · have hcan : path.fault? = none ∧ name ≠ ".." ∧ name.utf8ByteSize ≤ nameLimit :=
      ⟨hfault, hup, Nat.not_lt.mp hlimit⟩
    cases hfind : store.find? (directory ++ [name]) with
    | none =>
      constructor
      · rintro (habsent | ⟨content, hfound⟩)
        · cases habsent
          exact ⟨hcan, rfl, .inl hfind⟩
        · cases hfound
      · rintro ⟨-, rfl, -⟩
        exact .inl rfl
    | some entry =>
      constructor
      · rintro (habsent | ⟨content, hfound⟩)
        · cases habsent
        · cases hfound
          exact ⟨hcan, rfl, .inr ⟨content, hfind⟩⟩
      · rintro ⟨-, rfl, hnone | ⟨content, hfile⟩⟩
        · rw [hfind] at hnone
          cases hnone
        · rw [hfind] at hfile
          cases hfile
          exact .inr ⟨content, rfl⟩

/-- A path ends where it ended once its tree has grown. -/
theorem EndsAt.grows (h : store.EndsAt path key) (hplain : store.IsPlain) (hafter : after.IsPlain)
    (hgrows : Grows store after) (hleads : store.Leads path directory name) (hname : name ≠ "" ∧ name ≠ ".") :
    after.EndsAt path key := by
  obtain ⟨hcan, hkey, hend⟩ := (endsAt_iff hplain hleads hname).mp h
  exact (endsAt_iff hafter (hleads.keeps hgrows.kept.keeps) hname).mpr ⟨hcan, hkey, hend.grows hgrows⟩

/-! ## Trees that differ -/

/-- Trees differ at most in the files that some paths lead to. -/
structure DifferAt (paths : List Path) (store other : Store) : Prop where
  /-- A place holds the same in both, or one of the paths ends there. -/
  places : ∀ key, store.find? key = other.find? key ∨ ∃ path ∈ paths, store.EndsAt path key ∧ other.EndsAt path key
  /-- The same directories are sealed. -/
  sealed : store.sealed = other.sealed

namespace DifferAt

theorem symm (h : DifferAt paths store other) : DifferAt paths other store where
  places key := (h.places key).imp Eq.symm fun ⟨path, hpath, hends, hends'⟩ => ⟨path, hpath, hends', hends⟩
  sealed := h.sealed.symm

/-- The directories are the same. -/
theorem directory_iff (h : DifferAt paths store other) (key : Key) :
    store.find? key = some .directory ↔ other.find? key = some .directory := by
  rcases h.places key with hsame | ⟨path, -, hends, hends'⟩
  · rw [hsame]
  · exact ⟨fun hdirectory => absurd hdirectory hends.isEnd.ne_directory,
      fun hdirectory => absurd hdirectory hends'.isEnd.ne_directory⟩

/-- What a path can end with is the end of it in both trees or in neither. -/
theorem isEnd_iff (h : DifferAt paths store other) (key : Key) : store.IsEnd key ↔ other.IsEnd key := by
  rcases h.places key with hsame | ⟨path, -, hends, hends'⟩
  · rw [IsEnd, IsEnd, hsame]
  · exact ⟨fun _ => hends'.isEnd, fun _ => hends.isEnd⟩

theorem keeps (h : DifferAt paths store other) (hother : other.IsPlain) : store.Keeps other := by
  intro key entry hentry hfind
  cases entry with
  | file content => exact absurd rfl (hentry content)
  | directory => exact (h.directory_iff key).mpr hfind
  | link target => exact absurd hfind (hother.find?_ne_link key target)

/-- A path ends at the same place in both trees. -/
theorem endsAt_iff (h : DifferAt paths store other) (hplain : store.IsPlain) (hother : other.IsPlain)
    (hleads : store.Leads path directory name) (hname : name ≠ "" ∧ name ≠ ".") :
    store.EndsAt path key ↔ other.EndsAt path key := by
  rw [Store.endsAt_iff hplain hleads hname,
    Store.endsAt_iff hother (hleads.keeps (h.symm.keeps hplain)) hname, h.isEnd_iff]

/-- A path leads to the same in both trees unless one of the others ends there. -/
theorem locate_eq (h : DifferAt paths store other) (hplain : store.IsPlain) (hother : other.IsPlain)
    (hleads : store.Leads path directory name) (hname : name ≠ "" ∧ name ≠ ".")
    (helse : ∀ own ∈ paths, ¬ store.EndsAt own (directory ++ [name])) (followLast : Bool) :
    store.locate followLast path = other.locate followLast path := by
  have hsame : store.find? (directory ++ [name]) = other.find? (directory ++ [name]) :=
    (h.places _).resolve_right fun ⟨own, hown, hends, _⟩ => helse own hown hends
  have habove := hplain.find?_above hleads.find?_directory
  cases hfault : path.fault? with
  | some fault => rw [locate_of_fault hfault, locate_of_fault hfault]
  | none =>
    rw [locate_of_leads hleads hname (hplain.find?_ne_link _) hfault,
      locate_of_leads (hleads.keeps (h.symm.keeps hplain)) hname (hother.find?_ne_link _) hfault, lookIn, lookIn, hsame,
      habove, (h.directory_iff _).mp habove]

/-- A source that lies in both trees lies at the same place in both. -/
theorem lies {directory' : Key} {stem' : List Char} (h : DifferAt paths store other) (hplain : store.IsPlain)
    (hlies : store.Lies path directory stem extension) (hlies' : other.Lies path directory' stem' extension) :
    other.Lies path directory stem extension := by
  obtain ⟨rfl, hname⟩ := (hlies.leads.keeps (h.symm.keeps hplain)).unique hlies'.leads
  rwa [Path.named_injective hname]

/-- There are the same sources in both trees, if none of the paths ends where only one of them has a source. -/
theorem sameSources (h : DifferAt paths store other)
    (hpaths : ∀ path ∈ paths, ∀ directory stem, stem ≠ [] → store.EndsAt path (directory ++ [named stem extension]) →
      (∃ content, store.find? (directory ++ [named stem extension]) = some (.file content)) ∧
        ∃ content, other.find? (directory ++ [named stem extension]) = some (.file content)) :
    SameSources extension store other where
  directories := h.directory_iff
  files directory stem hstem := by
    rcases h.places (directory ++ [named stem extension]) with hsame | ⟨path, hpath, hends, -⟩
    · rw [hsame]
    · obtain ⟨hfile, hfile'⟩ := hpaths path hpath directory stem hstem hends
      exact ⟨fun _ => hfile', fun _ => hfile⟩

/-- Trees that grow stay apart as they are, as long as they come to the same wherever one of them grows, or grow where
one of the paths ends. -/
theorem grows {after' : Store} (h : DifferAt paths store other) (hplain : store.IsPlain) (hother : other.IsPlain)
    (hafter : after.IsPlain) (hafter' : after'.IsPlain) (hgrows : Grows store after) (hgrows' : Grows other after')
    (hpaths : ∀ path ∈ paths, ∃ directory name, store.Leads path directory name ∧ name ≠ "" ∧ name ≠ ".")
    (hnew : ∀ key, after.find? key = after'.find? key ∨
      (store.find? key = after.find? key ∧ other.find? key = after'.find? key) ∨
      ∃ path ∈ paths, store.EndsAt path key) : DifferAt paths after after' := by
  have hends : ∀ key, (∃ path ∈ paths, store.EndsAt path key) →
      ∃ path ∈ paths, after.EndsAt path key ∧ after'.EndsAt path key := by
    rintro key ⟨path, hpath, hends⟩
    obtain ⟨directory, name, hleads, hname⟩ := hpaths path hpath
    have hends' := (h.endsAt_iff hplain hother hleads hname).mp hends
    exact ⟨path, hpath, hends.grows hplain hafter hgrows hleads hname,
      hends'.grows hother hafter' hgrows' (hleads.keeps (h.symm.keeps hplain)) hname⟩
  refine ⟨fun key => ?_, by rw [hgrows.sealed, hgrows'.sealed, h.sealed]⟩
  rcases hnew key with hsame | ⟨hstays, hstays'⟩ | hown
  · exact .inl hsame
  · rw [← hstays, ← hstays']
    exact (h.places key).imp_right fun ⟨path, hpath, hown, _⟩ => hends key ⟨path, hpath, hown⟩
  · exact .inr (hends key hown)

end DifferAt

end GoldenBench.Store
