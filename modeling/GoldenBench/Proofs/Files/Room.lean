import GoldenBench.Proofs.Files.Scratch

/-!
# Room for scratch directories

A number that is free is small in a tree with few entries, so a scratch directory by that name can be filled
(`Scratch.Stands`) unless its directory is sealed.

* `Store.Roomy`: a tree in which scratch directories can be made and filled.
* `Store.Roomy.exists_scratch`: one is made there.
* `Store.extends_restore`: what is put back below a free place takes nothing away.
-/

namespace GoldenBench

/-- Files can be put into a scratch directory. -/
structure Scratch.Stands (files : Store) (scratch : Scratch) : Prop where
  /-- It lies where its path says, and its number is not too long. -/
  lies : ∃ directory number, scratch.Lies files directory number ∧ number.utf8ByteSize ≤ Store.nameLimit
  /-- It is not sealed. -/
  unsealed : scratch.key ∉ files.sealed

namespace Scratch.Stands

variable {files : Store} {scratch : Scratch} {name : String} {content : ByteArray}

theorem insert (h : scratch.Stands files) (hnone : files.find? (scratch.key ++ [name]) = none) (content : ByteArray) :
    scratch.Stands (files.insert (scratch.key ++ [name]) (.file content)) := by
  obtain ⟨⟨directory, number, hlies, hshort⟩, hopen⟩ := h
  exact ⟨⟨directory, number, hlies.keeps (Store.extends_insert hnone _).keeps, hshort⟩, hopen⟩

theorem write (h : scratch.Stands files) (hname : IsName name) (hnone : files.find? (scratch.key ++ [name]) = none)
    (content : ByteArray) :
    files.write (scratch.path.join ⟨name⟩) content = .ok (files.insert (scratch.key ++ [name]) (.file content)) := by
  obtain ⟨⟨directory, number, hlies, hshort⟩, hopen⟩ := h
  exact hlies.write hshort hname hnone (by simp [Store.isSealed, hopen]) content

theorem read (h : scratch.Stands files) (hname : IsName name)
    (hfile : files.find? (scratch.key ++ [name]) = some (.file content)) :
    files.read (scratch.path.join ⟨name⟩) = .ok content := by
  obtain ⟨⟨directory, number, hlies, hshort⟩, -⟩ := h
  exact hlies.read hshort hname hfile

end Scratch.Stands

namespace Store

variable {files : Store} {room : Nat} {key : Key} {parcel : Parcel}

/-- Scratch directories can be made and filled, and the tree has no more than so many entries. -/
structure Roomy (room : Nat) (files : Store) : Prop where
  /-- There is a directory for scratch directories, and nothing in it is sealed. -/
  root : ∃ directory, files.locate true Run.scratchRoot.path = .ok (.found directory .directory) ∧
    ∀ key ∈ files.sealed, ¬ directory <+: key
  /-- Numbers that are free are short. -/
  few : files.entries.length ≤ room

theorem freeNumber_le (files : Store) (directory : Key) (n : Nat) :
    files.freeNumber directory n ≤ n + files.entries.length := by
  rw [freeNumber]
  cases hfind : (List.range' n (files.entries.length + 1)).find? fun m => files.isFree (directory ++ [toString m]) with
  | none => simp
  | some m =>
    have hmem := List.mem_range'_1.mp (List.mem_of_find?_eq_some hfind)
    rw [Option.getD_some]
    omega

theorem sealed_restore (files : Store) (parcel : Parcel) : (files.restore parcel).sealed = files.sealed := by
  induction parcel generalizing files with
  | nil => rfl
  | cons item rest ih => exact ih (files.insert item.1 item.2)

theorem length_restore_le (files : Store) (parcel : Parcel) :
    (files.restore parcel).entries.length ≤ files.entries.length + parcel.length := by
  induction parcel generalizing files with
  | nil => exact Nat.le_refl _
  | cons item rest ih =>
    have hrest := ih (files.insert item.1 item.2)
    have hfirst := length_place_le item.1 item.2 files.entries
    calc (files.restore (item :: rest)).entries.length
      _ ≤ (files.insert item.1 item.2).entries.length + rest.length := hrest
      _ ≤ files.entries.length + 1 + rest.length := Nat.add_le_add_right hfirst _
      _ = files.entries.length + (item :: rest).length := by rw [List.length_cons]; omega

/-- What is put back below a place changes nothing elsewhere. -/
theorem find?_restore {k : Key} (hkey : key ≠ []) (h : ∀ item ∈ parcel, key <+: item.1) (hk : ¬ key <+: k) :
    (files.restore parcel).find? k = files.find? k := by
  induction parcel generalizing files with
  | nil => rfl
  | cons item rest ih =>
    have hitem := h item List.mem_cons_self
    have hne : item.1 ≠ [] := fun hnil => hkey (List.prefix_nil.mp (hnil ▸ hitem))
    have hrest := @ih (files.insert item.1 item.2) fun item hitem => h item (List.mem_cons_of_mem _ hitem)
    refine hrest.trans ?_
    rw [find?_insert _ _ _ _ hne, if_neg]
    rintro rfl
    exact hk hitem

/-- What is put back below a free place takes nothing away. -/
theorem extends_restore (hfree : files.isFree key = true) (hkey : key ≠ []) (h : ∀ item ∈ parcel, key <+: item.1) :
    (files.restore parcel).Extends files := by
  intro k entry hk
  rw [find?_restore hkey h, hk]
  intro hprefix
  rw [find?_of_isFree hfree hkey hprefix] at hk
  cases hk

namespace Roomy

theorem grown {after : Store} {more : Nat} (h : files.Roomy room) (hextends : after.Extends files)
    (hsealed : after.sealed = files.sealed) (hfew : after.entries.length ≤ more) : after.Roomy more := by
  obtain ⟨⟨directory, hlocate, hopen⟩, -⟩ := h
  exact ⟨⟨directory, locate_keeps hextends.keeps (hextends _ _ (holds_of_locate hlocate)) hlocate, hsealed ▸ hopen⟩,
    hfew⟩

end Roomy

end Store

/-- In a roomy tree a scratch directory can be made and filled. -/
theorem Store.Roomy.exists_scratch {room : Nat} {workspace : Workspace} (h : workspace.files.Roomy room)
    (hroom : room ≤ 10 ^ 50) : ∃ scratch start, Errand.makeScratch workspace = (.ok scratch, start) ∧
      scratch.Stands start.files := by
  obtain ⟨⟨directory, hlocate, hopen⟩, hfew⟩ := h
  obtain ⟨number, hnumber, hmade⟩ := Errand.makeScratch_eq hlocate fun hmem => hopen _ hmem List.prefix_rfl
  refine ⟨_, _, hmade, ?_, fun hmem => hopen _ hmem (List.prefix_append _ _)⟩
  obtain ⟨top, name, hlies, -⟩ := Errand.makeScratch_ok hmade
  have hname : number = name := by
    have hkey := congrArg Scratch.key hlies.eq
    exact List.singleton_inj.mp (List.append_inj' hkey rfl).2
  have hle := workspace.files.freeNumber_le directory (workspace.scratches % Run.scratchCycle)
  have hcycle : workspace.scratches % Run.scratchCycle < 1000000 := Nat.mod_lt _ (by decide)
  have hshort : number.utf8ByteSize ≤ 4 * 51 := hnumber ▸ utf8ByteSize_toString_le (by decide) (by omega)
  exact ⟨top, name, hlies, hname ▸ hshort.trans (by decide)⟩

end GoldenBench
