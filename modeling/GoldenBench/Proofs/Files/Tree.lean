import GoldenBench.Proofs.Files.Write
import Mathlib.Data.List.Lex
import Mathlib.Data.String.Basic

/-!
# Plain file trees

A tree is plain if a disk without symbolic links can hold it (`Store.IsPlain`). It stays plain when a file is set
where a file can be (`IsPlain.insert`).

* `IsPlain.filterMap_congr`: what the entries of a plain tree come to is decided by what is found in it.
* `Store.Extends` and `Store.Grows`: a tree holds everything that another one holds.
-/

namespace GoldenBench

/-- A name that a directory can hold. -/
def IsName (name : String) : Prop :=
  name ≠ "" ∧ name ≠ "." ∧ name ≠ ".." ∧ '/' ∉ name.toList ∧ '\x00' ∉ name.toList ∧
    name.utf8ByteSize ≤ Store.nameLimit

instance (name : String) : Decidable (IsName name) :=
  inferInstanceAs (Decidable (_ ∧ _))

/-- The entry is a symbolic link. -/
def Entry.isLink : Entry → Bool
  | .link _ => true
  | _ => false

/-! ## The order of keys -/

theorem Key.before_iff_lt (a b : Key) : a.before b = true ↔ a < b := by
  induction a generalizing b with
  | nil => cases b <;> simp [Key.before]
  | cons x xs ih =>
    cases b with
    | nil => simp [Key.before]
    | cons y ys =>
      rw [Key.before, List.cons_lt_cons_iff]
      by_cases h : x = y
      · simp [h, ih]
      · simp [h]

theorem Key.lt_of_append_lt {top a b : Key} (h : top ++ a < top ++ b) : a < b := by
  induction top with
  | nil => exact h
  | cons name rest ih =>
    rw [List.cons_append, List.cons_append, List.cons_lt_cons_iff] at h
    exact ih (h.resolve_left (lt_irrefl _)).2

namespace Store

variable {store other : Store} {key k : Key} {entry e : Entry} {entries : List (Key × Entry)}

/-- Entries stand in the order of their keys. -/
def Ordered (entries : List (Key × Entry)) : Prop :=
  entries.Pairwise fun a b => a.1.before b.1 = true

theorem Ordered.head_lt (h : Ordered ((k, e) :: entries)) : ∀ item ∈ entries, k < item.1 :=
  fun item hitem => (Key.before_iff_lt k item.1).mp (List.rel_of_pairwise_cons h hitem)

theorem mem_of_lookup (h : lookup key entries = some entry) : (key, entry) ∈ entries := by
  induction entries with
  | nil => cases h
  | cons head rest ih =>
    obtain ⟨k, e⟩ := head
    rw [lookup] at h
    split at h
    · rename_i heq
      cases h
      rw [heq]
      exact List.mem_cons_self
    · exact List.mem_cons_of_mem _ (ih h)

theorem lookup_of_mem (hordered : Ordered entries) (h : (key, entry) ∈ entries) :
    lookup key entries = some entry := by
  induction entries with
  | nil => cases h
  | cons head rest ih =>
    obtain ⟨k, e⟩ := head
    rw [lookup]
    rcases List.mem_cons.mp h with h | h
    · cases h
      exact if_pos rfl
    · have hlt : k < key := hordered.head_lt _ h
      rw [if_neg hlt.ne', ih (List.Pairwise.of_cons hordered) h]

theorem mem_place {item : Key × Entry} (h : item ∈ place key entry entries) :
    item = (key, entry) ∨ item ∈ entries := by
  induction entries with
  | nil => exact .inl (List.mem_singleton.mp h)
  | cons head rest ih =>
    obtain ⟨k, e⟩ := head
    rw [place] at h
    split at h
    · exact (List.mem_cons.mp h).imp_right (List.mem_cons_of_mem _)
    · split at h
      · exact List.mem_cons.mp h
      · rcases List.mem_cons.mp h with h | h
        · exact .inr (h ▸ List.mem_cons_self)
        · exact (ih h).imp_right (List.mem_cons_of_mem _)

/-- An entry is set in its place by order. -/
theorem Ordered.place (h : Ordered entries) (key : Key) (entry : Entry) : Ordered (place key entry entries) := by
  induction entries with
  | nil => exact List.pairwise_singleton _ _
  | cons head rest ih =>
    obtain ⟨k, e⟩ := head
    have hlt := h.head_lt
    rw [Store.place]
    split
    · rename_i heq
      subst heq
      exact List.pairwise_cons.mpr (List.pairwise_cons.mp h)
    · rename_i hne
      split
      · rename_i hbefore
        refine List.pairwise_cons.mpr ⟨fun item hitem => ?_, h⟩
        rcases List.mem_cons.mp hitem with rfl | hitem
        · exact hbefore
        · exact (Key.before_iff_lt _ _).mpr (((Key.before_iff_lt _ _).mp hbefore).trans (hlt item hitem))
      · rename_i hbefore
        have hkey : k < key := lt_of_le_of_ne
          (not_lt.mp fun h => hbefore ((Key.before_iff_lt _ _).mpr h)) (Ne.symm hne)
        refine List.pairwise_cons.mpr ⟨fun item hitem => (Key.before_iff_lt _ _).mpr ?_,
          ih (List.Pairwise.of_cons h)⟩
        rcases mem_place hitem with rfl | hitem
        · exact hkey
        · exact hlt item hitem

/-! ## Plain trees -/

/-- A tree that a disk without symbolic links can hold. -/
structure IsPlain (store : Store) : Prop where
  /-- Entries stand in the order of their keys. -/
  ordered : Ordered store.entries
  /-- Every name is one that a directory can hold. -/
  names : ∀ item ∈ store.entries, ∀ name ∈ item.1, IsName name
  /-- Every entry lies in a directory. -/
  parents : ∀ item ∈ store.entries, item.1 ≠ [] ∧ store.find? item.1.dropLast = some .directory
  /-- No entry is a symbolic link. -/
  no_links : ∀ item ∈ store.entries, item.2.isLink = false

theorem mem_entries_of_find? (h : store.find? key = some entry) (hkey : key ≠ []) : (key, entry) ∈ store.entries := by
  rw [find?, if_neg (by simpa using hkey)] at h
  exact mem_of_lookup h

namespace IsPlain

theorem find?_ne_link (h : store.IsPlain) (key : Key) (target : Path) : store.find? key ≠ some (.link target) := by
  intro hlink
  by_cases hkey : key = []
  · subst hkey
    cases hlink
  · cases h.no_links _ (mem_entries_of_find? hlink hkey)

theorem isName (h : store.IsPlain) (hfind : store.find? key = some entry) : ∀ name ∈ key, IsName name := by
  intro name hname
  exact h.names _ (mem_entries_of_find? hfind (List.ne_nil_of_mem hname)) name hname

theorem find?_dropLast (h : store.IsPlain) (hfind : store.find? key = some entry) (hkey : key ≠ []) :
    store.find? key.dropLast = some .directory :=
  (h.parents _ (mem_entries_of_find? hfind hkey)).2

theorem find?_of_mem (h : store.IsPlain) (hmem : (key, entry) ∈ store.entries) : store.find? key = some entry := by
  rw [find?, if_neg (by simpa using (h.parents _ hmem).1)]
  exact lookup_of_mem h.ordered hmem

/-- What entries come to one by one, with their keys. -/
def counted {α : Type} (f : Key × Entry → Option α) (store : Store) : List (Key × α) :=
  store.entries.filterMap fun item => (f item).map (item.1, ·)

theorem mem_counted {α : Type} {f : Key × Entry → Option α} {a : α} (h : store.IsPlain) :
    (key, a) ∈ counted f store ↔ key ≠ [] ∧ ((store.find? key).bind fun entry => f (key, entry)) = some a := by
  simp only [counted, List.mem_filterMap, Option.map_eq_some_iff, Option.bind_eq_some_iff]
  constructor
  · rintro ⟨⟨k, entry⟩, hmem, b, hb, heq⟩
    cases heq
    exact ⟨(h.parents _ hmem).1, entry, h.find?_of_mem hmem, hb⟩
  · rintro ⟨hkey, entry, hfind, ha⟩
    exact ⟨(key, entry), mem_entries_of_find? hfind hkey, a, ha, rfl⟩

theorem pairwise_counted {α : Type} (f : Key × Entry → Option α) (h : store.IsPlain) :
    (counted f store).Pairwise fun a b => a.1.before b.1 = true := by
  refine List.Pairwise.filterMap _ (fun a b hbefore a' ha b' hb => ?_) h.ordered
  obtain ⟨x, -, rfl⟩ := Option.map_eq_some_iff.mp ha
  obtain ⟨y, -, rfl⟩ := Option.map_eq_some_iff.mp hb
  exact hbefore

/-- What the entries of plain trees come to one by one is decided by what is found in the trees. -/
theorem filterMap_congr {α : Type} {f : Key × Entry → Option α} (h : store.IsPlain) (hother : other.IsPlain)
    (hfind : ∀ key ≠ [], ((store.find? key).bind fun entry => f (key, entry)) =
      (other.find? key).bind fun entry => f (key, entry)) :
    store.entries.filterMap f = other.entries.filterMap f := by
  have nodup : ∀ {s : Store}, s.IsPlain → (counted f s).Nodup := fun hs => by
    refine (pairwise_counted f hs).imp fun {a b} hbefore heq => ?_
    exact lt_irrefl b.1 ((Key.before_iff_lt _ _).mp (heq ▸ hbefore))
  -- both lists have the same items, each of them once, and both stand in the order of their keys
  have hperm : (counted f store).Perm (counted f other) := by
    refine (List.perm_ext_iff_of_nodup (nodup h) (nodup hother)).mpr fun ⟨key, a⟩ => ?_
    rw [mem_counted h, mem_counted hother]
    exact and_congr_right fun hkey => by rw [hfind key hkey]
  have hcounted : counted f store = counted f other :=
    hperm.eq_of_pairwise (fun a b _ _ hab hba => absurd ((Key.before_iff_lt _ _).mp hab)
      (lt_asymm ((Key.before_iff_lt _ _).mp hba))) (pairwise_counted f h) (pairwise_counted f hother)
  have hdrop : ∀ s : Store, s.entries.filterMap f = (counted f s).map (·.2) := fun s => by
    rw [counted, List.map_filterMap]
    congr 1
    funext item
    rw [Option.map_map]
    exact Option.map_id.symm ▸ rfl
  rw [hdrop, hdrop, hcounted]

/-- A tree stays plain when a file is set where a file can be. -/
theorem insert {directory : Key} {name : String} (h : store.IsPlain) (hname : IsName name)
    (hdirectory : store.find? directory = some .directory) (hend : store.IsEnd (directory ++ [name]))
    (content : ByteArray) : (store.insert (directory ++ [name]) (.file content)).IsPlain where
  ordered := h.ordered.place _ _
  names item hitem := by
    rcases mem_place hitem with rfl | hitem
    · intro piece hpiece
      rcases List.mem_append.mp hpiece with hpiece | hpiece
      · exact h.isName hdirectory piece hpiece
      · rwa [List.mem_singleton.mp hpiece]
    · exact h.names item hitem
  parents item hitem := by
    have hkept : ∀ k, store.find? k = some .directory →
        (store.insert (directory ++ [name]) (.file content)).find? k = some .directory :=
      fun k hk => hend.find?_insert_of_some hk (by simp)
    rcases mem_place hitem with rfl | hitem
    · exact ⟨by simp, by simpa using hkept _ hdirectory⟩
    · exact ⟨(h.parents item hitem).1, hkept _ (h.parents item hitem).2⟩
  no_links item hitem := by
    rcases mem_place hitem with rfl | hitem
    · rfl
    · exact h.no_links item hitem

end IsPlain

/-! ## Trees that hold more -/

/-- A tree holds everything that another one holds, as it is there. -/
def Extends (store other : Store) : Prop :=
  ∀ key entry, other.find? key = some entry → store.find? key = some entry

theorem Extends.refl (store : Store) : store.Extends store := fun _ _ h => h

theorem Extends.trans {third : Store} (h : store.Extends other) (hother : other.Extends third) :
    store.Extends third := fun key entry hthird => h key entry (hother key entry hthird)

/-- A file that is set where nothing is takes nothing away. -/
theorem extends_insert (habsent : store.find? key = none) (entry : Entry) : (store.insert key entry).Extends store := by
  intro k e hk
  have hkey : key ≠ [] := by
    rintro rfl
    cases habsent
  rw [find?_insert store k key entry hkey, if_neg, hk]
  rintro rfl
  rw [habsent] at hk
  cases hk

/-- A tree that holds everything that another one held before, and beyond that nothing but files. -/
structure Grows (before after : Store) : Prop where
  /-- Everything is still there. -/
  kept : after.Extends before
  /-- What is new is a file. -/
  added : ∀ key entry, before.find? key = none → after.find? key = some entry → ∃ content, entry = .file content
  /-- The same directories are sealed. -/
  sealed : after.sealed = before.sealed

theorem Grows.refl (store : Store) : Grows store store where
  kept := .refl store
  added key entry hnone hsome := by
    rw [hnone] at hsome
    cases hsome
  sealed := rfl

theorem Grows.trans {third : Store} (h : Grows store other) (hother : Grows other third) : Grows store third where
  kept := hother.kept.trans h.kept
  added key entry hnone hsome := by
    cases hmiddle : other.find? key with
    | none => exact hother.added key entry hmiddle hsome
    | some e =>
      rw [hother.kept key e hmiddle] at hsome
      cases hsome
      exact h.added key entry hnone hmiddle
  sealed := hother.sealed.trans h.sealed

theorem Grows.isSealed_eq (h : Grows store other) (key : Key) : other.isSealed key = store.isSealed key := by
  rw [isSealed, isSealed, h.sealed]

theorem grows_insert (habsent : store.find? key = none) (content : ByteArray) :
    Grows store (store.insert key (.file content)) where
  kept := extends_insert habsent _
  added k e hnone hsome := by
    have hkey : key ≠ [] := by
      rintro rfl
      cases habsent
    rw [find?_insert store k key _ hkey] at hsome
    split at hsome
    · cases hsome
      exact ⟨content, rfl⟩
    · rw [hnone] at hsome
      cases hsome
  sealed := rfl

/-- A tree that has grown has no other directories or links. -/
theorem Grows.find?_iff (h : Grows store other) (hentry : ∀ content, entry ≠ .file content) :
    other.find? key = some entry ↔ store.find? key = some entry := by
  refine ⟨fun hother => ?_, h.kept key entry⟩
  cases hstore : store.find? key with
  | none =>
    obtain ⟨content, rfl⟩ := h.added key entry hstore hother
    exact absurd rfl (hentry content)
  | some e =>
    rw [h.kept key e hstore] at hother
    exact hother

end Store

end GoldenBench
