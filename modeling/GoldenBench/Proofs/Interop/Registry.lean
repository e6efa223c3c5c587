import GoldenBench.Interop.Registry
import Mathlib.Data.List.Nodup
import Mathlib.Data.List.SplitBy
import Mathlib.Data.List.TakeWhile
import Mathlib.Data.Prod.Lex
import Mathlib.Data.String.Basic

/-!
# What a registry holds

Registrations are sorted before those of one name are looked for side by side, so all that share a name are found
(`Registry.clashes_eq_repeated`), and nothing depends on the order in which they are given.

* `Registry.ofEntries_spec`: what is gathered, and what is refused.
-/

namespace GoldenBench

variable {entries run later other sorted : List Registration} {name : String}

namespace Registration

/-- What clashes are listed by: the name, then the file, the line and the column. -/
def place (entry : Registration) : String ×ₗ String ×ₗ Nat ×ₗ Nat :=
  toLex (entry.name, toLex (entry.file, toLex (entry.line, entry.column)))

theorem before_iff (a b : Registration) : a.before b = true ↔ a.place ≤ b.place := by
  rw [before, place, place, Prod.Lex.toLex_le_toLex, Prod.Lex.toLex_le_toLex, Prod.Lex.toLex_le_toLex]
  split
  · rename_i hname
    simp [hname]
  · rename_i hname
    rw [not_not] at hname
    split
    · rename_i hfile
      simp [hname, hfile]
    · rename_i hfile
      rw [not_not] at hfile
      split
      · rename_i hline
        simp [hname, hfile, hline]
      · rename_i hline
        rw [not_not] at hline
        simp [hname, hfile, hline]

theorem name_le_of_place_le {a b : Registration} (h : a.place ≤ b.place) : a.name ≤ b.name := by
  rw [place, place, Prod.Lex.toLex_le_toLex] at h
  exact h.elim le_of_lt fun h => le_of_eq h.1

/-- Registrations at one place are shown alike. -/
theorem display_eq_of_place_eq {a b : Registration} (h : a.place = b.place) : a.display = b.display := by
  simp only [place, EmbeddingLike.apply_eq_iff_eq, Prod.mk.injEq] at h
  obtain ⟨hname, hfile, hline, hcolumn⟩ := h
  rw [display, display, hname, hfile, hline, hcolumn]

end Registration

namespace Registry

/-! ## Runs of one name -/

/-- The registrations whose name another one has too. -/
def repeated (entries : List Registration) : List Registration :=
  entries.filter fun entry => 2 ≤ (entries.map (·.name)).count entry.name

theorem count_run (h : ∀ entry ∈ run, entry.name = name) : (run.map (·.name)).count name = run.length := by
  rw [← List.length_map (f := (·.name)), List.count_eq_length, List.forall_mem_map]
  exact fun entry hentry => (h entry hentry).symm

theorem repeated_run_append (hrun : ∀ entry ∈ run, entry.name = name) (hlater : ∀ entry ∈ later, entry.name ≠ name) :
    repeated (run ++ later) = (if 1 < run.length then run else []) ++ repeated later := by
  have hfirst : ∀ entry ∈ run, ((run ++ later).map (·.name)).count entry.name = run.length := by
    intro entry hentry
    have hnone : (later.map (·.name)).count entry.name = 0 :=
      List.count_eq_zero.mpr (by simpa [hrun entry hentry] using hlater)
    rw [List.map_append, List.count_append, hnone, Nat.add_zero, hrun entry hentry, count_run hrun]
  have hrest : ∀ entry ∈ later, ((run ++ later).map (·.name)).count entry.name =
      (later.map (·.name)).count entry.name := by
    intro entry hentry
    have hnone : (run.map (·.name)).count entry.name = 0 :=
      List.count_eq_zero.mpr fun hmem => by
        obtain ⟨twin, htwin, heq⟩ := List.mem_map.mp hmem
        exact hlater entry hentry (heq ▸ hrun twin htwin)
    rw [List.map_append, List.count_append, hnone, Nat.zero_add]
  rw [repeated, repeated, List.filter_append]
  congr 1
  · rw [List.filter_congr fun entry hentry => by rw [hfirst entry hentry]]
    split
    · rename_i hlong
      exact List.filter_eq_self.mpr fun _ _ => decide_eq_true hlong
    · rename_i hshort
      exact List.filter_eq_nil_iff.mpr fun _ _ => by simpa using Nat.lt_succ_of_le (Nat.not_lt.mp hshort)
  · exact List.filter_congr fun entry hentry => by rw [hrest entry hentry]

theorem clashes_run_append (hne : run ≠ []) (hrun : ∀ entry ∈ run, entry.name = name)
    (hlater : ∀ entry ∈ later, entry.name ≠ name) :
    clashes (run ++ later) = (if 1 < run.length then run else []) ++ clashes later := by
  have hchain : run.IsChain fun a b => (a.name == b.name) = true := by
    refine (List.pairwise_of_forall_mem_list fun a ha b hb => ?_).isChain
    rw [hrun a ha, hrun b hb, beq_self_eq_true]
  have hcut : ∀ a ∈ run.getLast?, ∀ b ∈ later.head?, (a.name == b.name) = false := by
    intro a ha b hb
    rw [hrun a (List.mem_of_getLast? ha)]
    exact beq_eq_false_iff_ne.mpr (hlater b (List.mem_of_mem_head? hb)).symm
  rw [clashes, List.splitBy_append hcut, List.splitBy_of_isChain hne hchain, List.singleton_append, List.filter_cons]
  simp only [decide_eq_true_eq]
  split
  · rw [List.flatten_cons, clashes]
  · rw [List.nil_append, clashes]

/-- In the order of their names, registrations begin with all that have the first name. -/
theorem exists_run {first : Registration} {rest : List Registration}
    (h : (first :: rest).Pairwise fun a b => a.name ≤ b.name) :
    ∃ run later, first :: rest = (first :: run) ++ later ∧ (∀ entry ∈ first :: run, entry.name = first.name) ∧
      ∀ entry ∈ later, entry.name ≠ first.name := by
  obtain ⟨hfirst, hrest⟩ := List.pairwise_cons.mp h
  refine ⟨rest.takeWhile (·.name == first.name), rest.dropWhile (·.name == first.name), ?_, ?_, ?_⟩
  · rw [List.cons_append, List.takeWhile_append_dropWhile]
  · rintro entry (_ | ⟨_, hentry⟩)
    · rfl
    · have hname := List.mem_takeWhile_imp (p := fun entry : Registration => entry.name == first.name) hentry
      exact beq_iff_eq.mp hname
  · have hlater := hrest.sublist (List.dropWhile_sublist (·.name == first.name))
    cases hdrop : rest.dropWhile (·.name == first.name) with
    | nil => simp
    | cons next others =>
      have hnext : next.name ≠ first.name := by
        have hhead := List.head?_dropWhile_not (·.name == first.name) rest
        rw [hdrop] at hhead
        simpa using hhead
      have hmem : next ∈ rest := (List.dropWhile_sublist _).subset (hdrop ▸ List.mem_cons_self)
      have hlt : first.name < next.name := lt_of_le_of_ne (hfirst next hmem) hnext.symm
      rw [hdrop] at hlater
      rintro entry (_ | ⟨_, hentry⟩)
      · exact hnext
      · exact (lt_of_lt_of_le hlt (List.rel_of_pairwise_cons hlater hentry)).ne'

/-- Among registrations in the order of their names, those next to one of the same name are all whose name another one
has too. -/
theorem clashes_eq_repeated (h : sorted.Pairwise fun a b => a.name ≤ b.name) : clashes sorted = repeated sorted := by
  induction hlength : sorted.length using Nat.strong_induction_on generalizing sorted with
  | _ n ih =>
    cases sorted with
    | nil => rfl
    | cons first rest =>
      obtain ⟨run, later, heq, hrun, hlater⟩ := exists_run h
      have hshorter : later.length < n := by
        rw [← hlength, heq, List.cons_append, List.length_cons, List.length_append]
        omega
      rw [heq] at h ⊢
      rw [clashes_run_append (by simp) hrun hlater, repeated_run_append hrun hlater,
        ih _ hshorter (List.pairwise_append.mp h).2.1 rfl]

/-! ## Gathering -/

theorem repeated_perm (h : entries.Perm other) : (repeated entries).Perm (repeated other) := by
  have hcount : ∀ entry ∈ entries, (entries.map (·.name)).count entry.name = (other.map (·.name)).count entry.name :=
    fun entry _ => (h.map _).count_eq _
  rw [repeated, List.filter_congr fun entry hentry => by rw [hcount entry hentry]]
  exact h.filter _

theorem repeated_eq_nil_iff : repeated entries = [] ↔ (entries.map (·.name)).Nodup := by
  rw [repeated, List.filter_eq_nil_iff, List.nodup_iff_count_le_one]
  constructor
  · intro h name
    by_cases hname : name ∈ entries.map (·.name)
    · obtain ⟨entry, hentry, rfl⟩ := List.mem_map.mp hname
      simpa [Nat.lt_succ_iff] using h entry hentry
    · rw [List.count_eq_zero.mpr hname]
      exact Nat.zero_le 1
  · intro h entry _
    simpa [Nat.lt_succ_iff] using h entry.name

/-- Registrations sorted as they are listed. -/
def arranged (entries : List Registration) : List Registration :=
  entries.mergeSort Registration.before

theorem arranged_perm (entries : List Registration) : (arranged entries).Perm entries :=
  List.mergeSort_perm entries Registration.before

theorem pairwise_arranged (entries : List Registration) : (arranged entries).Pairwise fun a b => a.place ≤ b.place := by
  have htrans : ∀ a b c : Registration, a.before b = true → b.before c = true → a.before c = true := by
    simp only [Registration.before_iff]
    exact fun a b c => le_trans
  have htotal : ∀ a b : Registration, (a.before b || b.before a) = true := by
    simp only [Bool.or_eq_true, Registration.before_iff]
    exact fun a b => le_total _ _
  exact (List.pairwise_mergeSort htrans htotal entries).imp fun {a b} h => (Registration.before_iff a b).mp h

theorem clashes_arranged (entries : List Registration) : clashes (arranged entries) = repeated (arranged entries) :=
  clashes_eq_repeated ((pairwise_arranged entries).imp Registration.name_le_of_place_le)

/-- Registrations are gathered if they have different names, and refused otherwise. -/
theorem ofEntries_eq (entries : List Registration) :
    ofEntries entries =
      if (entries.map (·.name)).Nodup then .ok ⟨(arranged entries).map fun entry => (entry.name, entry.runner)⟩
      else .error (repeated (arranged entries)) := by
  have hnames : (clashes (arranged entries)).isEmpty = true ↔ (entries.map (·.name)).Nodup := by
    rw [List.isEmpty_iff, clashes_arranged, repeated_eq_nil_iff, ((arranged_perm entries).map _).nodup_iff]
  rw [ofEntries]
  by_cases h : (entries.map (·.name)).Nodup
  · rw [if_pos h]
    exact if_pos (hnames.mpr h)
  · rw [if_neg h, ← clashes_arranged]
    exact if_neg (mt hnames.mp h)

/-- A runner is found by its name if no other one has it. -/
theorem lookup_of_mem {entry : Registration} (hnames : (entries.map (·.name)).Nodup) (h : entry ∈ entries) :
    (entries.map fun entry => (entry.name, entry.runner)).lookup entry.name = some entry.runner := by
  induction entries with
  | nil => cases h
  | cons first rest ih =>
    rw [List.map_cons, List.nodup_cons] at hnames
    rw [List.map_cons, List.lookup_cons]
    rcases List.mem_cons.mp h with rfl | h
    · rw [beq_self_eq_true]
    · have hne : entry.name ≠ first.name := fun heq => hnames.1 (heq ▸ List.mem_map_of_mem h)
      rw [beq_eq_false_iff_ne.mpr hne]
      exact ih hnames.2 h

/-- With different names there is one order that registrations can be sorted to. -/
theorem arranged_congr (hnames : (entries.map (·.name)).Nodup) (h : entries.Perm other) :
    arranged entries = arranged other := by
  have hplaces : ∀ a ∈ arranged entries, ∀ b ∈ arranged entries, a.place = b.place → a = b := by
    have hinj := List.inj_on_of_nodup_map (((arranged_perm entries).map _).nodup_iff.mpr hnames)
    refine fun a ha b hb heq => hinj ha hb ?_
    exact le_antisymm (Registration.name_le_of_place_le heq.le) (Registration.name_le_of_place_le heq.ge)
  have hperm := (arranged_perm entries).trans (h.trans (arranged_perm other).symm)
  exact hperm.eq_of_pairwise (fun a b ha hb hab hba => hplaces a ha b (hperm.mem_iff.mpr hb) (le_antisymm hab hba))
    (pairwise_arranged entries) (pairwise_arranged other)

theorem display_repeated_arranged (h : entries.Perm other) :
    (repeated (arranged entries)).map (·.display) = (repeated (arranged other)).map (·.display) := by
  have hperm := repeated_perm ((arranged_perm entries).trans (h.trans (arranged_perm other).symm))
  have hplaces : (repeated (arranged entries)).map (·.place) = (repeated (arranged other)).map (·.place) :=
    (hperm.map _).eq_of_pairwise (fun _ _ _ _ => le_antisymm)
      (List.pairwise_map.mpr ((pairwise_arranged entries).filter _))
      (List.pairwise_map.mpr ((pairwise_arranged other).filter _))
  rw [← List.forall₂_eq_eq_eq, List.forall₂_map_left_iff, List.forall₂_map_right_iff] at hplaces ⊢
  exact hplaces.imp fun {a b} => Registration.display_eq_of_place_eq

/-- Registrations are refused just if two or more have one name, and then all whose name is not their own are listed,
as often as they were given, by name, file, line and column. Otherwise each runner is found by its name and nothing by
any other, and the names are listed once, in order. Nothing that is shown depends on the order in which registrations
are given. -/
theorem ofEntries_spec (entries : List Registration) :
    ((∃ clashing, ofEntries entries = .error clashing) ↔ ∃ name, 2 ≤ (entries.map (·.name)).count name) ∧
    (∀ clashing, ofEntries entries = .error clashing →
      clashing.Perm (repeated entries) ∧ clashing.Pairwise fun a b => a.place ≤ b.place) ∧
    (∀ registry, ofEntries entries = .ok registry →
      (∀ entry ∈ entries, registry.get? entry.name = some entry.runner) ∧
      (∀ name ∉ entries.map (·.name), registry.get? name = none) ∧
      registry.names.Perm (entries.map (·.name)) ∧ registry.names.Pairwise (· < ·)) ∧
    ∀ other, entries.Perm other →
      (ofEntries other).mapError (·.map (·.display)) = (ofEntries entries).mapError (·.map (·.display)) := by
  have hperm := (arranged_perm entries).map (·.name)
  refine ⟨?_, ?_, ?_, ?_⟩
  · have hcount : (∃ name, 2 ≤ (entries.map (·.name)).count name) ↔ ¬ (entries.map (·.name)).Nodup := by
      simp [List.nodup_iff_count_le_one, Nat.lt_iff_add_one_le]
    rw [hcount, ofEntries_eq]
    split
    · rename_i hnodup
      simp [hnodup]
    · rename_i hrepeated
      exact ⟨fun _ => hrepeated, fun _ => ⟨_, rfl⟩⟩
  · intro clashing h
    rw [ofEntries_eq] at h
    split at h
    · cases h
    · cases h
      exact ⟨repeated_perm (arranged_perm entries), (pairwise_arranged entries).filter _⟩
  · intro registry h
    rw [ofEntries_eq] at h
    split at h
    · rename_i hnodup
      cases h
      have hnames : names ⟨(arranged entries).map fun entry => (entry.name, entry.runner)⟩ =
          (arranged entries).map (·.name) := List.map_map
      refine ⟨fun entry hentry => ?_, fun name hname => ?_, hnames ▸ hperm, hnames ▸ ?_⟩
      · exact lookup_of_mem (hperm.nodup_iff.mpr hnodup) ((arranged_perm entries).mem_iff.mpr hentry)
      · refine List.lookup_eq_none_iff.mpr fun item hitem => ?_
        obtain ⟨entry, hentry, rfl⟩ := List.mem_map.mp hitem
        refine bne_iff_ne.mpr fun heq => hname (heq ▸ ?_)
        exact List.mem_map_of_mem ((arranged_perm entries).mem_iff.mp hentry)
      · have hle := List.pairwise_map.mpr ((pairwise_arranged entries).imp Registration.name_le_of_place_le)
        exact hle.and (hperm.nodup_iff.mpr hnodup) |>.imp fun h => lt_of_le_of_ne h.1 h.2
    · cases h
  · intro other h
    have hiff := (h.map (·.name)).nodup_iff
    rw [ofEntries_eq, ofEntries_eq]
    by_cases hnodup : (entries.map (·.name)).Nodup
    · rw [if_pos hnodup, if_pos (hiff.mp hnodup), arranged_congr hnodup h]
    · rw [if_neg hnodup, if_neg (mt hiff.mpr hnodup)]
      exact congrArg Except.error (display_repeated_arranged h).symm

end Registry

end GoldenBench
