import GoldenBench.Proofs.Diff.Script
import Mathlib.Data.List.Chain

/-!
# The order of edits

`Orderly edits` says that no removal comes right after an addition. Grouping keeps the order, and it brings all
neighbours of one kind together:

* `Orderly.append`, `Orderly.step`: how orderly edits are put together.
* `exists_head_of_group`, `exists_last_of_group`: segments begin and end as their edits do.
* `group_append`, `group_between`: edits are grouped part by part where the kinds differ.
* `Orderly.group`: neighbouring segments of orderly edits are of different kinds, and in order.
* `kinds_of_changed`: segments like these that are all changed are a removal, an addition, or the one and the other.
-/

namespace GoldenBench.Diff

variable {edits more : List Edit} {kind : Kind}

/-- What may come right before what: no removal comes right after an addition. -/
def InOrder (first second : Kind) : Prop :=
  first = .added → second ≠ .removed

/-- No removal comes right after an addition. -/
def Orderly (edits : List Edit) : Prop :=
  edits.IsChain fun first second => InOrder first.1 second.1

/-- The last edit is of a kind. -/
def EndsWith (kind : Kind) (edits : List Edit) : Prop :=
  ∃ edit ∈ edits.getLast?, edit.1 = kind

theorem kind_of_mem_mark {text : List Char} {edit : Edit} (h : edit ∈ mark kind text) : edit.1 = kind := by
  obtain ⟨c, -, rfl⟩ := List.mem_map.mp h
  rfl

theorem inOrder_self (kind : Kind) : InOrder kind kind := by
  rintro rfl
  decide

theorem orderly_mark (kind : Kind) (text : List Char) : Orderly (mark kind text) := by
  refine List.Pairwise.isChain (List.pairwise_of_forall_mem_list fun first hf second hs => ?_)
  rw [kind_of_mem_mark hf, kind_of_mem_mark hs]
  exact inOrder_self kind

theorem not_endsWith_mark {other : Kind} (h : kind ≠ other) (text : List Char) : ¬ EndsWith other (mark kind text) := by
  rintro ⟨edit, he, hk⟩
  exact h ((kind_of_mem_mark (List.mem_of_mem_getLast? he)).symm.trans hk)

/-- Orderly edits after which no removal comes too soon. -/
theorem Orderly.append (h : Orderly edits) (h' : Orderly more)
    (hbetween : EndsWith .added edits → ∀ edit ∈ more.head?, edit.1 ≠ .removed) : Orderly (edits ++ more) :=
  List.isChain_append.mpr ⟨h, h', fun last hl _ hf hadded => hbetween ⟨last, hl, hadded⟩ _ hf⟩

/-- A change and a text that is kept, after orderly edits. -/
theorem Orderly.step (h : Orderly edits) (hremoved : kind = .removed → ¬ EndsWith .added edits) (c : Char)
    (text : List Char) : Orderly (edits ++ [(kind, c)] ++ mark .unchanged text) := by
  refine (h.append (List.isChain_singleton _) fun hadded edit he => ?_).append (orderly_mark _ text) fun _ edit he => ?_
  · cases he
    exact fun hk => hremoved hk hadded
  · rw [kind_of_mem_mark (List.mem_of_mem_head? he)]
    decide

/-- Orderly edits between two texts that are kept. -/
theorem Orderly.between (h : Orderly edits) (p s : List Char) :
    Orderly (mark .unchanged p ++ edits ++ mark .unchanged s) := by
  refine ((orderly_mark _ p).append h fun hadded => ?_).append (orderly_mark _ s) fun _ edit he => ?_
  · exact absurd hadded (not_endsWith_mark (by decide) p)
  · rw [kind_of_mem_mark (List.mem_of_mem_head? he)]
    decide

/-- A change and a text that is kept end with the change only if the text is empty. -/
theorem eq_of_endsWith_step {other : Kind} (hother : other ≠ .unchanged) {c : Char} {text : List Char}
    (h : EndsWith other (edits ++ [(kind, c)] ++ mark .unchanged text)) : text = [] ∧ kind = other := by
  obtain ⟨edit, he, hk⟩ := h
  rcases List.eq_nil_or_concat' text with rfl | ⟨text, e, rfl⟩
  · simp only [mark, List.map_nil, List.append_nil, List.getLast?_concat, Option.mem_some_iff] at he
    subst he
    exact ⟨rfl, hk⟩
  · rw [mark, List.map_append, ← List.append_assoc, List.map_singleton, List.getLast?_concat,
      Option.mem_some_iff] at he
    subst he
    exact absurd hk.symm hother

/-! ## Grouping -/

theorem attach_ne_nil (edit : Edit) (segments : List Segment) : attach edit segments ≠ [] := by
  cases segments with
  | nil => exact List.cons_ne_nil _ _
  | cons segment rest =>
    rw [attach]
    split <;> exact List.cons_ne_nil _ _

theorem group_ne_nil (h : edits ≠ []) : group edits ≠ [] := by
  cases edits with
  | nil => exact absurd rfl h
  | cons edit edits => exact attach_ne_nil edit (group edits)

/-- Segments begin as their edits do. -/
theorem exists_head_of_group {segment : Segment} (h : segment ∈ (group edits).head?) :
    ∃ edit ∈ edits.head?, edit.1 = segment.kind := by
  cases edits with
  | nil => cases h
  | cons edit edits => exact ⟨edit, rfl, (kind_of_mem_head?_attach h).symm⟩

/-- Segments end as their edits do. -/
theorem exists_last_of_group {segment : Segment} (h : segment ∈ (group edits).getLast?) :
    ∃ edit ∈ edits.getLast?, edit.1 = segment.kind := by
  induction edits generalizing segment with
  | nil => cases h
  | cons edit edits ih =>
    cases edits with
    | nil =>
      cases h
      exact ⟨edit, rfl, rfl⟩
    | cons next edits =>
      rw [List.getLast?_cons_cons]
      obtain ⟨first, rest, hg⟩ := List.exists_cons_of_ne_nil (group_ne_nil (List.cons_ne_nil next edits))
      rw [hg] at ih
      have h : segment ∈ (attach edit (group (next :: edits))).getLast? := h
      rw [hg, attach] at h
      split at h
      · rename_i hk
        cases rest with
        | nil =>
          cases h
          obtain ⟨last, hl, hkind⟩ := ih rfl
          exact ⟨last, hl, hkind.trans hk⟩
        | cons second rest => exact ih h
      · exact ih h

theorem attach_append {edit : Edit} {segments : List Segment} (h : segments ≠ []) (rest : List Segment) :
    attach edit (segments ++ rest) = attach edit segments ++ rest := by
  cases segments with
  | nil => exact absurd rfl h
  | cons segment segments =>
    simp only [List.cons_append, attach]
    split <;> rfl

/-- Edits are grouped part by part where the kinds differ. -/
theorem group_append (h : ∀ last ∈ edits.getLast?, ∀ first ∈ more.head?, last.1 ≠ first.1) :
    group (edits ++ more) = group edits ++ group more := by
  induction edits with
  | nil => rfl
  | cons edit edits ih =>
    show attach edit (group (edits ++ more)) = attach edit (group edits) ++ group more
    cases edits with
    | nil =>
      refine attach_of_ne fun segment hs hk => ?_
      obtain ⟨first, hf, hkind⟩ := exists_head_of_group hs
      exact h edit rfl first hf (hk.symm.trans hkind.symm)
    | cons next edits => rw [ih h, attach_append (group_ne_nil (List.cons_ne_nil next edits))]

/-- A marked text is one piece. -/
theorem group_mark (kind : Kind) (text : List Char) : group (mark kind text) = piece kind text := by
  induction text with
  | nil => rfl
  | cons c text ih =>
    show attach (kind, c) (group (mark kind text)) = piece kind (c :: text)
    rw [ih]
    cases text with
    | nil => rfl
    | cons e text => simp [piece, attach]

/-- Edits that begin and end with a change, between two texts that are kept. -/
theorem group_between (hnone : edits ≠ []) (hfirst : ∀ edit ∈ edits.head?, edit.1 ≠ .unchanged)
    (hlast : ∀ edit ∈ edits.getLast?, edit.1 ≠ .unchanged) (p s : List Char) :
    group (mark .unchanged p ++ edits ++ mark .unchanged s) =
      piece .unchanged p ++ group edits ++ piece .unchanged s := by
  rw [group_append, group_append, group_mark, group_mark]
  · intro last hl first hf
    rw [kind_of_mem_mark (List.mem_of_mem_getLast? hl)]
    exact (hfirst first hf).symm
  · intro last hl first hf
    rw [kind_of_mem_mark (List.mem_of_mem_head? hf)]
    rw [List.getLast?_append_of_ne_nil _ hnone] at hl
    exact hlast last hl

/-- Neighbouring segments of orderly edits are of different kinds, and in order. -/
theorem Orderly.group (h : Orderly edits) :
    (group edits).IsChain fun first second => first.kind ≠ second.kind ∧ InOrder first.kind second.kind := by
  induction edits with
  | nil => exact .nil
  | cons edit edits ih =>
    obtain ⟨hnext, hrest⟩ := List.isChain_cons.mp h
    specialize ih hrest
    show (attach edit (Diff.group edits)).IsChain _
    cases hg : Diff.group edits with
    | nil => exact .singleton _
    | cons segment rest =>
      rw [hg] at ih
      rw [attach]
      split
      · rename_i hk
        rw [List.isChain_cons] at ih ⊢
        exact ⟨fun second hs => hk ▸ ih.1 second hs, ih.2⟩
      · rename_i hk
        have hfirst : segment ∈ (Diff.group edits).head? := by
          rw [hg]
          rfl
        obtain ⟨next, hn, hkind⟩ := exists_head_of_group hfirst
        exact List.isChain_cons_cons.mpr ⟨⟨fun heq => hk heq.symm, hkind ▸ hnext next hn⟩, ih⟩

/-- Changed segments of different kinds and in order are a removal, an addition, or a removal and then an addition. -/
theorem kinds_of_changed {segments : List Segment}
    (h : segments.IsChain fun first second => first.kind ≠ second.kind ∧ InOrder first.kind second.kind)
    (hnone : segments ≠ []) (hchanged : ∀ segment ∈ segments, segment.kind ≠ .unchanged) :
    segments.map (·.kind) = [.removed] ∨ segments.map (·.kind) = [.added] ∨
      segments.map (·.kind) = [.removed, .added] := by
  -- of two neighbours the first is the removal, so that a third has no kind left
  have pair : ∀ {first second : Segment}, first.kind ≠ .unchanged → second.kind ≠ .unchanged →
      first.kind ≠ second.kind ∧ InOrder first.kind second.kind →
      first.kind = .removed ∧ second.kind = .added := by
    intro first second hf hs ⟨hne, horder⟩
    unfold InOrder at horder
    cases hk : first.kind <;> cases hk' : second.kind <;> simp_all
  match segments with
  | [] => exact absurd rfl hnone
  | [only] =>
    have := hchanged only (by simp)
    cases hk : only.kind <;> simp_all
  | first :: second :: rest =>
    obtain ⟨hpair, hrest⟩ := List.isChain_cons_cons.mp h
    obtain ⟨hf, hs⟩ := pair (hchanged first (by simp)) (hchanged second (by simp)) hpair
    match rest with
    | [] => exact .inr (.inr (by simp [hf, hs]))
    | third :: rest =>
      have := pair (hchanged second (by simp)) (hchanged third (by simp)) (List.isChain_cons_cons.mp hrest).1
      simp [hs] at this

end GoldenBench.Diff
