import GoldenBench.Proofs.Colour.Removal
import GoldenBench.Proofs.Golden
import GoldenBench.Proofs.Isolation.Steps

/-!
# A coloured and a plain run side by side

Both runs start from the same world, in which no text in a file has colour. As long as nothing that is read or answered
brings colour in, they go through the same worlds, and only what they answer differs.

* `Store.Colourless`, `Errand.Colourless`: file trees, and errands that keep them so where they are sent.
* `Run.Tinted`: a coloured step and a plain one that start in one world, with one lemma for each way to put steps
  together.
-/

namespace GoldenBench

open Ansi (Colourless)

variable {α α' β β' γ : Type}

/-- No text in a file has colour. -/
def Store.Colourless (files : Store) : Prop :=
  ∀ key content text, files.find? key = some (.file content) → String.fromUTF8? content = some text →
    Ansi.Colourless text

namespace Store

variable {files after : Store} {path : Path} {text : String}

/-- A tree of files that hold texts without colour. -/
theorem colourless_of_entries (h : ∀ item ∈ files.entries, ∀ content, item.2 = .file content →
    ∃ text : String, content = text.toUTF8 ∧ Ansi.Colourless text) : files.Colourless := by
  intro key content text hfind hvalid
  have hkey : key ≠ [] := by
    rintro rfl
    cases hfind
  obtain ⟨kept, rfl, hkept⟩ := h _ (mem_entries_of_find? hfind hkey) content rfl
  cases (fromUTF8?_toUTF8 kept).symm.trans hvalid
  exact hkept

theorem Colourless.readText (h : files.Colourless) (hread : files.readText path = .ok text) :
    Ansi.Colourless text := by
  unfold Store.readText Store.read at hread
  cases hplace : files.locate true path with
  | error fault => simp [hplace] at hread
  | ok place =>
    rcases place with ⟨key, content | _ | target⟩ | key
    · have hfind : files.find? key = some (.file content) := holds_of_locate hplace
      cases htext : String.fromUTF8? content with
      | none => simp [hplace, htext] at hread
      | some text' =>
        simp only [hplace, htext, Except.ok.injEq] at hread
        subst hread
        exact h key content text' hfind htext
    · simp [hplace] at hread
    · simp [hplace] at hread
    · simp [hplace] at hread

/-- A tree stays without colour if such a text is put into it. -/
theorem Colourless.insert (h : files.Colourless) (htext : Ansi.Colourless text) (key : Key) :
    (files.insert key (.file text.toUTF8)).Colourless := by
  intro k content text' hfind hvalid
  by_cases hk : k = []
  · subst hk
    cases hfind
  by_cases heq : k = key
  · subst heq
    rw [find?_insert files k k _ hk, if_pos rfl] at hfind
    cases hfind
    cases (fromUTF8?_toUTF8 text).symm.trans hvalid
    exact htext
  · have hother : files.find? k = some (.file content) := by
      unfold find? Store.insert at hfind
      unfold find?
      rwa [lookup_place, if_neg heq] at hfind
    exact h k content text' hother hvalid

theorem Colourless.write (h : files.Colourless) (htext : Ansi.Colourless text)
    (hwrite : files.write path text.toUTF8 = .ok after) : after.Colourless := by
  obtain ⟨-, key, rfl, -⟩ := write_eq_ok.mp hwrite
  exact h.insert htext key

end Store

/-- An answer is as it should be, or it is an error that is worded without colour. -/
def Words (wording : β → String) (P : α → Prop) : Except β α → Prop
  | .ok answer => P answer
  | .error fault => Colourless (wording fault)

/-- What an errand answers in a workspace is as it should be, and it brings no colour into the file tree. -/
structure Errand.Colourless (P : α → Prop) (errand : Errand α) (workspace : Workspace) : Prop where
  /-- The answer. -/
  answer : P (errand workspace).1
  /-- The files that it leaves. -/
  left : workspace.files.Colourless → (errand workspace).2.files.Colourless

/-- Both runs answer the same, and the answer is as it should be. -/
def Shared (P : α → Prop) (answer answer' : α) : Prop :=
  answer = answer' ∧ P answer

namespace Run

/-- A coloured step and a plain one that start in a world leave the same world, without colour in its files, and their
answers are related. -/
def Tinted (R : α → β → Prop) (coloured : Run α) (plain : Run β) (world : World) : Prop :=
  world.files.Colourless →
    R (coloured world).1 (plain world).1 ∧ (coloured world).2 = (plain world).2 ∧ (plain world).2.files.Colourless

variable {R : α → β → Prop} {world : World}

theorem tinted_pure {a : α} {b : β} (h : R a b) : Tinted R (pure a) (pure b) world := fun hfiles => ⟨h, rfl, hfiles⟩

/-- What follows need only be tinted in the world that the plain step leaves. -/
theorem Tinted.bind {S : α' → β' → Prop} {coloured : Run α} {plain : Run β} {next : α → Run α'}
    {next' : β → Run β'} (h : Tinted R coloured plain world)
    (hnext : ∀ a b, R a b → Tinted S (next a) (next' b) (plain world).2) :
    Tinted S (coloured >>= next) (plain >>= next') world := by
  intro hfiles
  obtain ⟨hanswer, hworld, hleft⟩ := h hfiles
  rw [bind_apply, bind_apply, hworld]
  exact hnext _ _ hanswer hleft

/-- The plain step answers what it answers in this world. -/
theorem Tinted.answered {coloured : Run α} {plain : Run β} (h : Tinted R coloured plain world) :
    Tinted (fun a b => R a b ∧ b = (plain world).1) coloured plain world := by
  intro hfiles
  obtain ⟨hanswer, hworld, hleft⟩ := h hfiles
  exact ⟨⟨hanswer, rfl⟩, hworld, hleft⟩

/-- A step that changes no file answers what it answers in this world. -/
theorem Tidy.tinted {step : Run α} (h : Tidy step) : Tinted (Shared (· = (step world).1)) step step world := by
  intro hfiles
  refine ⟨⟨rfl, rfl⟩, rfl, ?_⟩
  rwa [h world]

theorem tinted_tell (event : Event) : Tinted Eq (tell event) (tell event) world := fun hfiles => ⟨rfl, rfl, hfiles⟩

theorem tinted_pick : Tinted Eq pick pick world := fun hfiles => ⟨rfl, rfl, hfiles⟩

theorem tinted_lift {P : α → Prop} {errand : Errand α} (h : errand.Colourless P world.workspace) :
    Tinted (Shared P) (liftM errand) (liftM errand) world := fun hfiles => ⟨⟨rfl, h.answer⟩, rfl, h.left hfiles⟩

/-- Items need only be tinted in the worlds in which their turns start in the plain run. -/
theorem tinted_mapM {ι : Type} {coloured : ι → Run α} {plain : ι → Run β} {items : List ι}
    (h : ∀ turn ∈ along plain items world, Tinted R (coloured turn.1) (plain turn.1) turn.2) :
    Tinted (List.Forall₂ R) (items.mapM coloured) (items.mapM plain) world := by
  induction items generalizing world with
  | nil => exact tinted_pure .nil
  | cons item rest ih =>
    rw [List.mapM_cons, List.mapM_cons]
    rw [along, List.forall_mem_cons] at h
    refine h.1.bind fun _ _ hfirst => (ih h.2).bind fun _ _ hrest => ?_
    exact tinted_pure (.cons hfirst hrest)

/-- The difference between two texts can be taken from either run. -/
theorem tinted_compareTexts {expected actual : String} (hexpected : Colourless expected)
    (hactual : Colourless actual) :
    Tinted (Shared fun diff => Ansi.remove (diff.render true) = diff.render false) (compareTexts expected actual)
      (compareTexts expected actual) world := by
  intro hfiles
  rw [compareTexts_apply]
  exact ⟨⟨rfl, Diff.remove_render_compare hexpected hactual⟩, rfl, hfiles⟩

end Run

namespace Golden

/-- What a comparison finds can be shown with colour and without. -/
def Showable (result : Except ErrorChain Verdict) : Prop :=
  ∀ diff, result = .ok (.mismatched diff) → Ansi.remove (diff.render true) = diff.render false

theorem showable_judge {actual : String} {files : Store} (hfiles : files.Colourless) (hactual : Colourless actual)
    (golden : Path) (mayCreate : Bool) :
    Showable (judge actual golden mayCreate files).1 ∧ (judge actual golden mayCreate files).2.Colourless := by
  unfold judge
  cases hread : files.readText golden with
  | ok expected =>
    have hshow := Diff.remove_render_compare (Canonical.colourless_ofText (hfiles.readText hread)) hactual
    dsimp only
    generalize Diff.compare (Canonical.ofText expected) actual = found at hshow ⊢
    refine ⟨fun diff hdiff => ?_, hfiles⟩
    split at hdiff
    · cases hdiff
    · cases hdiff
      exact hshow
  | error fault =>
    cases fault with
    | notFound =>
      cases mayCreate with
      | false => exact ⟨fun _ hdiff => (nomatch hdiff), hfiles⟩
      | true =>
        cases hwrite : files.write golden actual.toUTF8 with
        | ok after => exact ⟨fun _ hdiff => (nomatch hdiff), hfiles.write hactual hwrite⟩
        | error fault => exact ⟨fun _ hdiff => (nomatch hdiff), hfiles⟩
    | _ => exact ⟨fun _ hdiff => (nomatch hdiff), hfiles⟩

theorem tinted_compare {actual : String} (hactual : Colourless actual) (golden : Path) (mayCreate : Bool)
    {world : World} :
    Run.Tinted (Shared Showable) (compare actual golden mayCreate) (compare actual golden mayCreate) world := by
  intro hfiles
  obtain ⟨hanswer, hleft⟩ := compare_apply actual golden mayCreate world
  obtain ⟨hshow, hjudge⟩ := showable_judge hfiles hactual golden mayCreate
  refine ⟨⟨rfl, ?_⟩, rfl, ?_⟩
  · rwa [hanswer]
  · rwa [hleft]

end Golden

end GoldenBench
