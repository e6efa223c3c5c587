import GoldenBench.Proofs.Isolation.Suites
import GoldenBench.Proofs.Seats

/-!
# Snapshot fixtures do not see each other

Two runs of the snapshot suite may differ in what belongs to one fixture: what its source and its golden file hold, and
what comes of its compilation (`Snapshot.DifferIn`). All other fixtures fare the same in both
(`Snapshot.OthersAlike`).

* `Snapshot.Kin`: the trees that such runs have come to, which still differ in nothing else.
* `Snapshot.agree_runCase_twin`: a turn of any other fixture.
* `Snapshot.othersAlike`: all fixtures, one after another.
-/

namespace GoldenBench

open Store (DifferAt Grows)

/-- Compilers answer the same on a source wherever trees differ at most at the ends of some paths. -/
def Compiler.SameOn (paths : List Path) (source : Path) (compiler compiler' : Compiler) : Prop :=
  ∀ asked (found found' : Workspace), DifferAt paths found.files found'.files →
    (compiler.compile (.file source) asked found).1 = (compiler'.compile (.file source) asked found').1

variable {environment : Environment} {filter : Filter} {options : RunOptions} {subject subject' : Subject}
  {initial initial' files files' : Store}

namespace Snapshot

/-! ## Snapshot fixtures -/

/-- Runs on two trees differ in nothing but one fixture, which both discover: the trees in what its source and its
golden file hold and in whether there is a golden file, the compilers in what comes of its source. -/
structure DifferIn (environment : Environment) (filter : Filter) (own : SnapshotCase) (subject subject' : Subject)
    (initial initial' : Store) : Prop where
  /-- The trees are plain. -/
  plain : initial.IsPlain ∧ initial'.IsPlain
  /-- The fixture is discovered in both. -/
  discovered : own ∈ casesIn environment filter initial ∧ own ∈ casesIn environment filter initial'
  /-- Nothing else is different in them. -/
  files : DifferAt [own.source, own.golden] initial initial'
  /-- The compilers leave the trees as they find them. -/
  tidy : ∀ path asked,
    (subject.compiler.compile (.file path) asked).Tidy ∧ (subject'.compiler.compile (.file path) asked).Tidy
  /-- They answer the same on every other fixture. -/
  compilers : ∀ fixture ∈ casesIn environment filter initial, fixture ≠ own →
    subject.compiler.SameOn [own.source, own.golden] fixture.source subject'.compiler

variable {own fixture : SnapshotCase} {directory : Key} {stem : List Char}

theorem Seat.congr (h : Seat environment files fixture directory stem) (hplain : files.IsPlain)
    (hsame : Store.SameSources environment.sourceExtension files files') :
    Seat environment files' fixture directory stem where
  source := h.source.congr hplain hsame.symm
  golden := h.golden.keeps (hsame.symm.keeps hplain)

/-- Both runs find the same sources. -/
theorem DifferIn.sameSources (h : DifferIn environment filter own subject subject' initial initial')
    (henv : environment.SetsApart) : Store.SameSources environment.sourceExtension initial initial' := by
  obtain ⟨directory, stem, hseat, -⟩ := exists_seat henv h.plain.1 h.discovered.1
  obtain ⟨directory', stem', hseat', -⟩ := exists_seat henv h.plain.2 h.discovered.2
  have hlies := h.files.lies h.plain.1 hseat.source hseat'.source
  refine h.files.sameSources fun path hpath directory₁ stem₁ hstem₁ hends => ?_
  rcases hseat.key_of_endsAt henv h.plain.1 hpath hends with hkey | hkey
  · rw [hkey]
    exact ⟨hseat.source.file, hlies.file⟩
  · exact absurd hkey.symm (golden_ne_source henv hseat.source.stem_ne hstem₁ hseat.source.no_dot)

/-- What trees have come to that differed in one fixture at first. -/
structure Kin (own : SnapshotCase) (initial initial' files files' : Store) : Prop where
  /-- The trees are plain. -/
  plain : files.IsPlain ∧ files'.IsPlain
  /-- They have grown. -/
  grows : Grows initial files ∧ Grows initial' files'
  /-- Nothing is different in them but what belongs to the fixture. -/
  differ : DifferAt [own.source, own.golden] files files'

namespace Kin

theorem symm (h : Kin own initial initial' files files') : Kin own initial' initial files' files :=
  ⟨h.plain.symm, h.grows.symm, h.differ.symm⟩

end Kin

/-- What a turn leaves is the tree as it was, or what a comparison leaves. -/
theorem runCase_left (h : ∀ asked, (subject.compiler.compile (.file fixture.source) asked).Tidy)
    (options : RunOptions) (world : World) :
    (runCase subject fixture options world).2.files = world.files ∨
      ∃ text, (runCase subject fixture options world).2.files =
        (Golden.judge text fixture.golden options.create world.files).2 := by
  rcases runCase_cases h options world with ⟨-, -, hleft⟩ | ⟨text, -, -, hleft⟩
  · exact .inl hleft
  · exact .inr ⟨_, hleft⟩

theorem runCase_fixture (fixture : SnapshotCase) (world : World) :
    (runCase subject fixture options world).1.fixture = fixture.name := by
  simp only [runCase, Run.bind_apply, Run.tell_apply, Run.readText_apply, World.files_noted]
  cases world.files.readText fixture.source with
  | error fault => rfl
  | ok source =>
    dsimp only
    cases Directive.options source.toList with
    | error fault => rfl
    | ok directed =>
      simp only [Run.bind_apply]
      generalize Invocation.run subject.compiler (.file fixture.source) directed
        (world.noted [.fixtureStarted subject.name fixture.name]) = invocation
      cases invocation.1.result with
      | error failure => rfl
      | ok made => rfl

/-- The findings on fixtures, one after another. -/
def findings (subject : Subject) (options : RunOptions) (fixtures : List SnapshotCase) (world : World) :
    List (SnapshotCase × Finding) :=
  (Run.along (fun fixture => runCase subject fixture options) fixtures world).map fun turn =>
    (turn.1, (runCase subject turn.1 options turn.2).1)

end Snapshot

end GoldenBench
