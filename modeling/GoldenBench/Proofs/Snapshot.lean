import GoldenBench.Proofs.Canonical
import GoldenBench.Proofs.Diff.Compare
import GoldenBench.Proofs.Discovery
import GoldenBench.Proofs.Files.Write

/-!
# When a snapshot fixture passes

* `Golden.compare_accepts_iff`: a canonical text is accepted just if the golden file holds it afterwards, up to what
  canonical forms leave out.
* `Snapshot.runCase_passes_iff`: a fixture passes just if it is in order (`Snapshot.InOrder`).
* `Snapshot.runSuite_passes_iff` is the same of all fixtures.
-/

namespace GoldenBench

theorem Run.compareTexts_apply (expected actual : String) (world : World) :
    Run.compareTexts expected actual world = (Diff.compare expected actual,
      world.noted (if (Diff.compare expected actual).coarse then [.coarseDiff Diff.editLimit] else [])) := by
  by_cases hcoarse : (Diff.compare expected actual).coarse = true
  · simp [Run.compareTexts, hcoarse]
  · simp [Run.compareTexts, hcoarse]

/-! ## Golden files -/

namespace Golden

variable (actual : String) (golden : Path) (mayCreate : Bool) (world : World)

/-- The text is the known one, or it was written. -/
def Accepted : Except ErrorChain Verdict → Prop
  | .ok .matched => True
  | .ok (.created _) => True
  | _ => False

theorem create_accepts_iff (hactual : Canonical.ofText actual = actual)
    (habsent : world.files.readText golden = .error .notFound) :
    Accepted (create actual golden world).1 ↔
      ∃ kept, (create actual golden world).2.files.readText golden = .ok kept ∧ Canonical.ofText kept = actual := by
  simp only [create, Run.bind_apply, Run.files_apply]
  cases hwrite : world.files.write golden actual.toUTF8 with
  | ok files => exact ⟨fun _ => ⟨actual, Store.readText_write hwrite, hactual⟩, fun _ => trivial⟩
  | error fault =>
    refine ⟨False.elim, fun ⟨kept, hkept, _⟩ => ?_⟩
    change world.files.readText golden = .ok kept at hkept
    rw [habsent] at hkept
    cases hkept

/-- A canonical text is accepted just if the golden file has it as its canonical form afterwards. -/
theorem compare_accepts_iff (hactual : Canonical.ofText actual = actual) :
    Accepted (compare actual golden mayCreate world).1 ↔
      ∃ kept, (compare actual golden mayCreate world).2.files.readText golden = .ok kept ∧
        Canonical.ofText kept = actual := by
  simp only [compare, Run.bind_apply, Run.readText_apply]
  cases hread : world.files.readText golden with
  | ok kept =>
    simp only [Run.bind_apply, Run.compareTexts_apply, Run.pure_apply, World.files_noted, hread, Except.ok.injEq,
      exists_eq_left']
    rw [← Diff.isIdentical_compare]
    split
    · rename_i h
      exact ⟨fun _ => h, fun _ => trivial⟩
    · rename_i h
      exact ⟨False.elim, fun h' => h h'⟩
  | error fault =>
    have hunread : ∀ verdict : Except ErrorChain Verdict, ¬ Accepted verdict →
        (Accepted verdict ↔ ∃ kept, world.files.readText golden = .ok kept ∧ Canonical.ofText kept = actual) :=
      fun verdict h => ⟨fun h' => absurd h' h, fun ⟨kept, hkept, _⟩ => by rw [hread] at hkept; cases hkept⟩
    cases fault with
    | notFound =>
      cases mayCreate with
      | true => exact create_accepts_iff actual golden world hactual hread
      | false => exact hunread (.ok (.missing golden)) id
    | _ => exact hunread (.error _) id

end Golden

/-! ## Fixtures -/

namespace Snapshot

variable (subject : Subject) (options : RunOptions) (fixture : SnapshotCase) (world : World)

theorem verdictOutcome_passes_iff (golden : Path) (color : Bool) (result : Except ErrorChain Golden.Verdict) :
    (verdictOutcome golden color result).isFailed = false ↔ Golden.Accepted result := by
  rcases result with chain | (_ | diff | path | path) <;>
    simp [verdictOutcome, Golden.Accepted]

/-- A module passes just if it is valid, emits a text, and the golden file has that text afterwards, both in canonical
form. -/
theorem checkModule_passes_iff (made : Module) :
    (checkModule fixture options made world).1.isFailed = false ↔
      ∃ text kept, made.validity = .ok () ∧ made.text = .ok text ∧
        (checkModule fixture options made world).2.files.readText fixture.golden = .ok kept ∧
        Canonical.ofText kept = Canonical.ofText text := by
  cases hvalid : made.validity with
  | error chain => simp [checkModule, hvalid]
  | ok _ =>
    cases htext : made.text with
    | error chain => simp [checkModule, hvalid, htext]
    | ok text =>
      have haccepts := Golden.compare_accepts_iff _ fixture.golden options.create world (Canonical.ofText_ofText text)
      simp only [checkModule, hvalid, htext, Run.bind_apply, Run.pure_apply, verdictOutcome_passes_iff, haccepts]
      simp

/-- A fixture that is in order at its turn: its source can be read and its directive line makes sense, it compiles to
a valid module that emits a text, and once its turn is over the golden file has that text, both in canonical form. -/
def InOrder (turn : SnapshotCase × World) : Prop :=
  ∃ source directed made text kept,
    turn.2.files.readText turn.1.source = .ok source ∧
    Directive.options source.toList = .ok directed ∧
    (subject.compiler.compile (.file turn.1.source) directed turn.2.workspace).1.result = .ok made ∧
    made.validity = .ok () ∧ made.text = .ok text ∧
    (runCase subject turn.1 options turn.2).2.files.readText turn.1.golden = .ok kept ∧
    Canonical.ofText kept = Canonical.ofText text

/-- A turn whose source can be read and whose directive line makes sense. -/
theorem runCase_directed {source : String} {directed : CompilerOptions}
    (hread : world.files.readText fixture.source = .ok source)
    (hoptions : Directive.options source.toList = .ok directed) :
    let invocation := Invocation.of subject.compiler (.file fixture.source) directed world.workspace
    let left := (Invocation.run subject.compiler (.file fixture.source) directed
      (world.noted [.fixtureStarted subject.name fixture.name])).2
    runCase subject fixture options world = match invocation.result with
      | .error failure =>
        (⟨fixture.name, .failureWith "compilation failed" failure, invocation.notes options.color⟩, left)
      | .ok made =>
        (⟨fixture.name, (checkModule fixture options made left).1, invocation.notes options.color⟩,
          (checkModule fixture options made left).2) := by
  intro invocation left
  have hanswer : (Invocation.run subject.compiler (.file fixture.source) directed
      (world.noted [.fixtureStarted subject.name fixture.name])).1 = invocation := by
    rw [Invocation.run_apply]
    rfl
  simp only [runCase, Run.bind_apply, Run.tell_apply, Run.readText_apply, World.files_noted, hread, hoptions, hanswer]
  cases invocation.result with
  | error failure => rfl
  | ok made => rfl

/-- The part of a turn that follows once the module is made. -/
theorem runCase_made {source : String} {directed : CompilerOptions} {made : Module}
    (hread : world.files.readText fixture.source = .ok source)
    (hoptions : Directive.options source.toList = .ok directed)
    (hmade : (subject.compiler.compile (.file fixture.source) directed world.workspace).1.result = .ok made) :
    let left := (Invocation.run subject.compiler (.file fixture.source) directed
      (world.noted [.fixtureStarted subject.name fixture.name])).2
    (runCase subject fixture options world).1.outcome = (checkModule fixture options made left).1 ∧
      (runCase subject fixture options world).2 = (checkModule fixture options made left).2 := by
  rw [runCase_directed subject options fixture world hread hoptions, (Invocation.result_of_eq_ok _ _ _).mpr hmade]
  exact ⟨rfl, rfl⟩

/-- A fixture passes just if it is in order. -/
theorem runCase_passes_iff :
    (runCase subject fixture options world).1.outcome.isFailed = false ↔ InOrder subject options (fixture, world) := by
  constructor
  · intro h
    cases hread : world.files.readText fixture.source with
    | error fault => simp [runCase, hread] at h
    | ok source =>
      cases hoptions : Directive.options source.toList with
      | error fault => simp [runCase, hread, hoptions] at h
      | ok directed =>
        cases hresult : (Invocation.of subject.compiler (.file fixture.source) directed world.workspace).result with
        | error failure => simp [runCase, hread, hoptions, Invocation.run_apply, hresult] at h
        | ok made =>
          have hmade := (Invocation.result_of_eq_ok _ _ _).mp hresult
          obtain ⟨houtcome, hleft⟩ := runCase_made subject options fixture world hread hoptions hmade
          rw [houtcome, checkModule_passes_iff] at h
          obtain ⟨text, kept, hvalid, htext, hkept, hsame⟩ := h
          exact ⟨source, directed, made, text, kept, hread, hoptions, hmade, hvalid, htext, hleft ▸ hkept, hsame⟩
  · rintro ⟨source, directed, made, text, kept, hread, hoptions, hmade, hvalid, htext, hkept, hsame⟩
    obtain ⟨houtcome, hleft⟩ := runCase_made subject options fixture world hread hoptions hmade
    rw [houtcome, checkModule_passes_iff]
    exact ⟨text, kept, hvalid, htext, hleft ▸ hkept, hsame⟩

/-- The fixtures that a filter accepts, with the worlds in which their turns start. -/
def turns (environment : Environment) : List (SnapshotCase × World) :=
  Run.along (fun fixture => runCase subject fixture options) (casesIn environment options.filter world.files)
    (world.noted (world.files.missing environment.fixturesDirectory))

/-- What a suite comes to, and what it leaves. -/
theorem runSuite_apply {environment : Environment} (h : Path.isBadExtension environment.goldenExtension = false)
    (subject : Subject) (options : RunOptions) (world : World) :
    runSuite subject environment options world =
      let ran := (casesIn environment options.filter world.files).mapM
        (fun fixture => runCase subject fixture options)
        (world.noted (world.files.missing environment.fixturesDirectory))
      (.ok ran.1, ran.2) := by
  rw [runSuite, Run.bind_apply, discover_apply environment options.filter h]
  rfl

/-- A suite comes to an end, and it passes just if every fixture is in order. -/
theorem runSuite_passes_iff (environment : Environment) (h : Path.isBadExtension environment.goldenExtension = false) :
    ∃ findings, (runSuite subject environment options world).1 = .ok findings ∧
      ((∀ finding ∈ findings, finding.outcome.isFailed = false) ↔
        ∀ turn ∈ turns subject options world environment, InOrder subject options turn) := by
  refine ⟨(turns subject options world environment).map fun turn => (runCase subject turn.1 options turn.2).1, ?_, ?_⟩
  · rw [runSuite_apply h]
    exact congrArg Except.ok (Run.mapM_eq _ (fun fixture => runCase subject fixture options) _)
  · simp only [List.forall_mem_map, runCase_passes_iff]

end Snapshot

end GoldenBench
