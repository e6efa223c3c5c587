import GoldenBench.Proofs.Diff.Compare
import GoldenBench.Proofs.Snapshot
import GoldenBench.Suite.RoundTrip
import GoldenBench.Suite.Smoke

/-!
# When the smoke test and the round trip pass

* `Smoke.runSuite_passes_iff`: the smoke test passes just if it is filtered out or the compiler is in order.
* `RoundTrip.runSuite_passes_iff`: the round trip passes just if it is filtered out or the converter gives the text
  back.
-/

namespace GoldenBench

namespace Smoke

variable (subject : Subject) (environment : Environment) (world : World)

theorem checkText_passes_iff (emitted : Except ErrorChain String) :
    (checkText emitted).isFailed = false ↔ ∃ text, emitted = .ok text ∧ Text.isAllBlank text.toList = false := by
  cases emitted with
  | error chain => simp [checkText]
  | ok text => cases hblank : Text.isAllBlank text.toList <;> simp [checkText, hblank]

/-- What the compiler makes of the smoke source, and what it leaves behind. -/
def compiled : Compilation × Workspace :=
  subject.compiler.compile (.memory fileName environment.smokeSource) .base world.workspace

/-- A compiler that is in order: it makes a module of the smoke source and has nothing to say, and the module can be
optimized and emits a text that is not blank. -/
def InOrder : Prop :=
  ∃ made diagnostics emitted text,
    (compiled subject environment world).1.result = .ok made ∧
    (compiled subject environment world).1.diagnostics = [] ∧
    (made.optimizeOnce (world.after (compiled subject environment world).2).workspace).1 =
      .ok (diagnostics, emitted) ∧
    emitted.text = .ok text ∧ Text.isAllBlank text.toList = false

theorem run_passes_iff (color : Bool) :
    (run subject environment color world).1.outcome.isFailed = false ↔ InOrder subject environment world := by
  simp only [run, Run.bind_apply, Invocation.run_apply]
  cases hresult : (Invocation.of subject.compiler (.memory fileName environment.smokeSource) .base
      world.workspace).result with
  | error failure =>
    refine ⟨fun h => by simp at h, ?_⟩
    rintro ⟨made, diagnostics, emitted, text, hmade, -⟩
    rw [(Invocation.result_of_eq_ok _ _ _).mpr hmade] at hresult
    cases hresult
  | ok made =>
    have hmade : (compiled subject environment world).1.result = .ok made :=
      (Invocation.result_of_eq_ok _ _ _).mp hresult
    have hsame : (Invocation.of subject.compiler (.memory fileName environment.smokeSource) .base
        world.workspace).diagnostics = (compiled subject environment world).1.diagnostics :=
      Invocation.diagnostics_of _ _ _ hmade
    simp only [hsame]
    cases hsaid : (compiled subject environment world).1.diagnostics with
    | cons diagnostic diagnostics => simp [InOrder, hsaid]
    | nil =>
      have hcompiled : subject.compiler.compile (.memory fileName environment.smokeSource) .base world.workspace =
          compiled subject environment world := rfl
      simp only [List.isEmpty_nil, Bool.not_true, Bool.false_eq_true, ↓reduceIte, Run.bind_apply, Run.lift_apply,
        World.workspace_noted, World.workspace_noted_after, hcompiled]
      rcases hanswer : (made.optimizeOnce (world.after (compiled subject environment world).2).workspace).1 with
        chain | ⟨_ | ⟨diagnostic, diagnostics⟩, emitted⟩
      · simp [InOrder, hmade, hanswer]
      · simp [InOrder, hmade, hsaid, hanswer, checkText_passes_iff]
      · simp [InOrder, hmade, hsaid, hanswer, checkText_passes_iff]

theorem runSuite_passes_iff (options : RunOptions) :
    (∀ finding ∈ (runSuite subject environment options world).1, finding.outcome.isFailed = false) ↔
      (options.filter.accepts name = true → InOrder subject environment world) := by
  cases haccepts : options.filter.accepts name with
  | false => simp [runSuite, haccepts]
  | true =>
    have hpasses : _ ↔ InOrder subject environment world :=
      run_passes_iff subject environment (world.noted [.smokeStarted subject.name]) options.color
    simpa [runSuite, haccepts] using hpasses

end Smoke

namespace RoundTrip

variable (converter : Converter) (world : World)

/-- A converter that is in order: it converts a text to binary and that binary to the text. -/
def InOrder (text : String) : Prop :=
  ∃ binary, (converter.toBinary true text world.workspace).1 = .ok binary ∧
    (converter.toText true binary (world.after (converter.toBinary true text world.workspace).2).workspace).1 = .ok text

/-- A conversion and back succeeds just if both halves do. -/
theorem convert_eq_ok_iff (text back : String) :
    (convert converter text world).1 = .ok back ↔
      ∃ binary, (converter.toBinary true text world.workspace).1 = .ok binary ∧
        (converter.toText true binary
          (world.after (converter.toBinary true text world.workspace).2).workspace).1 = .ok back := by
  simp only [convert, Run.bind_apply, Run.tell_apply, Run.lift_apply, World.workspace_noted]
  cases hbinary : (converter.toBinary true text world.workspace).1 with
  | error failure => simp
  | ok binary =>
    simp

theorem run_passes_iff (text : String) (color : Bool) :
    (run converter text color world).1.isFailed = false ↔ InOrder converter world text := by
  rw [InOrder, ← convert_eq_ok_iff]
  simp only [run, Run.bind_apply]
  cases hconvert : (convert converter text world).1 with
  | error failure => simp
  | ok back =>
    by_cases hback : back = text
    · simp [hback]
    · simp [hback]

theorem runSuite_passes_iff (subject : Subject) (options : RunOptions) :
    (∀ finding ∈ (runSuite subject options world).1, finding.outcome.isFailed = false) ↔
      (options.filter.accepts name = true → InOrder subject.converter world builtIn) := by
  cases haccepts : options.filter.accepts name with
  | false => simp [runSuite, haccepts]
  | true =>
    have hpasses : _ ↔ InOrder subject.converter world builtIn :=
      run_passes_iff subject.converter (world.noted [.roundTripStarted subject.name]) builtIn options.color
    simpa [runSuite, haccepts] using hpasses

end RoundTrip

end GoldenBench
