import GoldenBench.Proofs.Calls

/-!
# What the compiler has to say is noted where it belongs

What a compiler came back with is noted in the report on the fixture that it was called for and in no other, whatever
becomes of the fixture afterwards and in whatever order loads settle (`Compiler.remarks`). There are no other notes, but
for what the optimizer has to say in the smoke test.

* `Interop.exists_order`: loads that settle in some order are those of turns in some order.
* `Snapshot.noted_runSuite`, `Interop.noted_runSuite` and `Smoke.noted_run`: the notes of each suite.
* `Session.remarks_noted`: the notes of all suites, and the calls of the compiler that they stem from.
-/

namespace GoldenBench

/-- The notes on what a compiler has to say on an input: one on the diagnostics that it comes back with, if there are
any. There are none if it is interrupted. -/
def Compiler.remarks (compiler : Compiler) (color : Bool) (input : CompilerInput) (asked : CompilerOptions)
    (found : Workspace) : List String :=
  match (compiler.compile input asked found).1 with
  | ⟨.error (.panic _), _⟩ => []
  | ⟨_, []⟩ => []
  | ⟨_, diagnostics⟩ => [Diagnostic.format color diagnostics]

/-- A finding is on a fixture and has these notes and no others. -/
structure Finding.Noted (finding : Finding) (fixture : String) (notes : List String) : Prop where
  /-- It is on the fixture. -/
  fixture_eq : finding.fixture = fixture
  /-- It has these notes. -/
  notes_eq : finding.notes = notes

theorem Invocation.notes_of (compiler : Compiler) (color : Bool) (input : CompilerInput) (asked : CompilerOptions)
    (found : Workspace) :
    (of compiler input asked found).notes color = compiler.remarks color input asked found := by
  rw [of, Compiler.remarks]
  rcases (compiler.compile input asked found).1 with ⟨(chain | message) | made, _ | ⟨diagnostic, diagnostics⟩⟩
  all_goals rfl

variable (subject : Subject) (environment : Environment) (options : RunOptions) (registry : Registry) (world : World)

/-! ## Snapshot fixtures -/

namespace Snapshot

/-- The notes on a fixture that has its turn. -/
def remarks (color : Bool) (turn : SnapshotCase × World) : List String :=
  (directed? turn.1 turn.2.files).elim [] fun asked =>
    subject.compiler.remarks color (.file turn.1.source) asked turn.2.workspace

theorem noted_runCase (turn : SnapshotCase × World) :
    (runCase subject turn.1 options turn.2).1.Noted turn.1.name (remarks subject options.color turn) := by
  obtain ⟨fixture, world⟩ := turn
  rw [remarks]
  cases hdirected : directed? fixture world.files with
  | none =>
    obtain ⟨outcome, hrun⟩ := runCase_undirected subject options hdirected
    rw [hrun]
    exact ⟨rfl, rfl⟩
  | some asked =>
    obtain ⟨source, hread, hoptions⟩ := directed?_eq_some.mp hdirected
    rw [Option.elim_some, ← Invocation.notes_of, runCase_directed subject options fixture world hread hoptions]
    cases (Invocation.of subject.compiler (.file fixture.source) asked world.workspace).result with
    | error failure => exact ⟨rfl, rfl⟩
    | ok made => exact ⟨rfl, rfl⟩

/-- The findings on fixtures, one after another. -/
theorem noted_turns (turns : List (SnapshotCase × World)) :
    List.Forall₂ (fun turn finding => finding.Noted turn.1.name (remarks subject options.color turn)) turns
      (turns.map fun turn => (runCase subject turn.1 options turn.2).1) :=
  List.forall₂_map_right_iff.mpr (List.forall₂_same.mpr fun turn _ => noted_runCase subject options turn)

end Snapshot

/-! ## Interop fixtures -/

namespace Interop

variable {color : Bool} {fixtures : List InteropCase}

/-- The notes on a fixture that has its turn among others. -/
def remarks (color : Bool) (fixtures : List InteropCase) (turn : InteropCase × World) : List String :=
  (call? registry fixtures turn.1 turn.2.files).elim [] fun asked =>
    subject.compiler.remarks color (.file turn.1.source) asked turn.2.workspace

theorem notes_eq_remarks (turn : InteropCase × World) :
    notes subject registry color fixtures turn.1 turn.2.workspace = remarks subject registry color fixtures turn := by
  have hfiles : turn.2.workspace.files = turn.2.files := rfl
  rw [notes, invocation?, remarks, hfiles]
  cases call? registry fixtures turn.1 turn.2.files with
  | none => rfl
  | some asked => exact Invocation.notes_of ..

theorem noted_load {turn : InteropCase × World} {pending : Pending}
    (h : loadAt? subject registry color fixtures turn = some pending) (loader : Loader) :
    (pending.finding loader).Noted turn.1.name (remarks subject registry color fixtures turn) := by
  obtain ⟨runner, asked, made, binary, -, hcall, -, -, rfl⟩ := (loadAt?_eq_some subject registry color fixtures).mp h
  refine ⟨rfl, ?_⟩
  rw [remarks, hcall]
  exact Invocation.notes_of ..

/-- Each load with the turn of its fixture. -/
theorem forall₂_loads (turns : List (InteropCase × World)) :
    List.Forall₂ (fun pending turn => loadAt? subject registry color fixtures turn = some pending)
      (turns.filterMap (loadAt? subject registry color fixtures))
      (turns.filter fun turn => !(loadAt? subject registry color fixtures turn).isNone) := by
  induction turns with
  | nil => exact .nil
  | cons turn turns ih =>
    cases hload : loadAt? subject registry color fixtures turn with
    | none =>
      rw [List.filterMap_cons_none hload, List.filter_cons_of_neg (by simp [hload])]
      exact ih
    | some pending =>
      rw [List.filterMap_cons_some hload, List.filter_cons_of_pos (by simp [hload])]
      exact .cons hload ih

/-- Findings on fixtures that are not loaded, and on loads in any order, are findings on turns in some order. -/
theorem exists_order {turns : List (InteropCase × World)} {early : List Finding} {order : List Pending}
    (hearly : List.Forall₂ (FailsAs subject registry color fixtures)
      (turns.filter fun turn => (loadAt? subject registry color fixtures turn).isNone) early)
    (horder : order.Perm (turns.filterMap (loadAt? subject registry color fixtures))) :
    ∃ taken : List (InteropCase × World), taken.Perm turns ∧
      List.Forall₂ (fun turn finding => finding.Noted turn.1.name (remarks subject registry color fixtures turn)) taken
        (early ++ order.map (·.finding subject.loader)) := by
  obtain ⟨loaded, hloaded, hperm⟩ := List.perm_comp_forall₂ horder (forall₂_loads subject registry turns)
  refine ⟨_, (hperm.append_left _).trans (List.filter_append_perm _ turns), List.rel_append ?_ ?_⟩
  · refine hearly.imp fun turn finding hfails => ⟨hfails.1, ?_⟩
    rw [hfails.2.2, notes_eq_remarks]
  · exact List.forall₂_map_right_iff.mpr (hloaded.flip.imp fun turn pending h => noted_load subject registry h _)

/-- In whatever order loads settle, the notes on a fixture are what the compiler had to say on it at its turn. -/
theorem noted_runSuite (h : subject.loader.capability = .supported) (picks : List Nat) :
    (∃ order : List (InteropCase × World), order.Perm (taken subject registry environment options world) ∧
      List.Forall₂ (fun turn finding => finding.Noted turn.1.name
          (remarks subject registry options.color (casesIn environment options.filter world.files) turn))
        order (runSuite subject environment options registry (world.ordered picks)).1) ∧
    (runSuite subject environment options registry (world.ordered picks)).2.calls = world.calls ++
      (taken subject registry environment options world).filterMap fun turn =>
        callEvent? registry (casesIn environment options.filter world.files) turn.1 turn.2.files := by
  obtain ⟨before, turns, early, hdispatched⟩ := dispatched subject registry options.color
    (casesIn environment options.filter world.files) world _ (quiet_found registry environment options world.files)
  have hrun : runSuite subject environment options registry (world.ordered picks) = _ :=
    runSuite_supported subject registry _ environment options h
  have htaken : taken subject registry environment options world = turns := hdispatched.taken_eq.symm
  obtain ⟨loads, hloads, hresult, -⟩ := hdispatched.settles picks
  obtain ⟨order, horder, hnoted⟩ := exists_order subject registry hdispatched.early_fails hloads
  rw [hrun, htaken]
  exact ⟨⟨order, horder, hresult.symm ▸ hnoted⟩, hdispatched.compilations picks⟩

end Interop

/-! ## The smoke test -/

namespace Smoke

/-- The notes on what the optimizer has to say: one if it succeeds with anything to say, on a module that was compiled
without a word. -/
def optimizerRemarks (color : Bool) : List String :=
  match (compiled subject environment world).1 with
  | ⟨.ok made, []⟩ =>
    match (made.optimizeOnce (world.after (compiled subject environment world).2).workspace).1 with
    | .ok (diagnostic :: diagnostics, _) => [Diagnostic.format color (diagnostic :: diagnostics)]
    | _ => []
  | _ => []

theorem noted_run (color : Bool) :
    (run subject environment color world).1.Noted name
      (subject.compiler.remarks color (.memory fileName environment.smokeSource) .base world.workspace ++
        optimizerRemarks subject environment world color) := by
  have hcompiled : subject.compiler.compile (.memory fileName environment.smokeSource) .base world.workspace =
    compiled subject environment world := rfl
  refine ⟨fixture_run subject environment color world, ?_⟩
  rw [Compiler.remarks, optimizerRemarks, hcompiled]
  simp only [run, Run.bind_apply, Invocation.run_apply, Invocation.of, hcompiled]
  rcases hmade : (compiled subject environment world).1 with
    ⟨(chain | message) | made, _ | ⟨diagnostic, diagnostics⟩⟩
  case ok.nil =>
    simp only [Invocation.ofCompilation, List.isEmpty_nil, Bool.not_true, Bool.false_eq_true, ↓reduceIte,
      Run.bind_apply, Run.lift_apply, World.workspace_noted, World.workspace_noted_after]
    rcases (made.optimizeOnce (world.after (compiled subject environment world).2).workspace).1 with
      chain | ⟨_ | ⟨diagnostic, diagnostics⟩, emitted⟩
    all_goals rfl
  all_goals rfl

end Smoke

/-! ## All suites -/

/-- What is noted in the findings of each suite of a subject, and what calls of the compiler it stems from. -/
structure Subject.Remarked (subject : Subject) (environment : Environment) (options : RunOptions) (registry : Registry)
    (world : World) : Prop where
  /-- Each snapshot fixture has the compiler's remarks on it as its notes. The compiler is called at the turns of these
  fixtures and at no other time. -/
  snapshots :
    match (Snapshot.runSuite subject environment options world).1 with
    | .ok findings =>
      List.Forall₂ (fun turn finding => finding.Noted turn.1.name (Snapshot.remarks subject options.color turn))
          (Snapshot.turns subject options world environment) findings ∧
        (Snapshot.runSuite subject environment options world).2.calls =
          world.calls ++ (Snapshot.turns subject options world environment).filterMap Snapshot.call?
    | .error _ => (Snapshot.runSuite subject environment options world).2.calls = world.calls
  /-- So has each interop fixture, in whatever order loads settle, if modules can be executed. If they cannot, there is
  nothing to note. -/
  interop : ∀ picks, match subject.loader.capability with
    | .supported =>
      (∃ order : List (InteropCase × World), order.Perm (Interop.taken subject registry environment options world) ∧
        List.Forall₂ (fun turn finding => finding.Noted turn.1.name (Interop.remarks subject registry options.color
            (Interop.casesIn environment options.filter world.files) turn))
          order (Interop.runSuite subject environment options registry (world.ordered picks)).1) ∧
      (Interop.runSuite subject environment options registry (world.ordered picks)).2.calls = world.calls ++
        (Interop.taken subject registry environment options world).filterMap fun turn =>
          Interop.callEvent? registry (Interop.casesIn environment options.filter world.files) turn.1 turn.2.files
    | .unsupported _ =>
      (Interop.runSuite subject environment options registry (world.ordered picks)).1.flatMap (·.notes) = [] ∧
      (Interop.runSuite subject environment options registry (world.ordered picks)).2.calls = world.calls
  /-- In the smoke test the remarks of the optimizer come last. -/
  smoke :
    if options.filter.accepts Smoke.name then
      ∃ finding, (Smoke.runSuite subject environment options world).1 = [finding] ∧
        finding.Noted Smoke.name (subject.compiler.remarks options.color
            (.memory Smoke.fileName environment.smokeSource) .base world.workspace ++
          Smoke.optimizerRemarks subject environment world options.color) ∧
        (Smoke.runSuite subject environment options world).2.calls =
          world.calls ++ [.compiling (.memory Smoke.fileName environment.smokeSource) .base]
    else (Smoke.runSuite subject environment options world).1 = [] ∧
      (Smoke.runSuite subject environment options world).2.calls = world.calls
  /-- Nothing is noted of the round trip. -/
  roundTrip : (RoundTrip.runSuite subject options world).1.flatMap (·.notes) = []

/-- Every finding of a suite has the compiler's remarks on its fixture as its notes, and no other notes: a fixture that
the compiler was called for, and came back from with diagnostics, has one note on them; a fixture that it had nothing to
say on, was interrupted at or was not called for has none. -/
theorem Session.remarks_noted (subject : Subject) (environment : Environment) (options : RunOptions)
    (registry : Registry) (world : World) : subject.Remarked environment options registry world where
  snapshots := by
    have hsuite := Snapshot.calls_runSuite subject environment options world
    cases hrun : (Snapshot.runSuite subject environment options world).1 with
    | error abort =>
      rw [hrun] at hsuite
      exact hsuite
    | ok findings =>
      rw [hrun] at hsuite
      obtain ⟨rfl, hcalls⟩ := hsuite
      exact ⟨Snapshot.noted_turns subject options _, hcalls⟩
  interop picks := by
    cases hcapability : subject.loader.capability with
    | supported => exact Interop.noted_runSuite subject environment options registry world hcapability picks
    | unsupported reason =>
      have hcalls := Interop.calls_runSuite subject environment options registry (world.ordered picks)
      obtain ⟨told, -, hrun⟩ :=
        Interop.runSuite_unsupported subject registry (world.ordered picks) environment options hcapability
      rw [hcapability] at hcalls
      refine ⟨?_, hcalls.trans (List.append_nil _)⟩
      rw [hrun]
      split
      · rfl
      · rfl
  smoke := by
    have hcalls := Smoke.calls_runSuite subject environment options world
    by_cases haccepts : options.filter.accepts Smoke.name = true
    · rw [if_pos haccepts] at hcalls ⊢
      have hnoted := Smoke.noted_run subject environment (world.noted [.smokeStarted subject.name]) options.color
      refine ⟨_, ?_, hnoted, hcalls⟩
      rw [Smoke.runSuite, haccepts]
      rfl
    · rw [if_neg haccepts] at hcalls ⊢
      refine ⟨?_, hcalls.trans (List.append_nil _)⟩
      rw [Smoke.runSuite, Bool.not_eq_true] at *
      rw [haccepts]
      rfl
  roundTrip := by
    rw [RoundTrip.runSuite]
    cases options.filter.accepts RoundTrip.name with
    | false => rfl
    | true => rfl

end GoldenBench
