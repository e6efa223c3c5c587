import GoldenBench.Proofs.Interop.Dispatch
import GoldenBench.Proofs.Inventory

/-!
# Calls of the compiler

A run tells of every call of the compiler with what it is given (`World.calls`). Each suite calls it at known points and
nowhere else.

* `Run.Callless`: a step that does not call the compiler, with one lemma for each way to put steps together.
* `Snapshot.calls_runSuite`: the compiler is called for the fixtures whose source can be read and whose directive line
  makes sense, in the order of discovery.
* `Interop.calls_runSuite` and `Smoke.calls_runSuite` are the like for the other suites.
-/

namespace GoldenBench

variable {α β : Type}

/-- The calls of the compiler that were told. -/
def World.calls (world : World) : List Event :=
  world.journal.filter Event.isCompilation

theorem World.calls_noted (world : World) (events : List Event) :
    (world.noted events).calls = world.calls ++ events.filter Event.isCompilation :=
  List.filter_append _ _

theorem World.calls_after (world : World) (left : Workspace) : (world.after left).calls = world.calls := by
  have hstrays : (left.strays.map Event.strayLine).filter Event.isCompilation = [] := by
    refine List.filter_eq_nil_iff.mpr fun event hevent => ?_
    obtain ⟨line, -, rfl⟩ := List.mem_map.mp hevent
    exact Bool.false_ne_true
  rw [calls, calls, journal_after, List.filter_append, hstrays, List.append_nil]

namespace Run

/-- A step that does not call the compiler. -/
def Callless (step : Run α) : Prop :=
  ∀ world, (step world).2.calls = world.calls

theorem callless_pure (a : α) : Callless (pure a) := fun _ => rfl

theorem callless_readText (path : Path) : Callless (readText path) := fun _ => rfl

theorem callless_tell {event : Event} (h : event.isCompilation = false) : Callless (tell event) := fun world => by
  rw [tell_apply, World.calls_noted, List.filter_cons_of_neg (by simp [h]), List.filter_nil, List.append_nil]

theorem callless_compareTexts (expected actual : String) : Callless (compareTexts expected actual) := fun world => by
  rw [compareTexts_apply, World.calls_noted]
  split
  · exact List.append_nil _
  · exact List.append_nil _

theorem callless_lift (errand : Errand α) : Callless (liftM errand) := fun world => World.calls_after world _

theorem Callless.bind {step : Run α} {next : α → Run β} (h : Callless step) (hnext : ∀ a, Callless (next a)) :
    Callless (step >>= next) := fun world => by
  rw [bind_apply, hnext, h]

/-- The calls of steps that each make one call at most. -/
theorem calls_mapM {step : α → Run β} {call? : α × World → Option Event}
    (h : ∀ item world, (step item world).2.calls = world.calls ++ (call? (item, world)).toList) (items : List α)
    (world : World) : (items.mapM step world).2.calls = world.calls ++ (along step items world).filterMap call? := by
  induction items generalizing world with
  | nil => exact (List.append_nil _).symm
  | cons item rest ih =>
    rw [mapM_cons_apply, ih, h, along, List.filterMap_cons, List.append_assoc]
    cases call? (item, world) with
    | none => rfl
    | some event => rfl

end Run

/-- One call is told for each call. -/
theorem Invocation.calls_run (compiler : Compiler) (input : CompilerInput) (options : CompilerOptions) (world : World) :
    (run compiler input options world).2.calls = world.calls ++ [.compiling input options] := by
  have hreport : (report input (of compiler input options world.workspace)).filter Event.isCompilation = [] := by
    rw [report]
    split
    · rfl
    · rfl
  rw [run_apply, World.calls_noted, hreport, List.append_nil, World.calls_after, World.calls_noted]
  rfl

theorem Golden.callless_compare (actual : String) (golden : Path) (mayCreate : Bool) :
    Run.Callless (compare actual golden mayCreate) := by
  refine (Run.callless_readText golden).bind fun read => ?_
  cases read with
  | ok expected => exact (Run.callless_compareTexts _ _).bind fun _ => Run.callless_pure _
  | error fault =>
    cases fault with
    | notFound =>
      cases mayCreate with
      | false => exact Run.callless_pure _
      | true =>
        intro world
        simp only [↓reduceIte, create, Run.bind_apply, Run.files_apply]
        cases world.files.write golden actual.toUTF8 with
        | error fault => rfl
        | ok files => exact Run.callless_tell rfl { world with files := files }
    | _ => exact Run.callless_pure _

/-! ## Snapshot fixtures -/

namespace Snapshot

variable {subject : Subject} {environment : Environment} {options : RunOptions}

/-- The options that the directive line of a source asks for, if the source can be read and the line makes sense. -/
def directed? (fixture : SnapshotCase) (files : Store) : Option CompilerOptions := do
  let source ← (files.readText fixture.source).toOption
  (Directive.options source.toList).toOption

theorem directed?_eq_some {fixture : SnapshotCase} {files : Store} {directed : CompilerOptions} :
    directed? fixture files = some directed ↔
      ∃ source, files.readText fixture.source = .ok source ∧ Directive.options source.toList = .ok directed := by
  simp [directed?, Option.bind_eq_some_iff, Interop.toOption_eq_some]

/-- The call of the compiler at a turn, as it is told. -/
def call? (turn : SnapshotCase × World) : Option Event :=
  (directed? turn.1 turn.2.files).map (.compiling (.file turn.1.source))

theorem callless_checkModule (fixture : SnapshotCase) (made : Module) :
    Run.Callless (checkModule fixture options made) := by
  unfold checkModule
  cases made.validity with
  | error chain => exact Run.callless_pure _
  | ok _ =>
    cases made.text with
    | error chain => exact Run.callless_pure _
    | ok text => exact (Golden.callless_compare _ _ _).bind fun _ => Run.callless_pure _

/-- A turn whose source cannot be read, or whose directive line makes no sense. -/
theorem runCase_undirected (subject : Subject) (options : RunOptions) {fixture : SnapshotCase} {world : World}
    (h : directed? fixture world.files = none) :
    ∃ outcome, runCase subject fixture options world =
      (⟨fixture.name, outcome, []⟩, world.noted [.fixtureStarted subject.name fixture.name]) := by
  rw [directed?] at h
  simp only [runCase, Run.bind_apply, Run.tell_apply, Run.readText_apply, World.files_noted]
  cases hread : world.files.readText fixture.source with
  | error fault => exact ⟨_, rfl⟩
  | ok source =>
    rw [hread] at h
    cases hoptions : Directive.options source.toList with
    | error fault =>
      simp only [hoptions]
      exact ⟨_, rfl⟩
    | ok directed =>
      rw [toOption_ok, Option.bind_eq_bind, Option.bind_some, hoptions] at h
      cases h

theorem calls_runCase (subject : Subject) (options : RunOptions) (fixture : SnapshotCase) (world : World) :
    (runCase subject fixture options world).2.calls = world.calls ++ (call? (fixture, world)).toList := by
  have hstarted : (world.noted [.fixtureStarted subject.name fixture.name]).calls = world.calls :=
    Run.callless_tell rfl world
  rw [call?]
  cases hdirected : directed? fixture world.files with
  | none =>
    obtain ⟨outcome, hrun⟩ := runCase_undirected subject options hdirected
    rw [hrun, hstarted]
    exact (List.append_nil _).symm
  | some directed =>
    obtain ⟨source, hread, hoptions⟩ := directed?_eq_some.mp hdirected
    have hcall := Invocation.calls_run subject.compiler (.file fixture.source) directed
      (world.noted [.fixtureStarted subject.name fixture.name])
    rw [runCase_directed subject options fixture world hread hoptions]
    rw [hstarted] at hcall
    cases (Invocation.of subject.compiler (.file fixture.source) directed world.workspace).result with
    | error failure => exact hcall
    | ok made => exact (callless_checkModule fixture made _).trans hcall

theorem calls_missing (world : World) (root : Path) : (world.noted (world.files.missing root)).calls = world.calls := by
  rw [World.calls_noted, Store.missing]
  split
  · exact List.append_nil _
  · exact List.append_nil _

/-- A suite calls the compiler for the fixtures whose source can be read and whose directive line makes sense, unless
it comes to an end at once. -/
theorem calls_runSuite (subject : Subject) (environment : Environment) (options : RunOptions) (world : World) :
    match (runSuite subject environment options world).1 with
    | .ok findings =>
      findings =
          (turns subject options world environment).map (fun turn => (runCase subject turn.1 options turn.2).1) ∧
        (runSuite subject environment options world).2.calls =
          world.calls ++ (turns subject options world environment).filterMap call?
    | .error _ => (runSuite subject environment options world).2.calls = world.calls := by
  have hcalls := Run.calls_mapM (calls_runCase subject options)
    (casesIn environment options.filter world.files) (world.noted (world.files.missing environment.fixturesDirectory))
  have hmissing := calls_missing world environment.fixturesDirectory
  rw [hmissing] at hcalls
  simp only [runSuite, discover, Run.bind_apply, Run.sourceFiles_apply]
  cases !(world.files.sources environment.fixturesDirectory environment.sourceExtension).isEmpty &&
    Path.isBadExtension environment.goldenExtension with
  | true => exact hmissing
  | false => exact ⟨Run.mapM_eq _ _ _, hcalls⟩

end Snapshot

/-! ## The other suites -/

/-- If modules can be executed, the interop suite calls the compiler for the fixtures that have an id of their own, a
runner, a source that can be read and a directive line that makes sense; otherwise it does not. -/
theorem Interop.calls_runSuite (subject : Subject) (environment : Environment) (options : RunOptions)
    (registry : Registry) (world : World) :
    (runSuite subject environment options registry world).2.calls = world.calls ++
      match subject.loader.capability with
      | .supported => (taken subject registry environment options world).filterMap fun turn =>
          callEvent? registry (casesIn environment options.filter world.files) turn.1 turn.2.files
      | .unsupported _ => [] := by
  cases hcapability : subject.loader.capability with
  | supported => exact compilations_runSuite subject registry world environment options hcapability
  | unsupported reason =>
    obtain ⟨told, hquiet, hrun⟩ := runSuite_unsupported subject registry world environment options hcapability
    have htold : told.filter Event.isCompilation = [] :=
      List.filter_eq_nil_iff.mpr fun event hevent => by simp [(hquiet event hevent).1]
    rw [hrun, World.calls_noted, htold]

/-- The smoke test calls the compiler once, and optimizing is not a call of its own. -/
theorem Smoke.calls_run (subject : Subject) (environment : Environment) (color : Bool) (world : World) :
    (run subject environment color world).2.calls =
      world.calls ++ [.compiling (.memory fileName environment.smokeSource) .base] := by
  rw [← Invocation.calls_run subject.compiler, run, Run.bind_apply]
  generalize Invocation.run subject.compiler (.memory fileName environment.smokeSource) .base world = made
  obtain ⟨invocation, left⟩ := made
  cases invocation.result with
  | error failure => rfl
  | ok made =>
    dsimp only
    split
    · rfl
    · refine Run.Callless.bind (Run.callless_lift _) (fun answer => ?_) left
      rcases answer with chain | ⟨_ | ⟨diagnostic, diagnostics⟩, emitted⟩
      · exact Run.callless_pure _
      · exact Run.callless_pure _
      · exact (Run.callless_tell rfl).bind fun _ => Run.callless_pure _

theorem Smoke.calls_runSuite (subject : Subject) (environment : Environment) (options : RunOptions) (world : World) :
    (runSuite subject environment options world).2.calls = world.calls ++
      if options.filter.accepts name then [.compiling (.memory fileName environment.smokeSource) .base] else [] := by
  rw [runSuite]
  cases options.filter.accepts name with
  | false => exact (List.append_nil _).symm
  | true =>
    have hstarted : (world.noted [.smokeStarted subject.name]).calls = world.calls := Run.callless_tell rfl world
    rw [if_pos rfl, ← hstarted]
    exact calls_run subject environment options.color (world.noted [.smokeStarted subject.name])

end GoldenBench
