import GoldenBench.Proofs.Golden
import GoldenBench.Proofs.Isolation.Steps
import GoldenBench.Proofs.Session

/-!
# What the suites leave behind

The tools of a subject are tidy if they leave the file tree as they find it (`Subject.Tidy`). Then golden files are all
that a run can add. They are isolated if their answers depend on nothing but the file tree as well (`Subject.Isolated`).

* `Snapshot.runCase_alike`: a snapshot fixture leaves what its comparison leaves, if its module comes to emit a text.
* `Interop.tidy_runSuite`, `Smoke.tidy_runSuite` and `RoundTrip.tidy_runSuite`: the other suites change nothing.
* `Snapshot.agree_runCase` and `Interop.agree_launchCase`: turns of a fixture agree if all that they read does.
* `Smoke.agree_run` and `RoundTrip.agree_run`: so do these tests. With isolated tools they depend on the files alone.
-/

namespace GoldenBench

variable {R : Store → Store → Prop} {subject other : Subject} {environment : Environment} {options : RunOptions}

/-- Compilations that come to modules whose optimizers agree, or that fail in the same way, with the same
diagnostics. -/
structure Compilation.Same (R : Store → Store → Prop) (first second : Compilation) : Prop where
  /-- What they come to. -/
  results : BothEnd Eq (fun made made' => Errand.Agree R made.optimizeOnce made'.optimizeOnce) first.result
    second.result
  /-- What the compiler had to say. -/
  diagnostics : first.diagnostics = second.diagnostics

/-- The tools of a subject leave the file tree as they find it. -/
structure Subject.Tidy (subject : Subject) : Prop where
  /-- The compiler does when it compiles a file. -/
  file : ∀ path options, (subject.compiler.compile (.file path) options).Tidy
  /-- It does when it compiles the source of the smoke test. -/
  smoke : ∀ source, (subject.compiler.compile (.memory Smoke.fileName source) .base).Tidy
  /-- So does the optimizer, on the tree that the compiler has found. -/
  optimizer : ∀ source workspace made,
    (subject.compiler.compile (.memory Smoke.fileName source) .base workspace).1.result = .ok made →
      ∀ now, now.files = workspace.files → (made.optimizeOnce now).2.files = now.files
  /-- So does the converter to binary. -/
  toBinary : ∀ names text, (subject.converter.toBinary names text).Tidy
  /-- So does the converter to text. -/
  toText : ∀ names binary, (subject.converter.toText names binary).Tidy

/-- How modules are loaded does not matter to it. -/
theorem Subject.Tidy.withLoader {loader : Loader} (h : subject.Tidy) : { subject with loader := loader }.Tidy :=
  ⟨h.file, h.smoke, h.optimizer, h.toBinary, h.toText⟩

/-- What the tools of a subject answer in a file tree depends on nothing else, and they leave the tree as it is. -/
structure Subject.Isolated (files : Store) (subject : Subject) : Prop where
  /-- That is so of the compiler when it compiles a file. -/
  file : ∀ path options, Errand.Agree (Stays files) (subject.compiler.compile (.file path) options)
    (subject.compiler.compile (.file path) options)
  /-- It is so when it compiles the source of the smoke test, and of the optimizer. -/
  smoke : ∀ source, Errand.Relate (Stays files) (Compilation.Same (Stays files))
    (subject.compiler.compile (.memory Smoke.fileName source) .base)
    (subject.compiler.compile (.memory Smoke.fileName source) .base)
  /-- It is so of the converter to binary. -/
  toBinary : ∀ names text, Errand.Agree (Stays files) (subject.converter.toBinary names text)
    (subject.converter.toBinary names text)
  /-- It is so of the converter to text. -/
  toText : ∀ names binary, Errand.Agree (Stays files) (subject.converter.toText names binary)
    (subject.converter.toText names binary)

/-- How modules are loaded does not matter to it. -/
theorem Subject.Isolated.withLoader {files : Store} {loader : Loader}
    (h : { subject with loader := loader }.Isolated files) : subject.Isolated files :=
  ⟨h.file, h.smoke, h.toBinary, h.toText⟩

/-! ## Calls of the compiler -/

namespace Invocation

variable {compiler compiler' : Compiler} {input : CompilerInput} {asked : CompilerOptions}

theorem tidy_run (h : (compiler.compile input asked).Tidy) : Run.Tidy (run compiler input asked) := by
  intro world
  rw [run_apply]
  exact h world.workspace

theorem agree_run (h : Errand.Agree R (compiler.compile input asked) (compiler'.compile input asked)) :
    Run.Agree R (run compiler input asked) (run compiler' input asked) := by
  intro one other hR
  obtain ⟨hanswer, hleft⟩ := h one.workspace other.workspace hR
  rw [run_apply, run_apply]
  exact ⟨congrArg ofCompilation hanswer, hleft⟩

/-- Calls that come to modules whose optimizers agree, or that fail in the same way, with the same diagnostics. -/
structure Same (R : Store → Store → Prop) (first second : Invocation) : Prop where
  /-- What they come to. -/
  results : BothEnd Eq (fun made made' => Errand.Agree R made.optimizeOnce made'.optimizeOnce) first.result
    second.result
  /-- What the compiler had to say. -/
  diagnostics : first.diagnostics = second.diagnostics

theorem same_ofCompilation {first second : Compilation} (h : first.Same R second) :
    (ofCompilation first).Same R (ofCompilation second) := by
  obtain ⟨result, diagnostics⟩ := first
  obtain ⟨result', diagnostics'⟩ := second
  obtain ⟨hresults, rfl : diagnostics = diagnostics'⟩ := h
  cases result with
  | ok made =>
    cases result' with
    | ok made' => exact ⟨hresults, rfl⟩
    | error failure => exact hresults.elim
  | error failure =>
    cases result' with
    | ok made' => exact hresults.elim
    | error failure' =>
      obtain rfl : failure = failure' := hresults
      cases failure with
      | error chain => exact ⟨rfl, rfl⟩
      | panic message => exact ⟨rfl, rfl⟩

theorem relate_run
    (h : Errand.Relate R (Compilation.Same R) (compiler.compile input asked) (compiler'.compile input asked)) :
    Run.Relate R (Same R) (run compiler input asked) (run compiler' input asked) := by
  intro one other hR
  obtain ⟨hanswer, hleft⟩ := h one.workspace other.workspace hR
  rw [run_apply, run_apply]
  exact ⟨same_ofCompilation hanswer, hleft⟩

end Invocation

/-! ## Snapshot fixtures -/

namespace Snapshot

variable {fixture : SnapshotCase} {world : World}

/-- The text that the module of a fixture comes to emit, if the source can be read, its directive line makes sense and
it compiles to a valid module. -/
def emission? (subject : Subject) (fixture : SnapshotCase) (workspace : Workspace) : Option String := do
  let source ← (workspace.files.readText fixture.source).toOption
  let directed ← (Directive.options source.toList).toOption
  let made ← (Invocation.of subject.compiler (.file fixture.source) directed workspace).result.toOption
  made.validity.toOption
  made.text.toOption

theorem toOption_ok {ε α : Type} (a : α) : (Except.ok a : Except ε α).toOption = some a := rfl

/-- A module comes to a comparison of the text that it emits, or it fails wherever it is checked. -/
theorem checkModule_alike (fixture : SnapshotCase) (made : Module) :
    match (do made.validity.toOption; made.text.toOption : Option String) with
    | some text => ∀ options world,
      (checkModule fixture options made world).1 = verdictOutcome fixture.golden options.color
          (Golden.judge (Canonical.ofText text) fixture.golden options.create world.files).1 ∧
        (checkModule fixture options made world).2.files =
          (Golden.judge (Canonical.ofText text) fixture.golden options.create world.files).2
    | none => ∃ outcome : Outcome, outcome.isFailed = true ∧
        ∀ options world, checkModule fixture options made world = (outcome, world) := by
  cases hvalid : made.validity with
  | error chain =>
    refine ⟨_, Outcome.isFailed_failureWith "module failed validation" chain.inline, fun options world => ?_⟩
    simp only [checkModule, hvalid, Run.pure_apply]
  | ok _ =>
    cases htext : made.text with
    | error chain =>
      refine ⟨_, Outcome.isFailed_failureWith "could not emit text" chain.inline, fun options world => ?_⟩
      simp only [checkModule, hvalid, htext, Run.pure_apply]
    | ok text =>
      intro options world
      obtain ⟨hanswer, hleft⟩ := Golden.compare_apply (Canonical.ofText text) fixture.golden options.create world
      simp only [checkModule, hvalid, htext, Run.bind_apply, Run.pure_apply, hanswer, hleft, and_self]

/-- To a fixture two workspaces are alike: its source holds the same, and it compiles to the same. -/
def Alike (subject : Subject) (fixture : SnapshotCase) (one other : Workspace) : Prop :=
  other.files.readText fixture.source = one.files.readText fixture.source ∧
    ∀ asked, (subject.compiler.compile (.file fixture.source) asked other).1 =
      (subject.compiler.compile (.file fixture.source) asked one).1

/-- A turn goes by the compilation in any workspace that is alike. -/
theorem runCase_directed_alike (h : ∀ asked, (subject.compiler.compile (.file fixture.source) asked).Tidy)
    {found : Workspace} {source : String} {directed : CompilerOptions}
    (hread : found.files.readText fixture.source = .ok source)
    (hoptions : Directive.options source.toList = .ok directed) (options : RunOptions) {world : World}
    (halike : Alike subject fixture found world.workspace) :
    let invocation := Invocation.of subject.compiler (.file fixture.source) directed found
    ∃ left : World, left.files = world.files ∧
      runCase subject fixture options world = match invocation.result with
        | .error failure =>
          (⟨fixture.name, .failureWith "compilation failed" failure, invocation.notes options.color⟩, left)
        | .ok made =>
          (⟨fixture.name, (checkModule fixture options made left).1, invocation.notes options.color⟩,
            (checkModule fixture options made left).2) := by
  have hsource : world.files.readText fixture.source = .ok source := halike.1.trans hread
  have hcall : Invocation.of subject.compiler (.file fixture.source) directed world.workspace =
      Invocation.of subject.compiler (.file fixture.source) directed found :=
    congrArg Invocation.ofCompilation (halike.2 directed)
  have hrun := runCase_directed subject options fixture world hsource hoptions
  rw [hcall] at hrun
  exact ⟨_, Invocation.tidy_run (h directed) (world.noted [.fixtureStarted subject.name fixture.name]), hrun⟩

/-- Where a fixture finds the like of a workspace, its turns come to a comparison of the text that is emitted; without
such a text they fail in the same way and leave everything as it was. -/
def TurnsBy (subject : Subject) (fixture : SnapshotCase) (color : Bool) (found : Workspace) : Option String → Prop
  | some text => ∃ notes, ∀ options world, options.color = color → Alike subject fixture found world.workspace →
      (runCase subject fixture options world).1 = ⟨fixture.name, verdictOutcome fixture.golden color
          (Golden.judge (Canonical.ofText text) fixture.golden options.create world.files).1, notes⟩ ∧
        (runCase subject fixture options world).2.files =
          (Golden.judge (Canonical.ofText text) fixture.golden options.create world.files).2
  | none => ∃ finding : Finding, finding.outcome.isFailed = true ∧ ∀ options world, options.color = color →
      Alike subject fixture found world.workspace →
        (runCase subject fixture options world).1 = finding ∧
          (runCase subject fixture options world).2.files = world.files

theorem turnsBy_unread {found : Workspace} {fault : FileFault} (color : Bool)
    (hread : found.files.readText fixture.source = .error fault) : TurnsBy subject fixture color found none := by
  refine ⟨⟨fixture.name, .failureWith ("could not read " ++ fixture.source.text) fault.message, []⟩, rfl,
    fun options world _ halike => ?_⟩
  have hsource : world.files.readText fixture.source = .error fault := halike.1.trans hread
  simp [runCase, hsource]

theorem turnsBy_undirected {found : Workspace} {source : String} {fault : Directive.Fault} (color : Bool)
    (hread : found.files.readText fixture.source = .ok source)
    (hoptions : Directive.options source.toList = .error fault) : TurnsBy subject fixture color found none := by
  refine ⟨⟨fixture.name, .failure ("bad directive line: " ++ fault.message), []⟩, rfl,
    fun options world _ halike => ?_⟩
  have hsource : world.files.readText fixture.source = .ok source := halike.1.trans hread
  simp [runCase, hsource, hoptions]

/-- A turn whose source can be read and whose directive line makes sense goes by what the compiler hands back. -/
theorem turnsBy_directed (h : ∀ asked, (subject.compiler.compile (.file fixture.source) asked).Tidy) (color : Bool)
    {found : Workspace} {source : String} {directed : CompilerOptions}
    (hread : found.files.readText fixture.source = .ok source)
    (hoptions : Directive.options source.toList = .ok directed) :
    TurnsBy subject fixture color found (do
      let made ← (Invocation.of subject.compiler (.file fixture.source) directed found).result.toOption
      made.validity.toOption
      made.text.toOption) := by
  have hturn := @runCase_directed_alike subject fixture h found source directed hread hoptions
  generalize Invocation.of subject.compiler (.file fixture.source) directed found = invocation at hturn ⊢
  cases hresult : invocation.result with
  | error failure =>
    refine ⟨⟨fixture.name, .failureWith "compilation failed" failure, invocation.notes color⟩, rfl,
      fun options world hcolor halike => ?_⟩
    obtain ⟨left, hleft, hrun⟩ := hturn options halike
    simp only [hrun, hresult, hcolor, hleft, and_self]
  | ok made =>
    have hcheck := checkModule_alike fixture made
    rw [toOption_ok, Option.bind_eq_bind, Option.bind_some]
    cases hemitted : (do made.validity.toOption; made.text.toOption : Option String) with
    | none =>
      rw [hemitted] at hcheck
      obtain ⟨outcome, hfailed, hcheck⟩ := hcheck
      refine ⟨⟨fixture.name, outcome, invocation.notes color⟩, hfailed, fun options world hcolor halike => ?_⟩
      obtain ⟨left, hleft, hrun⟩ := hturn options halike
      simp only [hrun, hresult, hcolor, hcheck, hleft, and_self]
    | some text =>
      rw [hemitted] at hcheck
      refine ⟨invocation.notes color, fun options world hcolor halike => ?_⟩
      obtain ⟨left, hleft, hrun⟩ := hturn options halike
      obtain ⟨houtcome, hfiles⟩ := hcheck options left
      simp only [hrun, hresult, ← hcolor, houtcome, hfiles, hleft, and_self]

/-- A turn comes to a comparison of the text that is emitted, or it fails and leaves everything as it was. It does so
in the same way wherever the fixture finds the like of a workspace. -/
theorem runCase_alike (h : ∀ asked, (subject.compiler.compile (.file fixture.source) asked).Tidy) (color : Bool)
    (found : Workspace) : TurnsBy subject fixture color found (emission? subject fixture found) := by
  rw [emission?]
  cases hread : found.files.readText fixture.source with
  | error fault => exact turnsBy_unread color hread
  | ok source =>
    cases hoptions : Directive.options source.toList with
    | error fault =>
      rw [toOption_ok, Option.bind_eq_bind, Option.bind_some, hoptions]
      exact turnsBy_undirected color hread hoptions
    | ok directed =>
      rw [toOption_ok, Option.bind_eq_bind, Option.bind_some, hoptions]
      exact turnsBy_directed h color hread hoptions

/-- The two ways of a turn. -/
theorem runCase_cases (h : ∀ asked, (subject.compiler.compile (.file fixture.source) asked).Tidy)
    (options : RunOptions) (world : World) :
    (emission? subject fixture world.workspace = none ∧
        (runCase subject fixture options world).1.outcome.isFailed ∧
        (runCase subject fixture options world).2.files = world.files) ∨
      ∃ text, emission? subject fixture world.workspace = some text ∧
        (runCase subject fixture options world).1.outcome = verdictOutcome fixture.golden options.color
          (Golden.judge (Canonical.ofText text) fixture.golden options.create world.files).1 ∧
        (runCase subject fixture options world).2.files =
          (Golden.judge (Canonical.ofText text) fixture.golden options.create world.files).2 := by
  have hself : Alike subject fixture world.workspace world.workspace := ⟨rfl, fun _ => rfl⟩
  have hturn := runCase_alike h options.color world.workspace
  cases hemission : emission? subject fixture world.workspace with
  | none =>
    rw [hemission] at hturn
    obtain ⟨finding, hfailed, hturn⟩ := hturn
    obtain ⟨hanswer, hleft⟩ := hturn options world rfl hself
    exact .inl ⟨rfl, hanswer ▸ hfailed, hleft⟩
  | some text =>
    rw [hemission] at hturn
    obtain ⟨notes, hturn⟩ := hturn
    obtain ⟨hanswer, hleft⟩ := hturn options world rfl hself
    exact .inr ⟨text, rfl, congrArg Finding.outcome hanswer, hleft⟩

/-- A turn that may not create a golden file leaves the files as they are. -/
theorem tidy_runCase (h : ∀ asked, (subject.compiler.compile (.file fixture.source) asked).Tidy)
    (hcreate : options.create = false) : Run.Tidy (runCase subject fixture options) := by
  intro world
  rcases runCase_cases h options world with ⟨-, -, hleft⟩ | ⟨text, -, -, hleft⟩
  · exact hleft
  · rw [hleft, hcreate, Golden.judge_files]

theorem agree_compare {actual : String} {golden : Path} {mayCreate : Bool}
    (h : ∀ one other, R one other →
      (Golden.judge actual golden mayCreate one).1 = (Golden.judge actual golden mayCreate other).1 ∧
        R (Golden.judge actual golden mayCreate one).2 (Golden.judge actual golden mayCreate other).2) :
    Run.Agree R (Golden.compare actual golden mayCreate) (Golden.compare actual golden mayCreate) := by
  intro one other hR
  obtain ⟨hanswer, hleft⟩ := Golden.compare_apply actual golden mayCreate one
  obtain ⟨hanswer', hleft'⟩ := Golden.compare_apply actual golden mayCreate other
  rw [hanswer, hanswer', hleft, hleft']
  exact h one.files other.files hR

theorem agree_checkModule (made : Module) (h : ∀ actual, Run.Agree R
    (Golden.compare actual fixture.golden options.create) (Golden.compare actual fixture.golden options.create)) :
    Run.Agree R (checkModule fixture options made) (checkModule fixture options made) := by
  unfold checkModule
  cases made.validity with
  | error chain => exact Run.agree_pure _
  | ok _ =>
    cases made.text with
    | error chain => exact Run.agree_pure _
    | ok text => exact (h _).bind fun _ => Run.agree_pure _

/-- Turns of a fixture agree if its source reads the same, its compilations agree and so do comparisons with its golden
file. -/
theorem agree_runCase (hsource : ∀ one other : Store, R one other →
      one.readText fixture.source = other.readText fixture.source)
    (hcompile : ∀ asked, Errand.Agree R (subject.compiler.compile (.file fixture.source) asked)
      (other.compiler.compile (.file fixture.source) asked))
    (hcompare : ∀ actual, Run.Agree R (Golden.compare actual fixture.golden options.create)
      (Golden.compare actual fixture.golden options.create)) :
    Run.Agree R (runCase subject fixture options) (runCase other fixture options) := by
  refine (Run.agree_tell _ _).bind fun _ => (Run.agree_readText hsource).bind fun world => ?_
  cases (Run.readText fixture.source world).1 with
  | error fault => exact Run.agree_pure _
  | ok source =>
    cases hoptions : Directive.options source.toList with
    | error fault =>
      simp only [hoptions]
      exact Run.agree_pure _
    | ok directed =>
      simp only [hoptions]
      refine (Invocation.agree_run (hcompile directed)).bind fun world => ?_
      generalize (Invocation.run subject.compiler (.file fixture.source) directed world).1 = invocation
      cases invocation.result with
      | error failure => exact Run.agree_pure _
      | ok made => exact (agree_checkModule made hcompare).bind fun _ => Run.agree_pure _

end Snapshot

/-! ## Interop fixtures -/

namespace Interop

variable {registry registry' : Registry} {color : Bool} {fixtures : List InteropCase} {fixture : InteropCase}

theorem tidy_launchCase (h : ∀ asked, (subject.compiler.compile (.file fixture.source) asked).Tidy) :
    Run.Tidy (launchCase subject registry color fixtures fixture) :=
  launchCase_composed Run.composes_tidy (Run.tidy_tell _)
    (compileCase_composed Run.composes_tidy (Run.tidy_readText _) fun asked => Invocation.tidy_run (h asked))

/-- Turns find the files as the first of them does. -/
theorem files_turns (h : ∀ path asked, (subject.compiler.compile (.file path) asked).Tidy) (world : World)
    (rest : List InteropCase) {turn : InteropCase × World}
    (hturn : turn ∈ turns subject registry color fixtures world rest) :
    turn.1 ∈ rest ∧ turn.2.files = world.files :=
  (Run.files_along (fun _ _ => tidy_launchCase (h _)) world).1 turn hturn

theorem tidy_launch (h : ∀ path asked, (subject.compiler.compile (.file path) asked).Tidy) (rest : List InteropCase) :
    Run.Tidy (launch subject registry color fixtures rest) :=
  launch_composed Run.composes_tidy (fun _ => tidy_launchCase (h _)) rest

theorem tidy_settle (loads : List Pending) : Run.Tidy (settle subject loads) := by
  intro world
  obtain ⟨order, -, hsettle⟩ := settle_spec subject loads world
  rw [hsettle]
  rfl

theorem tidy_dispatch (h : ∀ path asked, (subject.compiler.compile (.file path) asked).Tidy) :
    Run.Tidy (dispatch subject registry color fixtures) :=
  (tidy_launch h fixtures).bind fun _ => (tidy_settle _).bind fun _ => Run.tidy_pure _

/-- The interop suite changes nothing. -/
theorem tidy_runSuite (h : ∀ path asked, (subject.compiler.compile (.file path) asked).Tidy) (environment : Environment)
    (options : RunOptions) (registry : Registry) : Run.Tidy (runSuite subject environment options registry) := by
  intro world
  cases hcapability : subject.loader.capability with
  | supported =>
    rw [runSuite_supported subject registry world environment options hcapability, tidy_dispatch h]
    rfl
  | unsupported reason =>
    obtain ⟨told, -, hrun⟩ := runSuite_unsupported subject registry world environment options hcapability
    rw [hrun]
    rfl

theorem agree_compileCase (hsource : ∀ one other : Store, R one other →
      one.readText fixture.source = other.readText fixture.source)
    (hcompile : ∀ asked, Errand.Agree R (subject.compiler.compile (.file fixture.source) asked)
      (other.compiler.compile (.file fixture.source) asked)) :
    Run.Agree R (compileCase subject fixture color) (compileCase other fixture color) := by
  refine (Run.agree_readText hsource).bind fun world => ?_
  cases (Run.readText fixture.source world).1 with
  | error fault => exact Run.agree_pure _
  | ok source =>
    cases hoptions : Directive.options source.toList with
    | error fault =>
      simp only [hoptions]
      exact Run.agree_pure _
    | ok directed =>
      simp only [hoptions]
      refine (Invocation.agree_run (hcompile directed.silenced)).bind fun world => ?_
      generalize (Invocation.run subject.compiler (.file fixture.source) directed.silenced world).1 = invocation
      cases invocation.result with
      | error failure => exact Run.agree_pure _
      | ok made =>
        dsimp only
        cases made.binary with
        | error chain => exact Run.agree_pure _
        | ok binary => exact Run.agree_pure _

/-- Turns of a fixture agree if its source reads the same, its compilations agree and it is paired with the same
runner. -/
theorem agree_launchCase (hsource : ∀ one other : Store, R one other →
      one.readText fixture.source = other.readText fixture.source)
    (hcompile : ∀ asked, Errand.Agree R (subject.compiler.compile (.file fixture.source) asked)
      (other.compiler.compile (.file fixture.source) asked))
    (hrunner : registry.get? fixture.id = registry'.get? fixture.id ∨ 1 < (sharing fixtures fixture.id).length) :
    Run.Agree R (launchCase subject registry color fixtures fixture)
      (launchCase other registry' color fixtures fixture) := by
  unfold launchCase
  by_cases hshared : 1 < (sharing fixtures fixture.id).length
  · simp only [if_pos hshared]
    exact Run.agree_pure _
  · simp only [if_neg hshared, hrunner.resolve_right hshared]
    cases registry'.get? fixture.id with
    | none => exact Run.agree_pure _
    | some runner =>
      refine (Run.agree_tell _ _).bind fun _ => (agree_compileCase hsource hcompile).bind fun world => ?_
      rcases (compileCase subject fixture color world).1 with ⟨outcome | binary, notes⟩
      · exact Run.agree_pure _
      · exact Run.agree_pure _

/-- A turn agrees with itself where its compilations do. -/
theorem agree_launchCase_stays {files : Store}
    (h : ∀ asked, Errand.Agree (Stays files) (subject.compiler.compile (.file fixture.source) asked)
      (subject.compiler.compile (.file fixture.source) asked)) :
    Run.Agree (Stays files) (launchCase subject registry color fixtures fixture)
      (launchCase subject registry color fixtures fixture) :=
  agree_launchCase (fun _ _ hsame => by rw [hsame.1, hsame.2]) h (.inl rfl)

theorem agree_launch (rest : List InteropCase) (h : ∀ fixture ∈ rest, Run.Agree R
      (launchCase subject registry color fixtures fixture) (launchCase other registry' color fixtures fixture)) :
    Run.Agree R (launch subject registry color fixtures rest) (launch other registry' color fixtures rest) := by
  induction rest with
  | nil => exact Run.agree_pure _
  | cons fixture rest ih =>
    intro one other hR
    obtain ⟨hfirst, hleft⟩ := h fixture List.mem_cons_self one other hR
    obtain ⟨hrest, hlast⟩ := ih (fun fixture hfixture => h fixture (List.mem_cons_of_mem _ hfixture)) _ _ hleft
    rw [launch_cons, launch_cons]
    exact ⟨by rw [hfirst, hrest], hlast⟩

end Interop

/-! ## The smoke test -/

namespace Smoke

/-- The smoke test changes nothing. -/
theorem tidy_run (h : subject.Tidy) (environment : Environment) (color : Bool) :
    Run.Tidy (run subject environment color) := by
  intro world
  have hcompile := Invocation.tidy_run (h.smoke environment.smokeSource) world
  have hmade : ∀ made, (Invocation.run subject.compiler (.memory fileName environment.smokeSource) .base
      world).1.result = .ok made → (subject.compiler.compile (.memory fileName environment.smokeSource) .base
        world.workspace).1.result = .ok made := fun made hresult => by
    rw [Invocation.run_apply] at hresult
    exact (Invocation.result_of_eq_ok _ _ _).mp hresult
  rw [run, Run.bind_apply]
  generalize Invocation.run subject.compiler (.memory fileName environment.smokeSource) .base world = ran at *
  obtain ⟨⟨result, diagnostics⟩, now⟩ := ran
  cases result with
  | error failure => exact hcompile
  | ok made =>
    have hoptimize := h.optimizer _ _ _ (hmade made rfl) now.workspace hcompile
    dsimp only
    split
    · exact hcompile
    · rw [Run.bind_apply, Run.lift_apply]
      generalize made.optimizeOnce now.workspace = optimized at hoptimize ⊢
      rcases optimized with ⟨chain | ⟨_ | ⟨diagnostic, diagnostics⟩, emitted⟩, left⟩
      · exact hoptimize.trans hcompile
      · exact hoptimize.trans hcompile
      · exact hoptimize.trans hcompile

theorem tidy_runSuite (h : subject.Tidy) (environment : Environment) (options : RunOptions) :
    Run.Tidy (runSuite subject environment options) := by
  unfold runSuite
  split
  · exact Run.tidy_pure _
  · exact (Run.tidy_tell _).bind fun _ => (tidy_run h environment options.color).bind fun _ => Run.tidy_pure _

/-- Smoke tests agree if compilations of the smoke source do, and optimizations of what they make. -/
theorem agree_run {environment : Environment}
    (h : Errand.Relate R (Compilation.Same R)
      (subject.compiler.compile (.memory fileName environment.smokeSource) .base)
      (other.compiler.compile (.memory fileName environment.smokeSource) .base)) (color : Bool) :
    Run.Agree R (run subject environment color) (run other environment color) := by
  refine (Invocation.relate_run h).bind fun invocation invocation' hsame => ?_
  obtain ⟨result, diagnostics⟩ := invocation
  obtain ⟨result', diagnostics'⟩ := invocation'
  obtain ⟨hresults, rfl : diagnostics = diagnostics'⟩ := hsame
  rcases result with failure | made <;> rcases result' with failure' | made'
  · obtain rfl : failure = failure' := hresults
    exact Run.agree_pure _
  · exact hresults.elim
  · exact hresults.elim
  · have hagree : Errand.Agree R made.optimizeOnce made'.optimizeOnce := hresults
    dsimp only
    split
    · exact Run.agree_pure _
    · refine (Run.agree_lift hagree).bind fun world => ?_
      rcases ((liftM made.optimizeOnce : Run _) world).1 with chain | ⟨_ | ⟨diagnostic, diagnostics⟩, emitted⟩
      · exact Run.agree_pure _
      · exact Run.agree_pure _
      · exact (Run.agree_tell _ _).bind fun _ => Run.agree_pure _

theorem agree_runSuite {files : Store} (h : subject.Isolated files) (environment : Environment)
    (options : RunOptions) :
    Run.Agree (Stays files) (runSuite subject environment options) (runSuite subject environment options) := by
  unfold runSuite
  split
  · exact Run.agree_pure _
  · exact (Run.agree_tell _ _).bind fun _ =>
      (agree_run (h.smoke environment.smokeSource) options.color).bind fun _ => Run.agree_pure _

end Smoke

/-! ## The round trip -/

namespace RoundTrip

theorem tidy_convert (h : subject.Tidy) (text : String) : Run.Tidy (convert subject.converter text) := by
  refine (Run.tidy_tell _).bind fun _ => (Run.tidy_lift (h.toBinary true text)).bind fun world => ?_
  cases ((liftM (subject.converter.toBinary true text) : Run _) world).1 with
  | error failure => exact Run.tidy_pure _
  | ok binary =>
    exact (Run.tidy_tell _).bind fun _ => (Run.tidy_tell _).bind fun _ => Run.tidy_lift (h.toText true binary)

theorem tidy_run (h : subject.Tidy) (text : String) (color : Bool) : Run.Tidy (run subject.converter text color) := by
  refine (tidy_convert h text).bind fun world => ?_
  cases (convert subject.converter text world).1 with
  | error failure => exact Run.tidy_pure _
  | ok back =>
    dsimp only
    split
    · exact Run.tidy_pure _
    · exact (Run.tidy_compareTexts _ _).bind fun _ => Run.tidy_pure _

/-- The round trip changes nothing. -/
theorem tidy_runSuite (h : subject.Tidy) (options : RunOptions) : Run.Tidy (runSuite subject options) := by
  unfold runSuite
  split
  · exact Run.tidy_pure _
  · exact (Run.tidy_tell _).bind fun _ => (tidy_run h builtIn options.color).bind fun _ => Run.tidy_pure _

theorem agree_convert {text : String}
    (hbinary : Errand.Agree R (subject.converter.toBinary true text) (subject.converter.toBinary true text))
    (htext : ∀ binary, Errand.Agree R (subject.converter.toText true binary) (subject.converter.toText true binary)) :
    Run.Agree R (convert subject.converter text) (convert subject.converter text) := by
  refine (Run.agree_tell _ _).bind fun _ => (Run.agree_lift hbinary).bind fun world => ?_
  cases ((liftM (subject.converter.toBinary true text) : Run _) world).1 with
  | error failure => exact Run.agree_pure _
  | ok binary =>
    exact (Run.agree_tell _ _).bind fun _ => (Run.agree_tell _ _).bind fun _ => Run.agree_lift (htext binary)

/-- Round trips agree if conversions do. -/
theorem agree_run {text : String}
    (hbinary : Errand.Agree R (subject.converter.toBinary true text) (subject.converter.toBinary true text))
    (htext : ∀ binary, Errand.Agree R (subject.converter.toText true binary) (subject.converter.toText true binary))
    (color : Bool) : Run.Agree R (run subject.converter text color) (run subject.converter text color) := by
  refine (agree_convert hbinary htext).bind fun world => ?_
  cases (convert subject.converter text world).1 with
  | error failure => exact Run.agree_pure _
  | ok back =>
    dsimp only
    split
    · exact Run.agree_pure _
    · exact (Run.agree_compareTexts _ _).bind fun _ => Run.agree_pure _

theorem agree_runSuite {files : Store} (h : subject.Isolated files) (options : RunOptions) :
    Run.Agree (Stays files) (runSuite subject options) (runSuite subject options) := by
  unfold runSuite
  split
  · exact Run.agree_pure _
  · exact (Run.agree_tell _ _).bind fun _ =>
      (agree_run (h.toBinary true builtIn) (h.toText true) options.color).bind fun _ => Run.agree_pure _

end RoundTrip

/-! ## A subject -/

namespace Session

variable {registry : Registry}

/-- What a subject leaves is what its snapshot fixtures leave. -/
theorem runSubject_leaves (h : subject.Tidy) (hgolden : Path.isBadExtension environment.goldenExtension = false)
    (options : RunOptions) (registry : Registry) (world : World) :
    (afterInterop subject environment options registry world).files =
        (afterSnapshots subject environment options world).files ∧
      (afterSmoke subject environment options registry world).files =
        (afterSnapshots subject environment options world).files ∧
      (runSubject subject environment options registry world).2.files =
        (afterSnapshots subject environment options world).files := by
  -- each suite starts from what the one before it left
  have hinterop := Interop.tidy_runSuite h.file environment options registry
    (afterSnapshots subject environment options world)
  have hsmoke := (Smoke.tidy_runSuite h environment options
    (afterInterop subject environment options registry world)).trans hinterop
  have hround := (RoundTrip.tidy_runSuite h options
    (afterSmoke subject environment options registry world)).trans hsmoke
  refine ⟨hinterop, hsmoke, ?_⟩
  rw [runSubject_apply subject environment options registry world
    (congrArg Prod.fst (Snapshot.runSuite_apply hgolden subject options (started subject world)))]
  exact hround

theorem tidy_faultless : faultless.Tidy where
  file _ _ := Errand.tidy_pure _
  smoke _ := Errand.tidy_pure _
  optimizer source workspace made h now _ := by
    cases h
    rfl
  toBinary _ _ := Errand.tidy_pure _
  toText _ _ := Errand.tidy_pure _

theorem isolated_faultless (files : Store) : faultless.Isolated files where
  file _ _ := Errand.agree_pure _
  smoke _ _ _ hfiles := ⟨⟨Errand.agree_pure _, rfl⟩, hfiles⟩
  toBinary _ _ := Errand.agree_pure _
  toText _ _ := Errand.agree_pure _

theorem tidy_interrupted : interrupted.Tidy where
  file _ _ := Errand.tidy_pure _
  smoke _ := Errand.tidy_pure _
  optimizer source workspace made h := by cases h
  toBinary _ _ := Errand.tidy_pure _
  toText _ _ := Errand.tidy_pure _

theorem isolated_interrupted (files : Store) : interrupted.Isolated files where
  file _ _ := Errand.agree_pure _
  smoke _ _ _ hfiles := ⟨⟨rfl, rfl⟩, hfiles⟩
  toBinary _ _ := Errand.agree_pure _
  toText _ _ := Errand.agree_pure _

end Session

end GoldenBench
