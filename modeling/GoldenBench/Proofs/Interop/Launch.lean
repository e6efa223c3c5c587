import GoldenBench.Proofs.Run
import GoldenBench.Suite.Interop

/-!
# Fixtures on their way to a load

The compiler is called for a fixture just if no other fixture has its id, a runner is registered under the id, the
source can be read and its directive line makes sense (`call?`). The fixture is loaded just if a binary comes of the
call (`load?`).

* `launchCase_answer`: a fixture that is not loaded fails.
* `launchCase_events`: what is told on the way are the calls of the compiler, and no runner starts.
* `launch_answer` and `launch_events` are the same of all fixtures, one after another.
* `launchCase_composed` and `launch_composed`: what holds of the steps on the way holds of all of it.
-/

namespace GoldenBench.Interop

variable (subject : Subject) (registry : Registry) (color : Bool) (fixtures : List InteropCase)
variable (fixture : InteropCase) (workspace : Workspace) (world : World)

/-! ## What becomes of a fixture -/

/-- The options that the directive line of a source asks for, if the source can be read and the line makes sense. -/
def directed? (files : Store) : Option CompilerOptions := do
  let source ← (files.readText fixture.source).toOption
  let directed ← (Directive.options source.toList).toOption
  return directed.silenced

/-- The options of the call of the compiler, if there is one. -/
def call? (files : Store) : Option CompilerOptions :=
  if 1 < (fixtures.filter (·.id = fixture.id)).length then none
  else do
    let _ ← registry.get? fixture.id
    directed? fixture files

/-- What comes of the call of the compiler, if there is one. -/
def invocation? : Option Invocation :=
  (call? registry fixtures fixture workspace.files).map fun options =>
    .of subject.compiler (.file fixture.source) options workspace

/-- The binary that came of a call of the compiler, if it is one. -/
def binary? (invocation : Invocation) : Option ByteArray := do
  let made ← invocation.result.toOption
  made.binary.toOption

/-- The load of a fixture, if it gets there. -/
def load? : Option Pending := do
  let runner ← registry.get? fixture.id
  let invocation ← invocation? subject registry fixtures fixture workspace
  let binary ← binary? invocation
  return ⟨fixture, runner, invocation.notes color, binary⟩

/-- What the compiler had to say on a fixture. -/
def notes : List String :=
  ((invocation? subject registry fixtures fixture workspace).map (·.notes color)).getD []

/-- The call of the compiler as it is told. -/
def callEvent? (files : Store) : Option Event :=
  (call? registry fixtures fixture files).map (.compiling (.file fixture.source))

/-- The event is the start of a runner. -/
def startsRunner : Event → Bool
  | .runnerStarted .. => true
  | _ => false

theorem toOption_eq_some {ε α : Type} {result : Except ε α} {a : α} : result.toOption = some a ↔ result = .ok a := by
  cases result with
  | error fault => simp [Except.toOption]
  | ok a => simp [Except.toOption]

theorem directed?_eq_some {options : CompilerOptions} {files : Store} :
    directed? fixture files = some options ↔ ∃ source directed, files.readText fixture.source = .ok source ∧
      Directive.options source.toList = .ok directed ∧ directed.silenced = options := by
  simp [directed?, Option.bind_eq_some_iff, toOption_eq_some]

theorem call?_eq_some {options : CompilerOptions} {files : Store} :
    call? registry fixtures fixture files = some options ↔
      (fixtures.filter (·.id = fixture.id)).length ≤ 1 ∧ (∃ runner, registry.get? fixture.id = some runner) ∧
        directed? fixture files = some options := by
  by_cases hshared : 1 < (fixtures.filter (·.id = fixture.id)).length
  · rw [call?, if_pos hshared]
    exact ⟨fun h => (Option.some_ne_none _ h.symm).elim, fun h => absurd hshared (Nat.not_lt.mpr h.1)⟩
  · rw [call?, if_neg hshared]
    simp [Nat.not_lt.mp hshared, Option.bind_eq_some_iff]

/-- The load of a fixture at its turn. -/
def loadAt? (turn : InteropCase × World) : Option Pending :=
  load? subject registry color fixtures turn.1 turn.2.workspace

theorem loadAt?_eq_some {turn : InteropCase × World} {pending : Pending} :
    loadAt? subject registry color fixtures turn = some pending ↔
      ∃ runner options made binary, registry.get? turn.1.id = some runner ∧
        call? registry fixtures turn.1 turn.2.files = some options ∧
        (subject.compiler.compile (.file turn.1.source) options turn.2.workspace).1.result = .ok made ∧
        made.binary = .ok binary ∧
        pending = ⟨turn.1, runner,
          (Invocation.of subject.compiler (.file turn.1.source) options turn.2.workspace).notes color, binary⟩ := by
  simp only [loadAt?, load?, invocation?, binary?, Option.bind_eq_bind, Option.bind_eq_some_iff, Option.map_eq_some_iff,
    toOption_eq_some]
  constructor
  · rintro ⟨runner, hrunner, invocation, ⟨options, hcall, rfl⟩, binary, ⟨made, hmade, hbinary⟩, h⟩
    cases h
    exact ⟨runner, options, made, binary, hrunner, hcall, (Invocation.result_of_eq_ok _ _ _).mp hmade, hbinary, rfl⟩
  · rintro ⟨runner, options, made, binary, hrunner, hcall, hmade, hbinary, rfl⟩
    exact ⟨runner, hrunner, _, ⟨options, hcall, rfl⟩, binary,
      ⟨made, (Invocation.result_of_eq_ok _ _ _).mpr hmade, hbinary⟩, rfl⟩

/-! ## Compiling -/

theorem compileCase_undirected (h : directed? fixture world.files = none) :
    ∃ outcome : Outcome, outcome.isFailed ∧
      compileCase subject fixture color world = ((.error outcome, []), world) := by
  simp only [compileCase, Run.bind_apply, Run.readText_apply]
  cases hread : world.files.readText fixture.source with
  | error fault => exact ⟨_, rfl, rfl⟩
  | ok source =>
    cases hoptions : Directive.options source.toList with
    | error fault => simp only [hoptions]; exact ⟨_, rfl, rfl⟩
    | ok directed => rw [(directed?_eq_some fixture).mpr ⟨source, directed, hread, hoptions, rfl⟩] at h; cases h

theorem compileCase_directed {options : CompilerOptions} (h : directed? fixture world.files = some options) :
    let invocation := Invocation.of subject.compiler (.file fixture.source) options world.workspace
    (compileCase subject fixture color world).2 =
        (Invocation.run subject.compiler (.file fixture.source) options world).2 ∧
      (compileCase subject fixture color world).1.2 = invocation.notes color ∧
      match binary? invocation with
      | some binary => (compileCase subject fixture color world).1.1 = .ok binary
      | none => ∃ outcome : Outcome, outcome.isFailed ∧
          (compileCase subject fixture color world).1.1 = .error outcome := by
  obtain ⟨source, directed, hread, hoptions, rfl⟩ := (directed?_eq_some fixture).mp h
  simp only [compileCase, Run.bind_apply, Run.readText_apply, hread, hoptions, Invocation.run_apply, binary?]
  cases hresult : (Invocation.of subject.compiler (.file fixture.source) directed.silenced world.workspace).result with
  | error failure => exact ⟨rfl, rfl, _, rfl, rfl⟩
  | ok made =>
    cases hbinary : made.binary with
    | error chain => simp [hbinary, Except.toOption, Outcome.failureWith, Outcome.isFailed]
    | ok binary => simp [hbinary, Except.toOption]

/-! ## One fixture -/

/-- A fixture whose id is another's too, or is no runner's, goes no further. -/
theorem launchCase_refused
    (h : 1 < (fixtures.filter (·.id = fixture.id)).length ∨ registry.get? fixture.id = none) :
    ∃ outcome : Outcome, outcome.isFailed ∧
      launchCase subject registry color fixtures fixture world = (.error ⟨fixture.name, outcome, []⟩, world) := by
  by_cases hshared : 1 < (fixtures.filter (·.id = fixture.id)).length
  · simp only [launchCase, sharing, List.length_map, if_pos hshared]
    exact ⟨_, rfl, rfl⟩
  · have hnone := h.resolve_left hshared
    simp only [launchCase, sharing, List.length_map, if_neg hshared, hnone]
    exact ⟨_, rfl, rfl⟩

/-- What the compilation of a fixture makes of it: a finding on it, or its load. -/
def arrival (runner : Runner) (compiled : Except Outcome ByteArray × List String) : Except Finding Pending :=
  match compiled.1 with
  | .error outcome => .error ⟨fixture.name, outcome, compiled.2⟩
  | .ok binary => .ok ⟨fixture, runner, compiled.2, binary⟩

/-- Any other fixture is compiled, if it can be. -/
theorem launchCase_admitted {runner : Runner} (hshared : ¬ 1 < (fixtures.filter (·.id = fixture.id)).length)
    (hrunner : registry.get? fixture.id = some runner) :
    let compiled := compileCase subject fixture color (world.noted [.interopStarted subject.name fixture.name])
    launchCase subject registry color fixtures fixture world = (arrival fixture runner compiled.1, compiled.2) := by
  simp only [launchCase, sharing, List.length_map, if_neg hshared, hrunner]
  rw [Run.bind_apply, Run.tell_apply, Run.bind_apply]
  rcases compileCase subject fixture color (world.noted [.interopStarted subject.name fixture.name]) with
    ⟨⟨outcome | binary, notes⟩, left⟩
  · rfl
  · rfl

theorem call?_refused (h : 1 < (fixtures.filter (·.id = fixture.id)).length ∨ registry.get? fixture.id = none)
    (files : Store) : call? registry fixtures fixture files = none := by
  rcases h with h | h
  · rw [call?, if_pos h]
  · rw [call?, h]
    exact ite_self none

theorem call?_admitted {runner : Runner} (hshared : ¬ 1 < (fixtures.filter (·.id = fixture.id)).length)
    (hrunner : registry.get? fixture.id = some runner) (files : Store) :
    call? registry fixtures fixture files = directed? fixture files := by
  rw [call?, if_neg hshared, hrunner]
  rfl

theorem launchCase_answer :
    match load? subject registry color fixtures fixture world.workspace with
    | some pending => (launchCase subject registry color fixtures fixture world).1 = .ok pending
    | none => ∃ outcome : Outcome, outcome.isFailed ∧ (launchCase subject registry color fixtures fixture world).1 =
        .error ⟨fixture.name, outcome, notes subject registry color fixtures fixture world.workspace⟩ := by
  by_cases h : 1 < (fixtures.filter (·.id = fixture.id)).length ∨ registry.get? fixture.id = none
  · obtain ⟨outcome, hfailed, hlaunch⟩ := launchCase_refused subject registry color fixtures fixture world h
    have hcall := call?_refused registry fixtures fixture h world.workspace.files
    simp only [load?, notes, invocation?, hcall, hlaunch]
    simpa using hfailed
  · obtain ⟨hshared, hregistered⟩ := not_or.mp h
    obtain ⟨runner, hrunner⟩ := Option.ne_none_iff_exists'.mp hregistered
    have hcall := call?_admitted registry fixtures fixture hshared hrunner world.workspace.files
    have hlaunch := launchCase_admitted subject registry color fixtures fixture world hshared hrunner
    rw [hlaunch]
    cases hdirected : directed? fixture world.workspace.files with
    | none =>
      obtain ⟨outcome, hfailed, hcompile⟩ := compileCase_undirected subject color fixture
        (world.noted [.interopStarted subject.name fixture.name]) hdirected
      simp [load?, notes, invocation?, hcall, hrunner, hdirected, hcompile, hfailed, arrival]
    | some options =>
      obtain ⟨-, hnotes, hbinary⟩ := compileCase_directed subject color fixture
        (world.noted [.interopStarted subject.name fixture.name]) hdirected
      rw [World.workspace_noted] at hnotes hbinary
      simp only [load?, notes, invocation?, hcall, hrunner, hdirected]
      cases hemitted : binary? (.of subject.compiler (.file fixture.source) options world.workspace) with
      | none =>
        rw [hemitted] at hbinary
        obtain ⟨outcome, hfailed, hcompile⟩ := hbinary
        simp [hemitted, hcompile, hfailed, hnotes, arrival]
      | some binary =>
        rw [hemitted] at hbinary
        simp [hemitted, hbinary, hnotes, arrival]

theorem launchCase_events :
    ∃ events, (launchCase subject registry color fixtures fixture world).2.journal = world.journal ++ events ∧
      events.filter Event.isCompilation = (callEvent? registry fixtures fixture world.files).toList ∧
      ∀ event ∈ events, startsRunner event = false := by
  by_cases h : 1 < (fixtures.filter (·.id = fixture.id)).length ∨ registry.get? fixture.id = none
  · obtain ⟨outcome, -, hlaunch⟩ := launchCase_refused subject registry color fixtures fixture world h
    refine ⟨[], by rw [hlaunch, List.append_nil], ?_, by simp⟩
    rw [callEvent?, call?_refused registry fixtures fixture h]
    rfl
  · obtain ⟨hshared, hregistered⟩ := not_or.mp h
    obtain ⟨runner, hrunner⟩ := Option.ne_none_iff_exists'.mp hregistered
    rw [launchCase_admitted subject registry color fixtures fixture world hshared hrunner, callEvent?,
      call?_admitted registry fixtures fixture hshared hrunner]
    cases hdirected : directed? fixture world.files with
    | none =>
      obtain ⟨outcome, -, hcompile⟩ := compileCase_undirected subject color fixture
        (world.noted [.interopStarted subject.name fixture.name]) hdirected
      refine ⟨[.interopStarted subject.name fixture.name], by rw [hcompile]; rfl, rfl, by simp [startsRunner]⟩
    | some options =>
      obtain ⟨hleft, -⟩ := compileCase_directed subject color fixture
        (world.noted [.interopStarted subject.name fixture.name]) hdirected
      obtain ⟨later, hjournal, hlater⟩ := Invocation.run_journal subject.compiler (.file fixture.source) options
        (world.noted [.interopStarted subject.name fixture.name])
      refine ⟨.interopStarted subject.name fixture.name :: .compiling (.file fixture.source) options :: later,
        by rw [hleft, hjournal]; simp, ?_, ?_⟩
      · have hnone : later.filter Event.isCompilation = [] := List.filter_eq_nil_iff.mpr fun event h => by
          rcases hlater event h with ⟨line, rfl⟩ | ⟨count, rfl⟩ <;> simp [Event.isCompilation]
        exact congrArg (.compiling (.file fixture.source) options :: ·) hnone
      · intro event h
        rcases List.mem_cons.mp h with rfl | h
        · rfl
        rcases List.mem_cons.mp h with rfl | h
        · rfl
        rcases hlater event h with ⟨line, rfl⟩ | ⟨count, rfl⟩ <;> rfl

section

variable {P : ∀ {α : Type}, Run α → Prop} {subject} {registry} {color} {fixtures} {fixture}

/-- What holds of reading and of calls of the compiler holds of the compilation of a fixture. -/
theorem compileCase_composed (h : Run.Composes P) (hread : P (Run.readText fixture.source))
    (hrun : ∀ asked, P (Invocation.run subject.compiler (.file fixture.source) asked)) :
    P (compileCase subject fixture color) := by
  refine h.bind hread fun read => ?_
  cases read with
  | error fault => exact h.pure _
  | ok source =>
    dsimp only
    cases Directive.options source.toList with
    | error fault => exact h.pure _
    | ok directed =>
      refine h.bind (hrun _) fun invocation => ?_
      cases invocation.result with
      | error failure => exact h.pure _
      | ok made =>
        dsimp only
        cases made.binary with
        | error chain => exact h.pure _
        | ok binary => exact h.pure _

/-- What holds of telling that a fixture is compiled, and of its compilation, holds of its way to a load. -/
theorem launchCase_composed (h : Run.Composes P) (htell : P (Run.tell (.interopStarted subject.name fixture.name)))
    (hcompile : P (compileCase subject fixture color)) :
    P (launchCase subject registry color fixtures fixture) := by
  unfold launchCase
  by_cases hshared : 1 < (sharing fixtures fixture.id).length
  · simp only [if_pos hshared]
    exact h.pure _
  · simp only [if_neg hshared]
    cases registry.get? fixture.id with
    | none => exact h.pure _
    | some runner =>
      refine h.bind htell fun _ => h.bind hcompile fun compiled => ?_
      rcases compiled with ⟨outcome | binary, notes⟩
      · exact h.pure _
      · exact h.pure _

/-- What holds of the ways of fixtures to their loads holds of all of them, one after another. -/
theorem launch_composed (h : Run.Composes P)
    (hlaunch : ∀ fixture, P (launchCase subject registry color fixtures fixture)) (rest : List InteropCase) :
    P (launch subject registry color fixtures rest) := by
  induction rest with
  | nil => exact h.pure _
  | cons fixture rest ih =>
    refine h.bind (hlaunch fixture) fun first => h.bind ih fun others => ?_
    cases first with
    | error finding => exact h.pure _
    | ok pending => exact h.pure _

end

theorem orderless_launchCase : Run.Orderless (launchCase subject registry color fixtures fixture) :=
  launchCase_composed Run.composes_orderless (Run.orderless_tell _)
    (compileCase_composed Run.composes_orderless (Run.orderless_readText _) fun _ => Invocation.orderless_run _ _ _)

/-! ## All fixtures -/

variable (rest : List InteropCase)

/-- The turns of fixtures on their way to a load. -/
def turns : List (InteropCase × World) :=
  Run.along (launchCase subject registry color fixtures) rest world

theorem orderless_launch : Run.Orderless (launch subject registry color fixtures rest) :=
  launch_composed Run.composes_orderless (orderless_launchCase subject registry color fixtures) rest

theorem launch_cons :
    let first := launchCase subject registry color fixtures fixture world
    let others := launch subject registry color fixtures rest first.2
    launch subject registry color fixtures (fixture :: rest) world =
      (match first.1 with
        | .error finding => (finding :: others.1.1, others.1.2)
        | .ok pending => (others.1.1, pending :: others.1.2), others.2) := by
  intro first others
  change (match first.1 with | .error finding => _ | .ok pending => _ : Run _) others.2 = _
  cases first.1 with
  | error finding => rfl
  | ok pending => rfl

/-- A fixture that is not loaded has failed, with what the compiler had to say on it. -/
def FailsAs (turn : InteropCase × World) (finding : Finding) : Prop :=
  finding.fixture = turn.1.name ∧ finding.outcome.isFailed ∧
    finding.notes = notes subject registry color fixtures turn.1 turn.2.workspace

theorem launch_answer :
    (launch subject registry color fixtures rest world).1.2 =
      (turns subject registry color fixtures world rest).filterMap (loadAt? subject registry color fixtures) ∧
    List.Forall₂ (FailsAs subject registry color fixtures)
      ((turns subject registry color fixtures world rest).filter fun turn =>
        (loadAt? subject registry color fixtures turn).isNone)
      (launch subject registry color fixtures rest world).1.1 := by
  induction rest generalizing world with
  | nil => exact ⟨rfl, .nil⟩
  | cons fixture rest ih =>
    obtain ⟨hloads, hfindings⟩ := ih (launchCase subject registry color fixtures fixture world).2
    have hfirst := launchCase_answer subject registry color fixtures fixture world
    rw [launch_cons, turns, Run.along, List.filterMap_cons, List.filter_cons, loadAt?]
    rw [turns] at hloads hfindings
    cases hload : load? subject registry color fixtures fixture world.workspace with
    | none =>
      rw [hload] at hfirst
      obtain ⟨outcome, hfailed, hanswer⟩ := hfirst
      simp only [hanswer]
      exact ⟨hloads, .cons ⟨rfl, hfailed, rfl⟩ hfindings⟩
    | some pending =>
      rw [hload] at hfirst
      simp only [hfirst]
      exact ⟨congrArg _ hloads, hfindings⟩

theorem launch_events :
    ∃ events, (launch subject registry color fixtures rest world).2.journal = world.journal ++ events ∧
      events.filter Event.isCompilation =
        (turns subject registry color fixtures world rest).filterMap (fun turn =>
          callEvent? registry fixtures turn.1 turn.2.files) ∧
      ∀ event ∈ events, startsRunner event = false := by
  induction rest generalizing world with
  | nil => exact ⟨[], (List.append_nil _).symm, rfl, by simp⟩
  | cons fixture rest ih =>
    obtain ⟨first, hfirst, hcall, hquiet⟩ := launchCase_events subject registry color fixtures fixture world
    obtain ⟨others, hothers, hcalls, hquiets⟩ := ih (launchCase subject registry color fixtures fixture world).2
    refine ⟨first ++ others, ?_, ?_, ?_⟩
    · rw [launch_cons, hothers, hfirst, List.append_assoc]
    · rw [List.filter_append, hcall, hcalls, turns, turns, Run.along, List.filterMap_cons]
      cases callEvent? registry fixtures fixture world.files with
      | none => rfl
      | some event => rfl
    · intro event h
      rcases List.mem_append.mp h with h | h
      · exact hquiet event h
      · exact hquiets event h

end GoldenBench.Interop
