import GoldenBench.Proofs.Interop.Passing

/-!
# The verdict on a runner

What a runner does on an instance is a list of steps and an ending, given by rules (`Performs`) apart from the program
that takes the steps. The verdict is told by them.

* `exists_performs`, `Performs.unique`: a runner takes its steps in one way, on any instance.
* `Performs.run`: the checks that are recorded and the calls that are made are those among the steps, in order.
* `outcome_judges`: the verdict by the steps and the ending.
* `shows_failures_iff`: a verdict shows every failed check, unless the runner was interrupted (`panic_hides_failures`).
-/

namespace GoldenBench

/-! ## Texts in a text -/

/-- Texts stand in a text one after another, without overlapping. -/
def Text.Occur : List (List Char) → List Char → Prop
  | [], _ => True
  | text :: texts, whole => ∃ before after, whole = before ++ text ++ after ∧ Occur texts after

namespace Text

variable {text whole : List Char} {texts : List (List Char)}

theorem Occur.append_left (h : Occur texts whole) (before : List Char) : Occur texts (before ++ whole) := by
  cases texts with
  | nil => trivial
  | cons text texts =>
    obtain ⟨before', after, rfl, hrest⟩ := h
    exact ⟨before ++ before', after, by simp, hrest⟩

theorem Occur.of_cons (h : Occur (text :: texts) whole) : Occur texts whole := by
  obtain ⟨before, after, rfl, hrest⟩ := h
  exact hrest.append_left (before ++ text)

/-- Joined texts stand in what they are joined to. -/
theorem occur_intercalate (separator : List Char) (texts : List (List Char)) :
    Occur texts (separator.intercalate texts) := by
  induction texts with
  | nil => trivial
  | cons text texts ih =>
    cases texts with
    | nil => exact ⟨[], [], by simp, trivial⟩
    | cons next texts =>
      exact ⟨[], separator ++ separator.intercalate (next :: texts), by simp [List.intercalate_cons_cons],
        ih.append_left separator⟩

end Text

/-- The detail of a failure. -/
def Outcome.detail? : Outcome → Option String
  | .failed _ detail => detail
  | _ => none

/-- The detail of an outcome shows texts, one after another. -/
def Outcome.Shows (outcome : Outcome) (texts : List String) : Prop :=
  Text.Occur (texts.map String.toList) (outcome.detail?.getD "").toList

namespace Runner

/-! ## Steps -/

/-- What a call that wants one whole number makes of the answer: the number, or the failure that ends the runner. -/
def number (name : String) : Reply → Except Failure Int32
  | .values [.i32 result] => .ok result
  | .values results =>
    .error (.error (.plain
      (name ++ " returned " ++ bracketed (results.map Value.inspect) ++ ", expected a single i32")))
  | .error chain => .error (.error chain)
  | .panic message => .error (.panic message)

/-- A step that a runner takes before it ends. -/
inductive Step where
  /-- It checks a condition. -/
  | expected (site : String) (holds : Bool) (what : String)
  /-- It checks that two data are equal. -/
  | compared (site : String) (actual expected : Datum) (what : String)
  /-- It calls an export and gets an answer. -/
  | called (name : String) (arguments : List Int32) (reply : Reply)
  /-- It asks for the names of the exports. -/
  | listed (names : List String)

namespace Step

/-- The step is a check that holds, or no check. -/
def Holds : Step → Prop
  | .expected _ holds _ => holds = true
  | .compared _ actual wanted _ => actual.same wanted = true
  | .called .. => True
  | .listed _ => True

/-- What is recorded of a check that does not hold. -/
def failure? : Step → Option FailedCheck
  | .expected site holds what => if holds then none else some ⟨site, "expected " ++ what⟩
  | .compared site actual wanted what =>
    if actual.same wanted then none
    else some ⟨site, what ++ ": expected " ++ wanted.inspect ++ ", got " ++ actual.inspect⟩
  | .called .. => none
  | .listed _ => none

/-- The call that reaches the instance. -/
def call? : Step → Option Call
  | .called name arguments _ => some ⟨name, arguments.map .i32⟩
  | _ => none

theorem failure?_eq_none_iff (step : Step) : step.failure? = none ↔ step.Holds := by
  cases step <;> simp [failure?, Holds]

end Step

/-- The texts of the checks that did not hold, in the order of the steps. -/
def failures (steps : List Step) : List String :=
  (steps.filterMap Step.failure?).map FailedCheck.text

/-- A runner takes steps on an instance and comes to an ending. -/
inductive Performs : Runner → Instance → List Step → Except Failure Unit → Prop where
  /-- At the end there is nothing left to do. -/
  | finish {live : Instance} : Performs .finish live [] (.ok ())
  /-- The runner gives up. -/
  | fail {live : Instance} {chain : ErrorChain} : Performs (.fail chain) live [] (.error (.error chain))
  /-- The runner is interrupted. -/
  | panic {live : Instance} {message : Option String} :
      Performs (.panic message) live [] (.error (.panic message))
  /-- The runner goes on after a condition, whether it holds or not. -/
  | expect {live : Instance} {site what : String} {holds : Bool} {next : Runner} {steps : List Step}
      {ending : Except Failure Unit} (rest : Performs next live steps ending) :
      Performs (.expect site holds what next) live (.expected site holds what :: steps) ending
  /-- The runner goes on after a comparison, whatever comes of it. -/
  | compare {live : Instance} {site what : String} {actual wanted : Datum} {next : Runner} {steps : List Step}
      {ending : Except Failure Unit} (rest : Performs next live steps ending) :
      Performs (.compare site actual wanted what next) live (.compared site actual wanted what :: steps) ending
  /-- The runner goes on with the number that a call returned, on the instance as the call left it. -/
  | call {live : Instance} {name : String} {arguments : List Int32} {reply : Reply} {state : live.State}
      {value : Int32} {next : Int32 → Runner} {steps : List Step} {ending : Except Failure Unit}
      (answer : live.call live.state name (arguments.map .i32) = (reply, state))
      (returned : number name reply = .ok value)
      (rest : Performs (next value) { live with state := state } steps ending) :
      Performs (.callI32 name arguments next) live (.called name arguments reply :: steps) ending
  /-- A call that did not return one number is the last step. -/
  | stop {live : Instance} {name : String} {arguments : List Int32} {reply : Reply} {state : live.State}
      {failed : Failure} {next : Int32 → Runner}
      (answer : live.call live.state name (arguments.map .i32) = (reply, state))
      (stopped : number name reply = .error failed) :
      Performs (.callI32 name arguments next) live [.called name arguments reply] (.error failed)
  /-- The runner goes on with the names of the exports. -/
  | exports {live : Instance} {next : List String → Runner} {steps : List Step} {ending : Except Failure Unit}
      (rest : Performs (next live.exports) live steps ending) :
      Performs (.exports next) live (.listed live.exports :: steps) ending

variable {runner : Runner} {live : Instance} {steps : List Step} {ending : Except Failure Unit}

/-- Every runner comes to an ending. -/
theorem exists_performs (runner : Runner) (live : Instance) : ∃ steps ending, Performs runner live steps ending := by
  induction runner generalizing live with
  | finish => exact ⟨_, _, .finish⟩
  | fail chain => exact ⟨_, _, .fail⟩
  | panic message => exact ⟨_, _, .panic⟩
  | expect site holds what next ih =>
    obtain ⟨steps, ending, h⟩ := ih live
    exact ⟨_, _, .expect h⟩
  | compare site actual wanted what next ih =>
    obtain ⟨steps, ending, h⟩ := ih live
    exact ⟨_, _, .compare h⟩
  | callI32 name arguments next ih =>
    cases hresult : number name (live.call live.state name (arguments.map .i32)).1 with
    | ok value =>
      obtain ⟨steps, ending, h⟩ := ih value { live with state := (live.call live.state name (arguments.map .i32)).2 }
      exact ⟨_, _, .call rfl hresult h⟩
    | error failed => exact ⟨_, _, .stop rfl hresult⟩
  | exports next ih =>
    obtain ⟨steps, ending, h⟩ := ih live.exports live
    exact ⟨_, _, .exports h⟩

/-- A runner takes its steps in one way. -/
theorem Performs.unique {steps' : List Step} {ending' : Except Failure Unit} (h : Performs runner live steps ending)
    (h' : Performs runner live steps' ending') : steps' = steps ∧ ending' = ending := by
  induction h generalizing steps' ending' with
  | finish | fail | panic =>
    cases h'
    exact ⟨rfl, rfl⟩
  | expect rest ih | compare rest ih | exports rest ih =>
    cases h'
    rename_i rest'
    obtain ⟨rfl, rfl⟩ := ih rest'
    exact ⟨rfl, rfl⟩
  | call answer returned rest ih =>
    cases h' with
    | call answer' returned' rest' =>
      cases answer.symm.trans answer'
      cases returned.symm.trans returned'
      obtain ⟨rfl, rfl⟩ := ih rest'
      exact ⟨rfl, rfl⟩
    | stop answer' stopped' =>
      cases answer.symm.trans answer'
      cases returned.symm.trans stopped'
  | stop answer stopped =>
    cases h' with
    | call answer' returned' rest' =>
      cases answer.symm.trans answer'
      cases stopped.symm.trans returned'
    | stop answer' stopped' =>
      cases answer.symm.trans answer'
      cases stopped.symm.trans stopped'
      exact ⟨rfl, rfl⟩

/-! ## The run and its steps -/

theorem callI32_eq (checks : Checks) (name : String) (arguments : List Int32) :
    checks.callI32 name arguments =
      (number name (checks.call name (arguments.map .i32)).1, (checks.call name (arguments.map .i32)).2) := by
  unfold Checks.callI32
  split <;> rename_i h <;> rw [h]
  · rfl
  · -- the answer is not one number, so the rule for several values applies
    rename_i hnot
    rw [number]
    exact hnot
  · rfl
  · rfl

theorem expect_eq (checks : Checks) (site : String) (holds : Bool) (what : String) :
    checks.expect site holds what =
      { checks with failed := checks.failed ++ (Step.expected site holds what).failure?.toList } := by
  cases holds <;> simp [Checks.expect, Checks.record, Step.failure?]

theorem compare_eq (checks : Checks) (site : String) (actual wanted : Datum) (what : String) :
    checks.compare site actual wanted what =
      { checks with failed := checks.failed ++ (Step.compared site actual wanted what).failure?.toList } := by
  by_cases h : actual.same wanted <;> simp [Checks.compare, Checks.record, Step.failure?, h]

theorem filterMap_cons_eq {α β : Type} (f : α → Option β) (a : α) (rest : List α) :
    (a :: rest).filterMap f = (f a).toList ++ rest.filterMap f := by
  cases h : f a <;> simp [h]

/-- A run comes to the ending. On the way it records the checks that do not hold, and makes the calls. -/
theorem Performs.run (h : Performs runner live steps ending) (failed : List FailedCheck) (calls : List Call) :
    ∃ after, runner.run ⟨live, failed, calls⟩ =
      (ending, ⟨after, failed ++ steps.filterMap Step.failure?, calls ++ steps.filterMap Step.call?⟩) := by
  induction h generalizing failed calls with
  | @finish live | @fail live | @panic live => exact ⟨live, by simp [Runner.run]⟩
  | expect rest ih =>
    obtain ⟨after, hrun⟩ := ih (failed ++ (Step.expected _ _ _).failure?.toList) calls
    refine ⟨after, ?_⟩
    rw [Runner.run, expect_eq, hrun, filterMap_cons_eq, List.append_assoc]
    rfl
  | compare rest ih =>
    obtain ⟨after, hrun⟩ := ih (failed ++ (Step.compared _ _ _ _).failure?.toList) calls
    refine ⟨after, ?_⟩
    rw [Runner.run, compare_eq, hrun, filterMap_cons_eq, List.append_assoc]
    rfl
  | @call live name arguments reply state value next steps ending answer returned rest ih =>
    obtain ⟨after, hrun⟩ := ih failed (calls ++ [⟨name, arguments.map .i32⟩])
    refine ⟨after, ?_⟩
    rw [Runner.run, callI32_eq, Checks.call, answer]
    dsimp only
    rw [returned]
    dsimp only
    rw [hrun, List.append_assoc]
    rfl
  | @stop live name arguments reply state failure next answer stopped =>
    refine ⟨{ live with state := state }, ?_⟩
    rw [Runner.run, callI32_eq, Checks.call, answer]
    dsimp only
    rw [stopped]
    simp [Step.failure?, Step.call?]
  | exports rest ih =>
    obtain ⟨after, hrun⟩ := ih failed calls
    exact ⟨after, hrun⟩

/-! ## The verdict -/

/-- A call that does not return one number is the last step, and ends the runner. -/
theorem Performs.stopped {before after : List Step} {name : String} {arguments : List Int32} {reply : Reply}
    {failed : Failure} (h : Performs runner live steps ending)
    (hsteps : steps = before ++ .called name arguments reply :: after) (hstopped : number name reply = .error failed) :
    after = [] ∧ ending = .error failed := by
  induction h generalizing before with
  | finish | fail | panic => simp at hsteps
  | expect rest ih | compare rest ih | exports rest ih =>
    cases before with
    | nil => cases hsteps
    | cons step before => exact ih (List.cons.inj hsteps).2
  | call answer returned rest ih =>
    cases before with
    | nil =>
      cases hsteps
      cases returned.symm.trans hstopped
    | cons step before => exact ih (List.cons.inj hsteps).2
  | stop answer stopped =>
    cases before with
    | nil =>
      cases hsteps
      cases stopped.symm.trans hstopped
      exact ⟨rfl, rfl⟩
    | cons step before => simp at hsteps

/-- What the verdict says of an ending and the steps that led to it. -/
structure Judged (steps : List Step) (ending : Except Failure Unit) (outcome : Outcome) : Prop where
  /-- The runner passes just if it came to its end and every check on the way held. -/
  passes : outcome = .passed ↔ ending = .ok () ∧ ∀ step ∈ steps, step.Holds
  /-- At its end, the checks that failed are counted and listed. -/
  counts : ending = .ok () → failures steps ≠ [] →
    outcome = .failed
      (toString (failures steps).length ++ " assertion" ++ (if (failures steps).length = 1 then "" else "s") ++
        " failed")
      (some ("\n".intercalate (failures steps)))
  /-- An error fails the fixture, and comes before the checks that failed earlier. -/
  errs : ∀ chain, ending = .error (.error chain) →
    outcome = .failed "runner returned an error" (some ("\n".intercalate (chain.inline :: failures steps)))
  /-- An interruption fails the fixture, and is all that is said. -/
  panics : ∀ message, ending = .error (.panic message) →
    outcome = .failed "runner panicked" (some (message.getD silentPanic))
  /-- A call that does not return one number is the last step, and ends the runner. -/
  stops : ∀ before name arguments reply after failed, steps = before ++ .called name arguments reply :: after →
    number name reply = .error failed → after = [] ∧ ending = .error failed

theorem failures_eq_nil_iff (steps : List Step) : failures steps = [] ↔ ∀ step ∈ steps, step.Holds := by
  simp [failures, List.filterMap_eq_nil_iff, Step.failure?_eq_none_iff]

theorem Performs.outcome_eq (h : Performs runner live steps ending) :
    runner.outcome live = verdict ending (failures steps) := by
  obtain ⟨after, hrun⟩ := h.run [] []
  rw [outcome, Checks.start, hrun]
  rfl

/-- A verdict that is no failure says that all is well. -/
theorem verdict_eq_passed_iff (ending : Except Failure Unit) (failed : List String) :
    verdict ending failed = .passed ↔ (verdict ending failed).isFailed = false := by
  unfold verdict
  split
  · simp [Outcome.isFailed]
  · simp [Outcome.isFailed]
  · split <;> simp [Outcome.isFailed]

theorem Performs.judged (h : Performs runner live steps ending) : Judged steps ending (runner.outcome live) := by
  rw [h.outcome_eq]
  refine ⟨?_, ?_, ?_, ?_, fun _ _ _ _ _ _ => h.stopped⟩
  · rw [verdict_eq_passed_iff, verdict_passes_iff, failures_eq_nil_iff]
  · rintro rfl hfailures
    rw [verdict, if_neg (mt List.isEmpty_iff.mp hfailures)]
    rfl
  · rintro chain rfl
    rfl
  · rintro message rfl
    rfl

/-- A runner takes its steps in one way and comes to one ending, the instance gets the calls among the steps, and the
verdict is told by the steps and the ending. -/
theorem outcome_judges (runner : Runner) (live : Instance) :
    ∃ steps ending,
      (∀ steps' ending', Performs runner live steps' ending' ↔ steps' = steps ∧ ending' = ending) ∧
      (runner.run (.start live)).2.calls = steps.filterMap Step.call? ∧
      Judged steps ending (runner.outcome live) := by
  obtain ⟨steps, ending, h⟩ := exists_performs runner live
  refine ⟨steps, ending, fun steps' ending' => ⟨h.unique, ?_⟩, ?_, ?_⟩
  · rintro ⟨rfl, rfl⟩
    exact h
  · obtain ⟨after, hrun⟩ := h.run [] []
    rw [Checks.start, hrun]
    rfl
  · exact h.judged

/-! ## What the verdict shows -/

theorem occur_join (texts : List String) : Text.Occur (texts.map String.toList) ("\n".intercalate texts).toList := by
  rw [String.toList_intercalate]
  exact Text.occur_intercalate _ _

/-- The verdict shows the checks that failed, in order, just if the runner was not interrupted or the message of the
interruption happens to show them. -/
theorem shows_failures_iff (h : Performs runner live steps ending) :
    (runner.outcome live).Shows (failures steps) ↔
      ∀ message, ending = .error (.panic message) →
        Text.Occur ((failures steps).map String.toList) (message.getD silentPanic).toList := by
  have hjudged := h.judged
  rcases ending with (chain | message) | ⟨⟩
  · rw [hjudged.errs chain rfl]
    exact ⟨fun _ _ heq => (nomatch heq), fun _ => (occur_join (chain.inline :: failures steps)).of_cons⟩
  · rw [hjudged.panics message rfl]
    constructor
    · rintro hshows _ ⟨⟩
      exact hshows
    · exact fun hmessage => hmessage message rfl
  · refine ⟨fun _ _ heq => (nomatch heq), fun _ => ?_⟩
    by_cases hfailures : failures steps = []
    · rw [hfailures]
      trivial
    · rw [hjudged.counts rfl hfailures]
      exact occur_join (failures steps)

/-- An instance without exports. -/
def bare : Instance :=
  ⟨Unit, (), [], fun _ name _ => (.error (.plain ("no export " ++ name)), ())⟩

/-- Two checks that fail, and then a call of an export that is missing. -/
def disappointed : Runner :=
  .expect "here:3:5" false "an export named add" <| .compare "here:4:5" (.int 1) (.int 2) "exports" <|
    .callI32 "add" [1, 2] fun _ => .finish

/-- What that runner does on an instance without exports. -/
def disappointment : List Step :=
  [.expected "here:3:5" false "an export named add", .compared "here:4:5" (.int 1) (.int 2) "exports",
    .called "add" [1, 2] (.error (.plain "no export add"))]

/-- Checks that failed before an error are shown. -/
theorem shows_failures_before_error :
    Performs disappointed bare disappointment (.error (.error (.plain "no export add"))) ∧
    failures disappointment = ["here:3:5: expected an export named add", "here:4:5: exports: expected 2, got 1"] ∧
    disappointed.outcome bare = .failed "runner returned an error"
      (some "no export add\nhere:3:5: expected an export named add\nhere:4:5: exports: expected 2, got 1") ∧
    (disappointed.outcome bare).Shows (failures disappointment) := by
  have hperforms : Performs disappointed bare disappointment (.error (.error (.plain "no export add"))) :=
    .expect (.compare (.stop rfl rfl))
  refine ⟨hperforms, by decide +kernel, by decide +kernel, ?_⟩
  exact (shows_failures_iff hperforms).mpr fun _ heq => nomatch heq

/-- A check that fails, and then an interruption. -/
def interrupted : Runner :=
  .expect "here:3:5" false "an export named add" (.panic (some "boom"))

/-- Not every check that failed is shown: an interruption hides those before it. -/
theorem panic_hides_failures :
    ¬ ∀ (runner : Runner) (live : Instance) (steps : List Step) (ending : Except Failure Unit),
      Performs runner live steps ending → (runner.outcome live).Shows (failures steps) := by
  intro h
  have hperforms : Performs interrupted bare [.expected "here:3:5" false "an export named add"]
      (.error (.panic (some "boom"))) := .expect .panic
  obtain ⟨before, after, hdetail, -⟩ := h _ _ _ _ hperforms
  have hlength : 4 = (before ++ "here:3:5: expected an export named add".toList ++ after).length :=
    congrArg List.length hdetail
  rw [List.length_append, List.length_append, show "here:3:5: expected an export named add".toList.length = 38 from rfl]
    at hlength
  omega

end Runner

end GoldenBench
