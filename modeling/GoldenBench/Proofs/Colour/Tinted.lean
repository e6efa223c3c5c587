import GoldenBench.Proofs.Colour.Steps
import GoldenBench.Proofs.Interop.Tasks
import GoldenBench.Proofs.Session

/-!
# What a coloured and a plain run come to

Tools and runners have no colour if nothing has that they say when a run asks them. What two runs come to is tinted if
it is the same but for the sequences in what is shown, and for the numbers of interrupted tasks.

* `Session.Colourless`: what a run asks the tools of its subjects is answered without colour. There is one definition
  for each suite.
* `Outcome.Tinted`, `Finding.Tinted`, `Summary.Tinted`: what a coloured run and a plain one come to.
-/

namespace GoldenBench

open Ansi (Colourless)

/-! ## What is said in a run -/

/-- Diagnostics without colour. -/
def DiagnosticsColourless (diagnostics : List Diagnostic) : Prop :=
  ∀ diagnostic ∈ diagnostics, Colourless diagnostic.message

/-- What came of a call of the compiler has no colour. -/
structure Invocation.Colourless (P : Module → Prop) (invocation : Invocation) : Prop where
  /-- What the compiler had to say. -/
  diagnostics : DiagnosticsColourless invocation.diagnostics
  /-- The module is as it should be, or the failure is worded without colour. -/
  result : Words id P invocation.result

/-- A call of the compiler says nothing with colour, and brings none into the file tree. -/
structure Compiler.Colourless (P : Module → Prop) (compiler : Compiler) (input : CompilerInput)
    (asked : CompilerOptions) (workspace : Workspace) : Prop where
  /-- What comes of it. -/
  answer : (Invocation.of compiler input asked workspace).Colourless P
  /-- The files that it leaves. -/
  left : workspace.files.Colourless → (compiler.compile input asked workspace).2.files.Colourless

/-- A module says without colour whether it is valid, and then emits a text without colour. -/
def Snapshot.Emits (made : Module) : Prop :=
  Words ErrorChain.inline (fun _ => Words ErrorChain.inline Ansi.Colourless made.text) made.validity

/-- At the turn of a snapshot fixture, nothing is said with colour by the compiler, if it is called, and by its
module. -/
def Snapshot.Colourless (subject : Subject) (turn : SnapshotCase × World) : Prop :=
  ∀ source asked, turn.2.files.readText turn.1.source = .ok source → Directive.options source.toList = .ok asked →
    subject.compiler.Colourless Emits (.file turn.1.source) asked turn.2.workspace

/-- A runner finds nothing wrong with an instance that it says with colour. -/
structure Runner.Colourless (runner : Runner) (live : Instance) : Prop where
  /-- How it ends. -/
  ending : Words Failure.text (fun _ => True) (runner.run (.start live)).1
  /-- The checks that fail. -/
  failed : ∀ failed ∈ (runner.run (.start live)).2.failed, Ansi.Colourless failed.text

/-- A runner says nothing with colour of what comes of a binary. -/
def Interop.Loads (loader : Loader) (runner : Runner) (binary : ByteArray) : Prop :=
  ∀ live, loader.load binary = .loaded live → runner.Colourless live

/-- At the turn of an interop fixture, nothing is said with colour by the compiler, if it is called, and by its module,
nor by the runner once the module is loaded. -/
def Interop.Colourless (subject : Subject) (registry : Registry) (fixtures : List InteropCase)
    (turn : InteropCase × World) : Prop :=
  ∀ runner asked, registry.get? turn.1.id = some runner → call? registry fixtures turn.1 turn.2.files = some asked →
    subject.compiler.Colourless (fun made => Words ErrorChain.inline (Loads subject.loader runner) made.binary)
      (.file turn.1.source) asked turn.2.workspace

/-- Where there were no diagnostics, a module is optimized without a word in colour, and then emits a text without
colour. -/
def Smoke.Optimizes (diagnostics : List Diagnostic) (workspace : Workspace) (made : Module) : Prop :=
  diagnostics = [] → made.optimizeOnce.Colourless
    (Words ErrorChain.inline fun answer =>
      DiagnosticsColourless answer.1 ∧ Words ErrorChain.inline Ansi.Colourless answer.2.text) workspace

/-- Nothing is said with colour of the smoke source, nor by the optimizer of its module and by the module after that. -/
def Smoke.Colourless (subject : Subject) (environment : Environment) (world : World) : Prop :=
  subject.compiler.Colourless
    (Optimizes (compiled subject environment world).1.diagnostics
      (world.after (compiled subject environment world).2).workspace)
    (.memory fileName environment.smokeSource) .base world.workspace

/-- A text is converted to binary without a word in colour, and back to one without colour. -/
def RoundTrip.Colourless (converter : Converter) (text : String) (world : World) : Prop :=
  (converter.toBinary true text).Colourless
    (Words Failure.text fun binary => (converter.toText true binary).Colourless (Words Failure.text Ansi.Colourless)
      (world.after (converter.toBinary true text world.workspace).2).workspace)
    world.workspace

/-- What a run asks of a subject that starts in a world is answered without colour. -/
structure Subject.Colourless (subject : Subject) (environment : Environment) (options : RunOptions)
    (registry : Registry) (world : World) : Prop where
  /-- What is asked for each snapshot fixture at its turn. -/
  snapshots : ∀ turn ∈ Snapshot.turns subject options (Session.started subject world) environment,
    Snapshot.Colourless subject turn
  /-- What is asked for each interop fixture at its turn, if modules can be executed. -/
  interop : subject.loader.capability = .supported →
    ∀ turn ∈ Interop.turnsIn subject registry environment options
        (Session.afterSnapshots subject environment options world),
      Interop.Colourless subject registry (Interop.casesIn environment options.filter
        (Session.afterSnapshots subject environment options world).files) turn
  /-- What is asked by the smoke test, unless it is filtered out. -/
  smoke : options.filter.accepts Smoke.name = true →
    Smoke.Colourless subject environment (Session.afterInterop subject environment options registry world)
  /-- What is asked by the round trip, unless it is filtered out. -/
  roundTrip : options.filter.accepts RoundTrip.name = true →
    RoundTrip.Colourless subject.converter RoundTrip.builtIn
      (Session.afterSmoke subject environment options registry world)

/-- What a run asks is answered without colour: that is so of each subject whose turn comes to an end. -/
def Session.Colourless (environment : Environment) (options : RunOptions) (registry : Registry)
    (subjects : List Subject) (world : World) : Prop :=
  ∀ turn ∈ turns environment options registry world subjects, ∀ summary,
    (runSubject turn.1 environment options registry turn.2).1 = .ok summary →
      turn.1.Colourless environment options registry turn.2

theorem FileFault.colourless_message (fault : FileFault) : Colourless fault.message := by
  cases fault <;> decide +kernel

theorem Text.colourless_joinLines {texts : List String} (h : ∀ text ∈ texts, Colourless text) :
    Colourless (joinLines texts) := by
  unfold Colourless
  rw [joinLines, String.toList_intercalate]
  induction texts with
  | nil => simp
  | cons text texts ih =>
    have htext : Ansi.escape ∉ text.toList := h text List.mem_cons_self
    cases texts with
    | nil => simpa using htext
    | cons next texts =>
      have hrest := ih fun text hmem => h text (List.mem_cons_of_mem _ hmem)
      have hnewline : Ansi.escape ∉ "\n".toList := by decide
      rw [List.map_cons, List.map_cons, List.intercalate_cons_cons, ← List.map_cons, List.mem_append,
        List.mem_append]
      tauto

/-! ## What two runs come to -/

/-- The reasons of failures whose details say where files are. -/
def NamesFiles (reason : String) : Prop :=
  reason = "could not check the golden file" ∨
    ∃ id count, reason = "runner id " ++ id ++ " is shared by " ++ count ++ " fixtures"

/-- Outcomes of a coloured run and of a plain one: the same but for the details of failures. A detail of the coloured
run without its sequences is that of the plain run; but one that says where files are, and has colour from there, is
the same in both. -/
inductive Outcome.Tinted : Outcome → Outcome → Prop
  /-- They are the same, without details. -/
  | same (outcome : Outcome) (h : ∀ reason detail, outcome ≠ .failureWith reason detail) : Tinted outcome outcome
  /-- Both tell of an interrupted task, whose numbers may differ. -/
  | interrupted (task task' : Nat) (message : Option String) :
    Tinted (Interop.interrupted task message) (Interop.interrupted task' message)
  /-- Their details are the same but for sequences. -/
  | shown (reason coloured plain : String) (h : Ansi.remove coloured = plain) :
    Tinted (.failureWith reason coloured) (.failureWith reason plain)
  /-- Their details say where files are, and have colour from there. -/
  | names (reason detail : String) (hnames : NamesFiles reason) (hcolour : ¬ Colourless detail) :
    Tinted (.failureWith reason detail) (.failureWith reason detail)

namespace Outcome

theorem tinted_passed : Tinted .passed .passed := .same _ fun _ _ h => nomatch h

theorem tinted_failure (reason : String) : Tinted (.failure reason) (.failure reason) :=
  .same _ fun _ _ h => nomatch h

theorem tinted_failureWith (reason : String) {detail : String} (h : Colourless detail) :
    Tinted (.failureWith reason detail) (.failureWith reason detail) :=
  .shown _ _ _ (Ansi.remove_colourless h)

theorem tinted_of_namesFiles {reason : String} (h : NamesFiles reason) (detail : String) :
    Tinted (.failureWith reason detail) (.failureWith reason detail) := by
  by_cases hcolourless : Colourless detail
  · exact tinted_failureWith reason hcolourless
  · exact .names _ _ h hcolourless

/-- They are of one kind. -/
theorem Tinted.kind_eq {coloured plain : Outcome} (h : Tinted coloured plain) :
    ∀ kind ∈ [isPassed, isCreated, isFailed, isSkipped], kind coloured = kind plain := by
  cases h with
  | same => exact fun _ _ => rfl
  | interrupted task task' message => exact (Alike.interrupted task task' message).kind_eq
  | shown reason coloured plain => simp [failureWith, isPassed, isCreated, isFailed, isSkipped]
  | names => exact fun _ _ => rfl

end Outcome

/-- Findings of a coloured run and of a plain one. -/
structure Finding.Tinted (coloured plain : Finding) : Prop where
  /-- They are on the same fixture. -/
  fixture : coloured.fixture = plain.fixture
  /-- Their outcomes are the same but for details. -/
  outcome : coloured.outcome.Tinted plain.outcome
  /-- The coloured notes without their sequences are the plain ones. -/
  notes : coloured.notes.map Ansi.remove = plain.notes

/-- Reports of a coloured run and of a plain one. -/
structure Report.Tinted (coloured plain : Report) : Prop where
  /-- They have the same name. -/
  name : coloured.name = plain.name
  /-- Their outcomes are the same but for details. -/
  outcome : coloured.outcome.Tinted plain.outcome
  /-- The coloured notes without their sequences are the plain ones. -/
  notes : coloured.notes.map Ansi.remove = plain.notes

/-- Summaries of a coloured run and of a plain one. -/
structure Summary.Tinted (coloured plain : Summary) : Prop where
  /-- They are of the same subject. -/
  subject : coloured.subject = plain.subject
  /-- They have the same reports in the same order, but for colour. -/
  reports : List.Forall₂ Report.Tinted coloured.reports plain.reports
  /-- They count the same. -/
  counts : ∀ kind ∈ [Outcome.isPassed, Outcome.isCreated, Outcome.isFailed, Outcome.isSkipped],
    coloured.count kind = plain.count kind

theorem Finding.tinted_plain {fixture : String} {coloured plain : Outcome} (h : coloured.Tinted plain) :
    Finding.Tinted ⟨fixture, coloured, []⟩ ⟨fixture, plain, []⟩ :=
  ⟨rfl, h, rfl⟩

theorem Finding.Tinted.report {coloured plain : Finding} (h : coloured.Tinted plain) (subject suite : String) :
    (coloured.report subject suite).Tinted (plain.report subject suite) where
  name := by rw [Finding.report, Finding.report, h.fixture]
  outcome := h.outcome
  notes := h.notes

theorem Summary.tinted_of_reports {subject : String} {coloured plain : List Report}
    (h : List.Forall₂ Report.Tinted coloured plain) : Summary.Tinted ⟨subject, coloured⟩ ⟨subject, plain⟩ where
  subject := rfl
  reports := h
  counts kind hkind := by
    unfold Summary.count
    induction h with
    | nil => rfl
    | cons hreport _ ih =>
      simp only [List.filter_cons, hreport.outcome.kind_eq kind hkind]
      split
      · rw [List.length_cons, List.length_cons, ih]
      · exact ih

end GoldenBench
