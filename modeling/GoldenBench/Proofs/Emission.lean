import GoldenBench.External.Compiler
import GoldenBench.Proofs.Files.Scratch

/-!
# A module never mixes two runs of its compiler

A run of an external compiler comes to a text and a binary just if the program exited successfully and left both of
them where neither had been (`External.Job.outcome_eq_ok`). A module hands out what its latest such run left.

* `External.Launch.absent`: no output is there when a run begins, so none of it is left over from another run.
* `External.Job.ask_fits` is one question to a module, and `External.Job.askAll_fits` any number of them.
* `External.Job.askAll_latest`: whatever is asked of a module that was compiled.
-/

namespace GoldenBench

/-- Reading messages leaves the file tree as it is. -/
theorem Errand.files_readMessages (text : String) (workspace : Workspace) :
    (readMessages text workspace).2.files = workspace.files := by
  have hstrays : ∀ (lines : List String) (workspace : Workspace),
      ((lines.forM tellStray : Errand PUnit) workspace).2.files = workspace.files := by
    intro lines
    induction lines with
    | nil => intro workspace; rfl
    | cons line rest ih =>
      intro workspace
      exact ih (tellStray line workspace).2
  exact hstrays _ _

namespace External

open Errand (withScratch_fst pure_apply bind_apply files_apply files_readMessages)

variable (host : Host) (tool : Tool) (home : Path) (options : CompilerOptions)

/-- The text and the binary stem from a run that ended well and wrote both. -/
theorem emitted_eq_ok {output : ToolOutput} {textPath binaryPath : Path} {files : Store} {made : Emitted} :
    emitted output textPath binaryPath files = .ok made ↔
      output.status = 0 ∧ files.readText textPath = .ok made.text ∧ files.read binaryPath = .ok made.binary := by
  obtain ⟨text, binary⟩ := made
  by_cases hstatus : output.status = 0
  · rw [emitted, if_neg (by simpa using hstatus), readEmitted]
    cases files.readText textPath with
    | error fault => simp [Except.mapError, bind, Except.bind]
    | ok text' =>
      cases files.read binaryPath with
      | error fault => simp [Except.mapError, bind, Except.bind]
      | ok binary' => simp [Except.mapError, bind, Except.bind, pure, Except.pure, hstatus]
  · simp [emitted, hstatus]

/-- A binary is valid just if it begins with the magic number and the version. -/
theorem validity_eq_ok (binary : ByteArray) : validity binary = .ok () ↔ magic ++ version <+: binary.toList := by
  have hbegins : magic ++ version <+: binary.toList ↔
      binary.toList.take 4 = magic ∧ (binary.toList.drop 4).take 4 = version := by
    constructor
    · rintro ⟨rest, hrest⟩
      rw [← hrest]
      exact ⟨rfl, rfl⟩
    · rintro ⟨hmagic, hversion⟩
      refine ⟨(binary.toList.drop 4).drop 4, ?_⟩
      rw [← hmagic, ← hversion, List.append_assoc, List.take_append_drop, List.take_append_drop]
  rw [hbegins, validity]
  split
  · rename_i hmagic
    simp [hmagic]
  · split
    · rename_i hversion
      simp [hversion]
    · rename_i hmagic hversion
      exact ⟨fun _ => ⟨not_not.mp hmagic, not_not.mp hversion⟩, fun _ => rfl⟩

/-! ## How a run begins and ends -/

/-- How a run begins. -/
structure Launch where
  /-- The path of the input. -/
  input : Path
  /-- The directory for the text and the binary. -/
  scratch : Path
  /-- What the program finds. -/
  start : Workspace

/-- How a run begins, if there is a place for its text and its binary. -/
def launch? (input : Path) (before : Workspace) : Option Launch :=
  match Errand.makeScratch before with
  | (.ok scratch, start) => some ⟨input, scratch.path, start⟩
  | (.error _, _) => none

namespace Launch

/-- The file that the text is written to. -/
def textPath (launch : Launch) : Path :=
  launch.scratch.join ⟨"module.wat"⟩

/-- The file that the binary is written to. -/
def binaryPath (launch : Launch) : Path :=
  launch.scratch.join ⟨"module.wasm"⟩

end Launch

/-- What comes of a run that began. -/
theorem compileIn_fst (optimize : Bool) (launch : Launch) :
    (compileIn host tool home options optimize launch.input launch.scratch launch.start).1.1 =
      match host.run (tool.command home
          (compilerArguments launch.input launch.textPath launch.binaryPath options optimize)) launch.start with
      | (.error fault, _) => .error (.because ("while running " ++ tool.program) fault.message)
      | (.ok exit, left) => emitted (.ofExit exit) launch.textPath launch.binaryPath left.files := by
  rw [compileIn, bind_apply, Tool.run, bind_apply, Launch.textPath, Launch.binaryPath]
  rcases host.run (tool.command home (compilerArguments launch.input (launch.scratch.join ⟨"module.wat"⟩)
    (launch.scratch.join ⟨"module.wasm"⟩) options optimize)) launch.start with ⟨fault | exit, left⟩
  · rfl
  · simp only [pure_apply, bind_apply, files_apply, files_readMessages]

/-- A run leaves the file tree that the program leaves. -/
theorem files_compileIn (optimize : Bool) (launch : Launch) :
    (compileIn host tool home options optimize launch.input launch.scratch launch.start).2.files =
      (host.run (tool.command home
        (compilerArguments launch.input launch.textPath launch.binaryPath options optimize)) launch.start).2.files := by
  rw [compileIn, bind_apply, Tool.run, bind_apply, Launch.textPath, Launch.binaryPath]
  rcases host.run (tool.command home (compilerArguments launch.input (launch.scratch.join ⟨"module.wat"⟩)
    (launch.scratch.join ⟨"module.wasm"⟩) options optimize)) launch.start with ⟨fault | exit, left⟩
  · rfl
  · simp only [pure_apply, bind_apply, files_apply, files_readMessages]

/-- A run begins, or nothing comes of it. -/
theorem compileOnce_cases (optimize : Bool) (input : Path) (before : Workspace) :
    (∃ launch, launch? input before = some launch ∧
      (compileOnce host tool home options optimize input before).1 =
        (compileIn host tool home options optimize launch.input launch.scratch launch.start).1) ∨
    launch? input before = none ∧
      ∃ chain, (compileOnce host tool home options optimize input before).1 = (.error chain, []) := by
  rw [compileOnce, withScratch_fst, launch?]
  rcases Errand.makeScratch before with ⟨fault | scratch, start⟩
  · exact .inr ⟨rfl, _, rfl⟩
  · exact .inl ⟨_, rfl, rfl⟩

/-- Neither file is there when a run begins. -/
theorem Launch.absent {launch : Launch} {input : Path} {before : Workspace} (h : launch? input before = some launch)
    (content : ByteArray) : launch.start.files.read launch.textPath ≠ .ok content ∧
      launch.start.files.read launch.binaryPath ≠ .ok content := by
  rw [launch?] at h
  split at h
  · rename_i scratch start hmade
    cases h
    exact ⟨Errand.read_of_makeScratch hmade (by decide) content,
      Errand.read_of_makeScratch hmade (by decide) content⟩
  · cases h

/-! ## Attempts to compile -/

/-- What a module is compiled from, and by what. -/
structure Job where
  /-- What runs programs. -/
  host : Host
  /-- The compiler. -/
  tool : Tool
  /-- The directory that it is run from. -/
  home : Path
  /-- The options. -/
  options : CompilerOptions
  /-- The input, as it was put on disk. -/
  staged : Staged

/-- What there is as long as no program runs on the input. -/
structure Interval where
  /-- What is kept of the input. -/
  kept : Parcel
  /-- Everything else. -/
  workspace : Workspace

/-- The input is put back in its place. -/
def Interval.resumed (interval : Interval) : Workspace :=
  (Errand.unpack interval.kept interval.workspace).2

/-- One run of a compiler. -/
structure Attempt where
  /-- It is asked to optimize. -/
  optimize : Bool
  /-- What it finds, with the input in its place. -/
  before : Workspace

namespace Job

variable (job : Job) (attempt : Attempt)

/-- The command of a run that begins. -/
def command (optimize : Bool) (launch : Launch) : Command :=
  job.tool.command job.home
    (compilerArguments launch.input launch.textPath launch.binaryPath job.options optimize)

/-- What comes of a run: the text and the binary or an error, and what the compiler had to say. -/
def outcome : Except ErrorChain Emitted × List Diagnostic :=
  (compileOnce job.host job.tool job.home job.options attempt.optimize job.staged.path attempt.before).1

/-- What there is after a run: what the run has left of the input is kept. -/
def left (optimize : Bool) (interval : Interval) : Interval :=
  let ran := compileStaged job.host job.tool job.home job.options optimize
    { job.staged with kept := interval.kept } interval.workspace
  ⟨ran.1.2, ran.2⟩

/-- The outcome of a run on an input on disk is that of the run that finds the input in its place. -/
theorem compileStaged_eq (optimize : Bool) (interval : Interval) :
    compileStaged job.host job.tool job.home job.options optimize { job.staged with kept := interval.kept }
        interval.workspace =
      ((job.outcome ⟨optimize, interval.resumed⟩, (job.left optimize interval).kept),
        (job.left optimize interval).workspace) := by
  rw [left, outcome, Interval.resumed, compileStaged, bind_apply, bind_apply]
  cases job.staged.scratch with
  | none => rfl
  | some scratch => rfl

/-- A run wrote a text and a binary: neither file was there when the program was started, and both were when it had
exited successfully. -/
structure Writes (made : Emitted) (launch : Launch) (exit : Exit) (left : Workspace) : Prop where
  /-- The run began. -/
  launched : launch? job.staged.path attempt.before = some launch
  /-- There was no text yet. -/
  text_absent : ∀ content, launch.start.files.read launch.textPath ≠ .ok content
  /-- There was no binary yet. -/
  binary_absent : ∀ content, launch.start.files.read launch.binaryPath ≠ .ok content
  /-- The program was run to its end. -/
  ran : job.host.run (job.command attempt.optimize launch) launch.start = (.ok exit, left)
  /-- It exited successfully. -/
  successful : exit.status = 0
  /-- The text is what it left. -/
  text : left.files.readText launch.textPath = .ok made.text
  /-- The binary is what it left. -/
  binary : left.files.read launch.binaryPath = .ok made.binary

/-- A run gives a text and a binary just if it wrote them. -/
theorem outcome_eq_ok {made : Emitted} :
    (job.outcome attempt).1 = .ok made ↔ ∃ launch exit left, job.Writes attempt made launch exit left := by
  rcases compileOnce_cases job.host job.tool job.home job.options attempt.optimize job.staged.path attempt.before with
    ⟨launch, hlaunch, hrun⟩ | ⟨hnone, chain, hrun⟩
  · rw [outcome, hrun, compileIn_fst]
    constructor
    · intro hok
      split at hok
      · cases hok
      · rename_i exit left hended
        obtain ⟨hstatus, htext, hbinary⟩ := emitted_eq_ok.mp hok
        exact ⟨launch, exit, left, hlaunch, fun content => (Launch.absent hlaunch content).1,
          fun content => (Launch.absent hlaunch content).2, hended, hstatus, htext, hbinary⟩
    · rintro ⟨other, exit, left, hwrites⟩
      obtain rfl : launch = other := Option.some.inj (hlaunch.symm.trans hwrites.launched)
      have hended := hwrites.ran
      rw [command] at hended
      rw [hended]
      exact emitted_eq_ok.mpr ⟨hwrites.successful, hwrites.text, hwrites.binary⟩
  · rw [outcome, hrun]
    constructor
    · intro hok
      cases hok
    · rintro ⟨launch, exit, left, hwrites⟩
      cases hnone.symm.trans hwrites.launched

/-! ## What is asked of a module -/

/-- The runs that one question comes to, and what there is afterwards. -/
def turn (interval : Interval) : Module.Question → List Attempt × Interval
  | .optimization => ([⟨true, interval.resumed⟩], job.left true interval)
  | .validity | .text | .binary => ([], interval)

/-- The runs that questions come to, the earliest first. -/
def attempts (interval : Interval) : List Module.Question → List Attempt
  | [] => []
  | question :: rest => (job.turn interval question).1 ++ attempts (job.turn interval question).2 rest

/-- The text and the binary of the latest run that gave any. -/
def latest? (past : List Attempt) : Option Emitted :=
  (past.filterMap fun attempt => (job.outcome attempt).1.toOption).getLast?

/-- An answer fits what the latest successful run gave, before the question and after it. -/
inductive Fits (past : List Attempt) (now : Emitted) :
    Module.Question → Module.Answer → List Attempt → Emitted → Prop
  /-- A module is valid just if its binary begins as one must. -/
  | validity (verdict : Except ErrorChain Unit) (h : verdict = .ok () ↔ magic ++ version <+: now.binary.toList) :
    Fits past now .validity (.validity verdict) past now
  /-- The text is the one that the run wrote. -/
  | text : Fits past now .text (.text (.ok now.text)) past now
  /-- The binary is the one that the run wrote. -/
  | binary : Fits past now .binary (.binary (.ok now.binary)) past now
  /-- A run that wrote a text and a binary takes the place of the one before. -/
  | optimized (attempt : Attempt) (later : Emitted) (said : List Diagnostic)
    (h : job.outcome attempt = (.ok later, said)) :
    Fits past now .optimization (.optimization (.ok said)) (past ++ [attempt]) later
  /-- A run that did not changes nothing. -/
  | unchanged (attempt : Attempt) (chain : ErrorChain) (h : (job.outcome attempt).1 = .error chain) :
    Fits past now .optimization (.optimization (.error (chain.context "optimizing"))) (past ++ [attempt]) now

variable {job} {host tool home options}

theorem latest?_concat (past : List Attempt) (attempt : Attempt) :
    job.latest? (past ++ [attempt]) = (job.outcome attempt).1.toOption.or (job.latest? past) := by
  rw [latest?, List.filterMap_append, List.getLast?_append, latest?]
  cases h : (job.outcome attempt).1.toOption with
  | none => simp [h]
  | some made => simp [h]

/-- What a module emits, and what is kept for it in an interval. -/
def condition (now : Emitted) (interval : Interval) : Module.Condition :=
  ⟨now.emission, interval.kept⟩

/-- One question to a module that emits what its latest successful run wrote. -/
theorem ask_fits {made : Module} (hmade : made.optimize = optimize job.host job.tool job.home job.options job.staged)
    {past : List Attempt} {now : Emitted} (hnow : job.latest? past = some now) (question : Module.Question)
    (interval : Interval) :
    ∃ answer later, made.ask (condition now interval) question interval.workspace =
        ((answer, condition later (job.turn interval question).2), (job.turn interval question).2.workspace) ∧
      job.latest? (past ++ (job.turn interval question).1) = some later ∧
      job.Fits past now question answer (past ++ (job.turn interval question).1) later := by
  cases question with
  | validity =>
    simp only [turn, List.append_nil]
    exact ⟨_, now, rfl, hnow, .validity _ (validity_eq_ok now.binary)⟩
  | text =>
    simp only [turn, List.append_nil]
    exact ⟨_, now, rfl, hnow, .text⟩
  | binary =>
    simp only [turn, List.append_nil]
    exact ⟨_, now, rfl, hnow, .binary⟩
  | optimization =>
    have hrun := job.compileStaged_eq true interval
    simp only [turn, latest?_concat]
    rcases houtcome : job.outcome ⟨true, interval.resumed⟩ with ⟨chain | later, said⟩
    · have hask : made.ask (condition now interval) .optimization interval.workspace =
          ((.optimization (.error (chain.context "optimizing")), condition now (job.left true interval)),
            (job.left true interval).workspace) := by
        rw [Module.ask, bind_apply, condition, hmade, optimize, bind_apply, hrun, houtcome]
        rfl
      exact ⟨_, now, hask, hnow, .unchanged _ chain (congrArg Prod.fst houtcome)⟩
    · have hask : made.ask (condition now interval) .optimization interval.workspace =
          ((.optimization (.ok said), condition later (job.left true interval)),
            (job.left true interval).workspace) := by
        rw [Module.ask, bind_apply, condition, hmade, optimize, bind_apply, hrun, houtcome]
        rfl
      exact ⟨_, later, hask, rfl, .optimized _ later said houtcome⟩

/-- Questions to a module, one after another. -/
theorem askAll_fits {made : Module} (hmade : made.optimize = optimize job.host job.tool job.home job.options job.staged)
    (questions : List Module.Question) {past : List Attempt} {emitted : Emitted}
    (hemitted : job.latest? past = some emitted) (interval : Interval) :
    (made.askAll (condition emitted interval) questions interval.workspace).1.length = questions.length ∧
      ∀ n question, questions[n]? = some question → ∃ now later answer,
        job.latest? (past ++ job.attempts interval (questions.take n)) = some now ∧
        job.latest? (past ++ job.attempts interval (questions.take (n + 1))) = some later ∧
        (made.askAll (condition emitted interval) questions interval.workspace).1[n]? = some answer ∧
        job.Fits (past ++ job.attempts interval (questions.take n)) now question answer
          (past ++ job.attempts interval (questions.take (n + 1))) later := by
  induction questions generalizing past emitted interval with
  | nil => exact ⟨rfl, by simp⟩
  | cons question rest ih =>
    obtain ⟨answer, later, hask, hlater, hfits⟩ := ask_fits hmade hemitted question interval
    obtain ⟨hlength, hrest⟩ := ih hlater (job.turn interval question).2
    have hanswers : (made.askAll (condition emitted interval) (question :: rest) interval.workspace).1 =
        answer :: (made.askAll (condition later (job.turn interval question).2) rest
          (job.turn interval question).2.workspace).1 := by
      rw [Module.askAll, bind_apply, hask]
      rfl
    refine ⟨(congrArg List.length hanswers).trans (congrArg Nat.succ hlength), fun n asked hasked => ?_⟩
    cases n with
    | zero =>
      cases hasked
      refine ⟨emitted, later, answer, ?_, ?_, congrArg (·[0]?) hanswers, ?_⟩
      · simpa [attempts] using hemitted
      · simpa [attempts] using hlater
      · simpa [attempts] using hfits
    | succ n =>
      obtain ⟨first, second, reply, hfirst, hsecond, hreply, hfits⟩ := hrest n asked hasked
      simp only [List.take_succ_cons, attempts, ← List.append_assoc]
      exact ⟨first, second, reply, hfirst, hsecond, (congrArg (·[n + 1]?) hanswers).trans hreply, hfits⟩

/-- Compiling is one run on the input, once that is on disk. -/
theorem compile_staged {input : CompilerInput} {before start : Workspace} {staged : Staged}
    (hstage : stage input before = (.ok staged, start)) :
    let job : Job := ⟨host, tool, home, options, staged⟩
    (compiler host tool home).compile input options before =
      (match job.outcome ⟨false, Interval.resumed ⟨staged.kept, start⟩⟩ with
        | (.ok emitted, said) => (⟨.ok { emitted.emission with
            kept := (job.left false ⟨staged.kept, start⟩).kept
            optimize := optimize host tool home options staged }, said⟩,
          (job.left false ⟨staged.kept, start⟩).workspace)
        | (.error chain, said) =>
          (⟨.error (.error chain), said⟩, (job.left false ⟨staged.kept, start⟩).workspace)) := by
  intro job
  have hrun := job.compileStaged_eq false ⟨staged.kept, start⟩
  simp only [compiler, bind_apply, hstage]
  rw [hrun]
  rcases job.outcome ⟨false, Interval.resumed ⟨staged.kept, start⟩⟩ with ⟨chain | emitted, said⟩
  · rfl
  · rfl

theorem compile_eq_ok {input : CompilerInput} {made : Module} {before after : Workspace} {said : List Diagnostic}
    (h : (compiler host tool home).compile input options before = (⟨.ok made, said⟩, after)) :
    ∃ staged start emitted, stage input before = (.ok staged, start) ∧
      let job : Job := ⟨host, tool, home, options, staged⟩
      job.outcome ⟨false, Interval.resumed ⟨staged.kept, start⟩⟩ = (.ok emitted, said) ∧
      made.optimize = optimize host tool home options staged ∧ made.toEmission = emitted.emission ∧
      ⟨made.kept, after⟩ = job.left false ⟨staged.kept, start⟩ := by
  rcases hstage : stage input before with ⟨chain | staged, start⟩
  · simp only [compiler, bind_apply, hstage] at h
    cases h
  · rw [compile_staged hstage] at h
    rcases houtcome : outcome ⟨host, tool, home, options, staged⟩ ⟨false, Interval.resumed ⟨staged.kept, start⟩⟩ with
      ⟨chain | emitted, said'⟩
    · rw [houtcome] at h
      cases h
    · rw [houtcome] at h
      cases h
      exact ⟨staged, start, emitted, rfl, houtcome, rfl, rfl, rfl⟩

/-- A module never mixes two runs. Each run that gives a text and a binary wrote both of them itself, and what is
asked of a module is answered by the latest such run, be it the one that compiled it or a later one that was to
optimize. A run that fails changes nothing. All runs are on one input, which is put on disk once, and each of them
finds what the one before has left of it. -/
theorem askAll_latest {input : CompilerInput} {made : Module} {before after : Workspace} {said : List Diagnostic}
    (h : (compiler host tool home).compile input options before = (⟨.ok made, said⟩, after))
    (questions : List Module.Question) :
    ∃ staged start, stage input before = (.ok staged, start) ∧
      let job : Job := ⟨host, tool, home, options, staged⟩
      let past (n : Nat) := ⟨false, Interval.resumed ⟨staged.kept, start⟩⟩ ::
        job.attempts ⟨made.kept, after⟩ (questions.take n)
      let answers := (made.askAll made.condition questions after).1
      ⟨made.kept, after⟩ = job.left false ⟨staged.kept, start⟩ ∧
      (∀ attempt ∈ past questions.length, ∀ emitted,
        (job.outcome attempt).1 = .ok emitted ↔ ∃ launch exit left, job.Writes attempt emitted launch exit left) ∧
      answers.length = questions.length ∧
      ∀ n question, questions[n]? = some question → ∃ now later answer,
        job.latest? (past n) = some now ∧ job.latest? (past (n + 1)) = some later ∧ answers[n]? = some answer ∧
        job.Fits (past n) now question answer (past (n + 1)) later := by
  obtain ⟨staged, start, emitted, hstage, houtcome, hmade, hemission, hleft⟩ := compile_eq_ok h
  refine ⟨staged, start, hstage, hleft, fun attempt _ emitted => outcome_eq_ok _ attempt, ?_⟩
  have hfirst : latest? ⟨host, tool, home, options, staged⟩ ([] ++ [⟨false, Interval.resumed ⟨staged.kept, start⟩⟩]) =
      some emitted := by
    rw [latest?_concat, houtcome]
    rfl
  have hcondition : made.condition = condition emitted ⟨made.kept, after⟩ := by
    rw [Module.condition, condition, hemission]
  rw [hcondition]
  exact @askAll_fits ⟨host, tool, home, options, staged⟩ made hmade questions _ emitted hfirst ⟨made.kept, after⟩

/-- A tree with nothing but the directory for scratch directories. -/
def bare : Store :=
  ⟨[(["tmp"], .directory), (["tmp", "scratch"], .directory)], []⟩

/-- What a compiler leaves that was given a source in one scratch directory and has written its files to another: the
source is gone. -/
def devoured : Store :=
  ⟨[(["tmp"], .directory), (["tmp", "scratch"], .directory), (["tmp", "scratch", "0"], .directory),
    (["tmp", "scratch", "1"], .directory),
    (["tmp", "scratch", "1", "module.wasm"], .file ⟨(magic ++ version).toArray⟩),
    (["tmp", "scratch", "1", "module.wat"], .file "(module)".toUTF8)], []⟩

/-- A compiler that takes its source away, and fails where there is none. -/
def devouring : Host where
  run _ workspace :=
    if (workspace.files.find? ["tmp", "scratch", "0", "a.ts"]).isSome then
      (.ok ⟨0, .empty, .empty⟩, { workspace with files := devoured })
    else (.ok ⟨1, .empty, .empty⟩, workspace)

/-- The job of compiling a source that is held in memory with that compiler, where the first two scratch directories
are free. -/
def devours : Job where
  host := devouring
  tool := ⟨"asc", [], none⟩
  home := ⟨"/"⟩
  options := .empty
  staged := ⟨(Key.path (Run.scratchRoot ++ ["0"])).join ⟨"a.ts"⟩,
    some ⟨Run.scratchRoot ++ ["0"], Key.path (Run.scratchRoot ++ ["0"])⟩,
    [(["tmp", "scratch", "0"], .directory), (["tmp", "scratch", "0", "a.ts"], .file "let a = 1;".toUTF8)]⟩

theorem stage_bare : stage (.memory "a.ts" "let a = 1;") ⟨bare, 0, []⟩ = (.ok devours.staged, ⟨bare, 1, []⟩) := by
  obtain ⟨number, hnumber, hmade⟩ := @Errand.makeScratch_eq ⟨bare, 0, []⟩ Run.scratchRoot
    (Store.locate_scratchRoot rfl rfl) List.not_mem_nil
  obtain rfl : number = "0" := hnumber
  have hlies := @Scratch.lies_scratchRoot (bare.insert (Run.scratchRoot ++ ["0"]) .directory) "0" (by decide)
    rfl rfl rfl
  have hwrite := hlies.write (by decide) (by decide : IsName "a.ts") rfl rfl "let a = 1;".toUTF8
  rw [stage, bind_apply, hmade]
  simp only [bind_apply, files_apply]
  rw [hwrite]
  rfl

/-- What there is once the source was put on disk. -/
def put : Interval :=
  ⟨devours.staged.kept, ⟨bare, 1, []⟩⟩

theorem makeScratch_devours : ∃ start, Errand.makeScratch put.resumed =
      (.ok ⟨Run.scratchRoot ++ ["1"], Key.path (Run.scratchRoot ++ ["1"])⟩, start) ∧
    (start.files.find? ["tmp", "scratch", "0", "a.ts"]).isSome = true := by
  obtain ⟨number, hnumber, hmade⟩ := @Errand.makeScratch_eq put.resumed Run.scratchRoot
    (Store.locate_scratchRoot rfl rfl) List.not_mem_nil
  obtain rfl : number = "1" := hnumber
  exact ⟨_, hmade, rfl⟩

theorem ran_devours {start : Workspace} (h : (start.files.find? ["tmp", "scratch", "0", "a.ts"]).isSome = true)
    (command : Command) : devouring.run command start = (.ok ⟨0, .empty, .empty⟩, { start with files := devoured }) :=
  if_pos h

/-- Both files are found where they were written. -/
theorem outcome_devours :
    (devours.outcome ⟨false, put.resumed⟩).1 = .ok ⟨"(module)", ⟨(magic ++ version).toArray⟩⟩ := by
  obtain ⟨start, hmade, hsource⟩ := makeScratch_devours
  have hlaunch : launch? devours.staged.path put.resumed =
      some ⟨devours.staged.path, Key.path (Run.scratchRoot ++ ["1"]), start⟩ := by
    rw [launch?, hmade]
  have hlies := @Scratch.lies_scratchRoot devoured "1" (by decide) rfl rfl rfl
  have habsent := Launch.absent hlaunch
  refine (devours.outcome_eq_ok _).mpr ⟨_, _, _, hlaunch, fun content => (habsent content).1,
    fun content => (habsent content).2, ran_devours hsource _, rfl, ?_, hlies.read (by decide) (by decide) rfl⟩
  rw [Launch.textPath, Store.readText, hlies.read (by decide) (by decide : IsName "module.wat") rfl]
  simp only [Store.fromUTF8?_toUTF8]

/-- The directory of the source is kept without the source. -/
theorem resumed_left_devours : (devours.left false put).resumed.files =
    bare.insert ["tmp", "scratch", "0"] .directory := by
  obtain ⟨start, hmade, hsource⟩ := makeScratch_devours
  have hprogram := files_compileIn devouring ⟨"asc", [], none⟩ ⟨"/"⟩ .empty false
    ⟨devours.staged.path, Key.path (Run.scratchRoot ++ ["1"]), start⟩
  rw [ran_devours hsource] at hprogram
  have hran := Errand.files_withScratch put.resumed (fun fault => (Except.error (noDirectory "an output" fault), []))
    (compileIn devouring ⟨"asc", [], none⟩ ⟨"/"⟩ .empty false devours.staged.path)
  rw [hmade] at hran
  simp only [hprogram] at hran
  let left := (compileOnce devouring ⟨"asc", [], none⟩ ⟨"/"⟩ .empty false devours.staged.path put.resumed).2.files
  have hleft : left = devoured.remove (Run.scratchRoot ++ ["1"]) := hran
  calc (devours.left false put).resumed.files
    _ = (left.remove (Run.scratchRoot ++ ["0"])).restore (left.within (Run.scratchRoot ++ ["0"])) := rfl
    _ = bare.insert ["tmp", "scratch", "0"] .directory := by
      rw [hleft]
      rfl

/-- Without the source nothing comes of a run. -/
theorem outcome_devours_again {before : Workspace}
    (hfiles : before.files = bare.insert ["tmp", "scratch", "0"] .directory) (optimize : Bool) :
    (devours.outcome ⟨optimize, before⟩).1.toOption = none := by
  obtain ⟨number, -, hmade⟩ := @Errand.makeScratch_eq before Run.scratchRoot
    (hfiles ▸ Store.locate_scratchRoot rfl rfl) (hfiles ▸ List.not_mem_nil)
  cases houtcome : (devours.outcome ⟨optimize, before⟩).1 with
  | error chain => rfl
  | ok emitted =>
    obtain ⟨launch, exit, left, hwrites⟩ := (devours.outcome_eq_ok _).mp houtcome
    have hlaunch := hwrites.launched
    rw [launch?, hmade] at hlaunch
    cases hlaunch
    have hgone : (before.files.insert (Run.scratchRoot ++ [number]) .directory).find?
        ["tmp", "scratch", "0", "a.ts"] = none := by
      rw [Store.find?_insert _ _ _ _ (by simp), if_neg (by simp [Run.scratchRoot]), hfiles]
      rfl
    have hran : (Except.ok exit, left) = (.ok ⟨1, .empty, .empty⟩, _) :=
      hwrites.ran.symm.trans (if_neg (by simp [hgone]))
    cases hran
    cases hwrites.successful

/-- A compiler took its source away, so that it failed when it was asked to optimize: the text is the first one. -/
theorem askAll_latest_devours :
    ∃ made said after chain,
      (compiler devouring ⟨"asc", [], none⟩ ⟨"/"⟩).compile (.memory "a.ts" "let a = 1;") .empty ⟨bare, 0, []⟩ =
        (⟨.ok made, said⟩, after) ∧
      (made.askAll made.condition [.optimization, .text] after).1[0]? = some (.optimization (.error chain)) ∧
      (made.askAll made.condition [.optimization, .text] after).1[1]? = some (.text (.ok "(module)")) := by
  have hok := outcome_devours
  rcases houtcome : devours.outcome ⟨false, put.resumed⟩ with ⟨chain | emitted, said⟩
  · rw [houtcome] at hok
    cases hok
  rw [houtcome] at hok
  cases hok
  have hfirst : devours.latest? ([] ++ [⟨false, put.resumed⟩]) =
      some ⟨"(module)", ⟨(magic ++ version).toArray⟩⟩ := by
    rw [latest?_concat, houtcome]
    rfl
  have hran : outcome ⟨devouring, ⟨"asc", [], none⟩, ⟨"/"⟩, .empty, devours.staged⟩
      ⟨false, Interval.resumed ⟨devours.staged.kept, ⟨bare, 1, []⟩⟩⟩ =
        (.ok ⟨"(module)", ⟨(magic ++ version).toArray⟩⟩, said) := houtcome
  have hcompile := @compile_staged devouring ⟨"asc", [], none⟩ ⟨"/"⟩ .empty _ _ _ _ stage_bare
  dsimp only at hcompile
  rw [hran] at hcompile
  obtain ⟨staged, start, hstage, -, -, -, hanswers⟩ := askAll_latest hcompile [.optimization, .text]
  cases stage_bare.symm.trans hstage
  have hagain := outcome_devours_again resumed_left_devours true
  obtain ⟨_, later, answer, -, hlater, hanswer, hfits⟩ := hanswers 0 .optimization rfl
  obtain ⟨now, _, answer', hnow, -, hanswer', hfits'⟩ := hanswers 1 .text rfl
  have hlatest : devours.latest? ([⟨false, put.resumed⟩] ++ [⟨true, (devours.left false put).resumed⟩]) = some now :=
    hnow
  rw [latest?_concat, hagain, Option.none_or] at hlatest
  cases hfirst.symm.trans hlatest
  cases hfits'
  cases hfits with
  | optimized attempt later said h =>
    have hnone : (devours.outcome ⟨true, (devours.left false put).resumed⟩).1 = .ok later := congrArg Prod.fst h
    rw [hnone] at hagain
    cases hagain
  | unchanged attempt chain h => exact ⟨_, _, _, _, hcompile, hanswer, hanswer'⟩

end Job

end External

end GoldenBench
