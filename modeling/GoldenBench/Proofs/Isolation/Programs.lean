import GoldenBench.External.Converter
import GoldenBench.Proofs.Emission
import GoldenBench.Proofs.Isolation.Suites

/-!
# Subjects that are external programs

Whatever such a subject puts on disk lies in scratch directories, and these are gone in the end. So it is tidy if its
programs are confined: a program changes nothing outside the scratch directory that was made for its output.

* `External.compileStaged_spec`: a run on an input on disk, and what is kept of the input.
* `External.tidy_subject`: a subject with confined programs is tidy, in any tree.
-/

namespace GoldenBench

/-- What a tool answers and leaves is what its program does. -/
theorem Tool.run_apply (host : Host) (tool : Tool) (home : Path) (further : List String) (workspace : Workspace) :
    tool.run host home further workspace =
      match host.run (tool.command home further) workspace with
      | (.ok exit, left) => (.ok (.ofExit exit), left)
      | (.error fault, left) => (.error (.because ("while running " ++ tool.program) fault.message), left) := by
  rw [run, Errand.bind_apply]
  rcases host.run (tool.command home further) workspace with ⟨fault | exit, left⟩
  · rfl
  · rfl

/-! ## Confined programs -/

namespace External

open Errand (bind_apply files_apply pure_apply files_withScratch makeScratch makeScratch_ok makeScratch_error
  remove_of_makeScratch)

variable {host : Host} {spec : SubjectSpec} {home : Path}

/-- The programs of a subject change nothing outside the scratch directory that was made for their output. -/
structure Confined (host : Host) (spec : SubjectSpec) (home : Path) : Prop where
  /-- That is so of the compiler. -/
  compiler : ∀ {before start : Workspace} {scratch : Scratch}, makeScratch before = (.ok scratch, start) →
    ∀ input options optimize, (host.run (spec.compiler.command home (compilerArguments input
      (scratch.path.join ⟨"module.wat"⟩) (scratch.path.join ⟨"module.wasm"⟩) options optimize)) start).2.files.remove
        scratch.key = before.files
  /-- It is so of the converters, which find their input in that directory. -/
  converter : ∀ {before start : Workspace} {scratch : Scratch}, makeScratch before = (.ok scratch, start) →
    ∀ tool ∈ [spec.toBinary, spec.toText], ∀ kinds ∈ [("wat", "wasm"), ("wasm", "wat")], ∀ names content written,
      start.files.write (scratch.path.join ⟨"input." ++ kinds.1⟩) content = .ok written →
        (host.run (tool.command home (converterArguments tool names (scratch.path.join ⟨"input." ++ kinds.1⟩)
          (scratch.path.join ⟨"output." ++ kinds.2⟩))) { start with files := written }).2.files.remove scratch.key =
            before.files

/-- An errand with a scratch directory is tidy if it changes nothing else. -/
theorem tidy_withScratch {α : Type} {refuse : FileFault → α} {step : Path → Errand α}
    (h : ∀ {before start : Workspace} {scratch : Scratch}, makeScratch before = (.ok scratch, start) →
      (step scratch.path start).2.files.remove scratch.key = before.files) :
    (Errand.withScratch refuse step).Tidy := by
  intro before
  rw [files_withScratch]
  rcases hmade : makeScratch before with ⟨fault | scratch, start⟩
  · rfl
  · exact h hmade

theorem tidy_compileOnce (h : Confined host spec home) (options : CompilerOptions) (optimize : Bool) (input : Path) :
    (compileOnce host spec.compiler home options optimize input).Tidy := by
  refine tidy_withScratch fun {before start scratch} hmade => ?_
  rw [files_compileIn host spec.compiler home options optimize ⟨input, scratch.path, start⟩]
  exact h.compiler hmade input options optimize


theorem tidy_convert (h : Confined host spec home) {tool : ConverterTool} (htool : tool ∈ [spec.toBinary, spec.toText])
    {kinds : String × String} (hkinds : kinds ∈ [("wat", "wasm"), ("wasm", "wat")]) (names : Bool)
    (content : ByteArray) : (convert host tool home kinds names content).Tidy := by
  refine tidy_withScratch fun {before start scratch} hmade => ?_
  simp only [bind_apply, files_apply]
  cases hwrite : start.files.write (scratch.path.join ⟨"input." ++ kinds.1⟩) content with
  | error fault => exact remove_of_makeScratch hmade
  | ok written =>
    have hran := h.converter hmade tool htool kinds hkinds names content written hwrite
    have hset : (Errand.setFiles written start).2 = { start with files := written } := rfl
    simp only [bind_apply, hset, Tool.run_apply]
    generalize host.run (tool.command home (converterArguments tool names (scratch.path.join ⟨"input." ++ kinds.1⟩)
      (scratch.path.join ⟨"output." ++ kinds.2⟩))) { start with files := written } = ran at hran ⊢
    rcases ran with ⟨fault | exit, left⟩
    · exact hran
    · simp only
      cases (ToolOutput.ofExit exit).check tool.program with
      | error chain => exact hran
      | ok output => exact hran

/-! ## Inputs on disk -/

/-- An input on disk whose directory, if one was made for it, is kept apart from the tree. -/
def Staged.Apart (files : Store) (staged : Staged) : Prop :=
  match staged.scratch with
  | none => staged.kept = []
  | some scratch =>
    scratch.key ≠ [] ∧ files.isFree scratch.key = true ∧ ∀ item ∈ staged.kept, scratch.key <+: item.1

/-- The names of sources that are held in memory are those of files. -/
def Named : CompilerInput → Prop
  | .file _ => True
  | .memory name _ => IsName name

/-- Putting a source on disk leaves the tree as it was. -/
theorem stage_cases {input : CompilerInput} (hnamed : Named input) (before : Workspace) :
    (stage input before).2.files = before.files ∧
      ∀ staged, (stage input before).1 = .ok staged → staged.Apart before.files := by
  cases input with
  | file path =>
    refine ⟨rfl, fun staged h => ?_⟩
    cases h
    rfl
  | memory name source =>
    simp only [stage, bind_apply]
    rcases hmade : makeScratch before with ⟨fault | scratch, start⟩
    · refine ⟨congrArg Workspace.files (makeScratch_error hmade), fun staged h => ?_⟩
      cases h
    · have hgone := remove_of_makeScratch hmade
      obtain ⟨directory, number, hlies, hfree, -⟩ := makeScratch_ok hmade
      simp only [bind_apply, files_apply]
      cases hwrite : start.files.write (scratch.path.join ⟨name⟩) source.toUTF8 with
      | error fault =>
        refine ⟨hgone, fun staged h => ?_⟩
        cases h
      | ok written =>
        have hremoved := hlies.remove_of_write hnamed (by simp [Errand.find?_of_makeScratch hmade]) hwrite
        refine ⟨hremoved.trans hgone, fun staged h => ?_⟩
        cases h
        exact ⟨Errand.key_ne_nil_of_makeScratch hmade, hfree, fun item hitem => Store.isPrefix_of_mem_within hitem⟩

/-- A run on an input on disk leaves the tree as it was, and keeps what is left of the input apart. -/
theorem compileStaged_spec (h : Confined host spec home) (options : CompilerOptions) (optimize : Bool) {staged : Staged}
    {before : Workspace} (hstaged : staged.Apart before.files) :
    (compileStaged host spec.compiler home options optimize staged before).2.files = before.files ∧
      Staged.Apart before.files { staged with
        kept := (compileStaged host spec.compiler home options optimize staged before).1.2 } := by
  have hunpacked : (Errand.unpack staged.kept before).2.files = before.files.restore staged.kept := rfl
  have hran := (tidy_compileOnce h options optimize staged.path (Errand.unpack staged.kept before).2).trans hunpacked
  rw [compileStaged, bind_apply, bind_apply]
  rcases staged with ⟨path, scratch | scratch, kept⟩
  · obtain rfl : kept = [] := hstaged
    exact ⟨hran, rfl⟩
  · obtain ⟨hkey, hfree, hkept⟩ := hstaged
    have hgone : (before.files.restore kept).remove scratch.key = before.files :=
      (Store.remove_restore hkept).trans (Store.remove_of_isFree hfree)
    exact ⟨(congrArg (·.remove scratch.key) hran).trans hgone, hkey, hfree, fun item hitem =>
      Store.isPrefix_of_mem_within hitem⟩

theorem tidy_compile (h : Confined host spec home) {input : CompilerInput} (hnamed : Named input)
    (options : CompilerOptions) : ((compiler host spec.compiler home).compile input options).Tidy := by
  intro before
  obtain ⟨hstage, hapart⟩ := stage_cases hnamed before
  simp only [compiler, bind_apply]
  generalize stage input before = staging at hstage hapart ⊢
  rcases staging with ⟨chain | staged, start⟩
  · exact hstage
  · have hstaged := hapart staged rfl
    obtain ⟨hran, -⟩ := compileStaged_spec h options false (hstage ▸ hstaged : staged.Apart start.files)
    simp only [bind_apply]
    generalize compileStaged host spec.compiler home options false staged start = ran at hran ⊢
    rcases ran with ⟨⟨⟨chain | emitted, said⟩, kept⟩, left⟩
    · exact hran.trans hstage
    · exact hran.trans hstage

/-- A module that was made leaves the tree as it is when it is optimized. -/
theorem tidy_optimizeOnce (h : Confined host spec home) {input : CompilerInput} (hnamed : Named input)
    {options : CompilerOptions} {before : Workspace} {made : Module}
    (hmade : ((compiler host spec.compiler home).compile input options before).1.result = .ok made) {now : Workspace}
    (hnow : now.files = before.files) : (made.optimizeOnce now).2.files = now.files := by
  obtain ⟨hstage, hapart⟩ := stage_cases hnamed before
  simp only [compiler, bind_apply] at hmade
  generalize stage input before = staging at hstage hapart hmade
  rcases staging with ⟨chain | staged, start⟩
  · cases hmade
  · have hstaged := hapart staged rfl
    obtain ⟨-, hkept⟩ := compileStaged_spec h options false (hstage ▸ hstaged : staged.Apart start.files)
    simp only [bind_apply] at hmade
    generalize compileStaged host spec.compiler home options false staged start = ran at hmade hkept
    rcases ran with ⟨⟨⟨chain | emitted, said⟩, kept⟩, left⟩
    · cases hmade
    · cases hmade
      have hleft : Staged.Apart now.files { staged with kept := kept } := by
        rw [hnow, ← hstage]
        exact hkept
      obtain ⟨hagain, -⟩ := compileStaged_spec h options true hleft
      simp only [Module.optimizeOnce, optimize, bind_apply]
      generalize compileStaged host spec.compiler home options true { staged with kept := kept } now = ran at hagain ⊢
      rcases ran with ⟨⟨⟨chain | emitted, said⟩, kept⟩, left⟩
      · exact hagain
      · exact hagain

theorem named_file (path : Path) : Named (.file path) := trivial

theorem named_smoke (source : String) : Named (.memory Smoke.fileName source) :=
  (by decide : IsName Smoke.fileName)

/-- A subject with confined programs is tidy. -/
theorem tidy_subject (h : Confined host spec home) (loader : Loader) : (subject host spec home loader).Tidy where
  file path := tidy_compile h (named_file path)
  smoke source := tidy_compile h (named_smoke source) .base
  optimizer source _ _ hmade _ hnow := tidy_optimizeOnce h (named_smoke source) hmade hnow
  toBinary names text := tidy_convert h (by simp) (by simp) names text.toUTF8
  toText names binary := tidy_convert h (by simp) (by simp) names binary

end External

end GoldenBench
