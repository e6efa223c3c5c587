import GoldenBench.Proofs.Files.Room
import GoldenBench.Proofs.Isolation.Programs

/-!
# A subject that answers the same everywhere

Programs can answer the same wherever scratch directories can be made and filled (`Store.Roomy`), since paths into these
are all that differs between two runs.

* `External.scribe`: a compiler that writes the same module for every input, and a converter that copies. They are
  confined (`External.confined_scribe`).
* `External.compileOnce_scribe` and `External.convert_scribe`: what a run comes to in a roomy tree.
* `External.agree_file`, `External.relate_smoke`, `External.agree_toBinary` and `External.agree_toText`: what the tools
  of the subject answer in two such trees.
* `External.isolated_scribe`: the subject is isolated in every roomy tree.
-/

namespace GoldenBench

namespace External

open Errand (bind_apply files_apply pure_apply withScratch_fst makeScratch makeScratch_ok find?_of_makeScratch)

/-! ## The programs -/

/-- Writes files one after another, as a program does that fails where one of them cannot be written. -/
def writeAll : List (Path × ByteArray) → Errand Exit
  | [] => return ⟨0, .empty, .empty⟩
  | (path, content) :: rest => do
    match (← Errand.files).write path content with
    | .error _ => return ⟨1, .empty, .empty⟩
    | .ok files =>
      Errand.setFiles files
      writeAll rest

/-- Programs that know what to do by the number of their arguments: a compiler that writes the same module for every
input, and a converter that copies. -/
def scribe : Host where
  run command := do
    match command.arguments with
    | _ :: _ :: text :: _ :: binary :: _ =>
      return .ok (← writeAll [(⟨text⟩, "(module)".toUTF8), (⟨binary⟩, ⟨(magic ++ version).toArray⟩)])
    | [input, _, output] =>
      match (← Errand.files).read ⟨input⟩ with
      | .error _ => return .ok ⟨1, .empty, .empty⟩
      | .ok content => return .ok (← writeAll [(⟨output⟩, content)])
    | _ => return .error .notFound

/-- A subject that consists of these programs. -/
def scribeSpec : SubjectSpec :=
  ⟨"scribe", ⟨"scribe", [], none⟩, ⟨⟨"copy", [], none⟩, [], []⟩, ⟨⟨"copy", [], none⟩, [], []⟩⟩

variable {scratch : Scratch} {directory : Key} {number : String}

/-- Writing a file leaves directories and links as they are, and makes no links. -/
theorem links_of_write {files written : Store} {path : Path} {content : ByteArray}
    (h : files.write path content = .ok written) : written.Keeps files ∧
      ∀ key target, files.find? key ≠ some (.link target) → written.find? key ≠ some (.link target) := by
  obtain ⟨-, key, rfl, hplace⟩ := Store.write_eq_ok.mp h
  have hend : files.IsEnd key := by
    rcases hplace with ⟨kept, hfound⟩ | ⟨habsent, -⟩
    · exact .inr ⟨kept, Store.holds_of_locate hfound⟩
    · exact .inl (Store.holds_of_locate habsent)
  refine ⟨fun k entry hentry hk => hend.find?_insert_of_some hk hentry, fun k target hk => ?_⟩
  rw [Store.find?_insert _ _ _ _ hend.ne_nil]
  split
  · simp
  · exact hk

/-- Files that are written into a scratch directory are removed with it. -/
theorem remove_writeAll (items : List (String × ByteArray)) (hnames : ∀ item ∈ items, IsName item.1)
    {workspace : Workspace} (hlies : scratch.Lies workspace.files directory number)
    (hlinks : ∀ name target, workspace.files.find? (scratch.key ++ [name]) ≠ some (.link target)) :
    (writeAll (items.map fun item => (scratch.path.join ⟨item.1⟩, item.2)) workspace).2.files.remove scratch.key =
      workspace.files.remove scratch.key := by
  induction items generalizing workspace with
  | nil => rfl
  | cons item rest ih =>
    have hname := hnames item List.mem_cons_self
    simp only [List.map_cons, writeAll, bind_apply, files_apply]
    cases hwrite : workspace.files.write (scratch.path.join ⟨item.1⟩) item.2 with
    | error fault => rfl
    | ok written =>
      obtain ⟨hkeeps, hlinked⟩ := links_of_write hwrite
      have hrest := @ih (fun item hitem => hnames item (List.mem_cons_of_mem _ hitem)) { workspace with
        files := written } (hlies.keeps hkeeps) fun name target => hlinked _ _ (hlinks name target)
      exact hrest.trans (hlies.remove_of_write hname (hlinks item.1) hwrite)

theorem find?_insert_name (files : Store) (name other : String) (entry : Entry) :
    (files.insert (scratch.key ++ [name]) entry).find? (scratch.key ++ [other]) =
      if other = name then some entry else files.find? (scratch.key ++ [other]) := by
  rw [Store.find?_insert _ _ _ _ (by simp)]
  simp

/-- Files are written into a scratch directory where nothing is in the way. -/
theorem writeAll_stands {items : List (String × ByteArray)} (hnames : ∀ item ∈ items, IsName item.1)
    (hnodup : (items.map Prod.fst).Nodup) {workspace : Workspace} (hstands : scratch.Stands workspace.files)
    (hnone : ∀ item ∈ items, workspace.files.find? (scratch.key ++ [item.1]) = none) :
    ∃ left : Workspace, writeAll (items.map fun item => (scratch.path.join ⟨item.1⟩, item.2)) workspace =
        (⟨0, .empty, .empty⟩, left) ∧ scratch.Stands left.files ∧
      (∀ item ∈ items, left.files.find? (scratch.key ++ [item.1]) = some (.file item.2)) ∧
      ∀ name, name ∉ items.map Prod.fst →
        left.files.find? (scratch.key ++ [name]) = workspace.files.find? (scratch.key ++ [name]) := by
  induction items generalizing workspace with
  | nil => exact ⟨workspace, rfl, hstands, by simp, fun _ _ => rfl⟩
  | cons item rest ih =>
    obtain ⟨name, content⟩ := item
    obtain ⟨hfresh, hnodup⟩ := List.nodup_cons.mp hnodup
    have hfirst := hnone (name, content) List.mem_cons_self
    have hwrite := hstands.write (hnames _ List.mem_cons_self) hfirst content
    have hrest : ∀ item ∈ rest, (workspace.files.insert (scratch.key ++ [name]) (.file content)).find?
        (scratch.key ++ [item.1]) = none := fun item hitem => by
      rw [find?_insert_name, if_neg, hnone item (List.mem_cons_of_mem _ hitem)]
      rintro rfl
      exact hfresh (List.mem_map.mpr ⟨item, hitem, rfl⟩)
    obtain ⟨left, hrun, hleft, hwritten, hothers⟩ := @ih (fun item hitem => hnames item (List.mem_cons_of_mem _ hitem))
      hnodup { workspace with files := workspace.files.insert (scratch.key ++ [name]) (.file content) }
      (hstands.insert hfirst content) hrest
    refine ⟨left, ?_, hleft, ?_, fun other hother => ?_⟩
    · simp only [List.map_cons, writeAll, bind_apply, files_apply]
      rw [hwrite]
      exact hrun
    · refine List.forall_mem_cons.mpr ⟨?_, hwritten⟩
      rw [hothers name hfresh, find?_insert_name, if_pos rfl]
    · rw [List.map_cons, List.mem_cons, not_or] at hother
      rw [hothers other hother.2, find?_insert_name, if_neg hother.1]

/-- The files that the compiler writes. -/
def scribed : List (String × ByteArray) :=
  [("module.wat", "(module)".toUTF8), ("module.wasm", ⟨(magic ++ version).toArray⟩)]

theorem isName_scribed : ∀ item ∈ scribed, IsName item.1 := by
  simp only [scribed, List.forall_mem_cons, List.not_mem_nil, false_implies, implies_true, and_true]
  decide

theorem run_compiler (scratch : Path) (input : Path) (options : CompilerOptions) (optimize : Bool) (home : Path)
    (workspace : Workspace) :
    scribe.run (scribeSpec.compiler.command home (compilerArguments input (scratch.join ⟨"module.wat"⟩)
        (scratch.join ⟨"module.wasm"⟩) options optimize)) workspace =
      let (exit, left) := writeAll (scribed.map fun item => (scratch.join ⟨item.1⟩, item.2)) workspace
      (.ok exit, left) :=
  rfl

theorem run_converter {tool : ConverterTool} (htool : tool ∈ [scribeSpec.toBinary, scribeSpec.toText])
    (home : Path) (names : Bool) (input output : Path) (workspace : Workspace) :
    scribe.run (tool.command home (converterArguments tool names input output)) workspace =
      match workspace.files.read input with
      | .error _ => (.ok ⟨1, .empty, .empty⟩, workspace)
      | .ok content =>
        let (exit, left) := writeAll [(output, content)] workspace
        (.ok exit, left) := by
  have hcommand : (tool.command home (converterArguments tool names input output)).arguments =
      [input.text, "-o", output.text] := by
    simp only [scribeSpec, List.mem_cons, List.not_mem_nil, or_false, or_self] at htool
    subst htool
    cases names <;> rfl
  simp only [scribe, hcommand, bind_apply, files_apply]
  cases workspace.files.read input with
  | error fault => rfl
  | ok content => rfl

theorem confined_scribe (home : Path) : Confined scribe scribeSpec home where
  compiler {before start scratch} hmade input options optimize := by
    obtain ⟨directory, number, hlies, -⟩ := makeScratch_ok hmade
    rw [run_compiler]
    exact (remove_writeAll scribed isName_scribed hlies (by simp [find?_of_makeScratch hmade])).trans
      (Errand.remove_of_makeScratch hmade)
  converter {before start scratch} hmade tool htool kinds hkinds names content written hwrite := by
    obtain ⟨directory, number, hlies, -⟩ := makeScratch_ok hmade
    have hkind : IsName ("input." ++ kinds.1) ∧ IsName ("output." ++ kinds.2) := by
      simp only [List.mem_cons, List.not_mem_nil, or_false] at hkinds
      rcases hkinds with rfl | rfl <;> decide
    obtain ⟨hkeeps, hlinked⟩ := links_of_write hwrite
    have hgone := (hlies.remove_of_write hkind.1 (by simp [find?_of_makeScratch hmade]) hwrite).trans
      (Errand.remove_of_makeScratch hmade)
    rw [run_converter htool]
    dsimp only
    split
    · exact hgone
    · rename_i copied hread
      exact (remove_writeAll [("output." ++ kinds.2, copied)] (by simpa using hkind.2) (hlies.keeps hkeeps)
        (fun name target => hlinked _ _ (by simp [find?_of_makeScratch hmade]))).trans hgone

/-! ## Their answers -/

variable {room : Nat} {workspace : Workspace} (home : Path)

/-- What a run of the compiler comes to. -/
def scribeAnswer : Except ErrorChain Emitted × List Diagnostic :=
  (.ok ⟨"(module)", ⟨(magic ++ version).toArray⟩⟩, Diagnostic.parse (Text.ofBytes .empty))

theorem compileOnce_scribe (h : workspace.files.Roomy room) (hroom : room ≤ 10 ^ 50) (options : CompilerOptions)
    (optimize : Bool) (input : Path) :
    (compileOnce scribe scribeSpec.compiler home options optimize input workspace).1 = scribeAnswer := by
  obtain ⟨scratch, start, hmade, hstands⟩ := h.exists_scratch hroom
  obtain ⟨left, hrun, hleft, hwritten, -⟩ := writeAll_stands isName_scribed (by decide) hstands
    fun item _ => find?_of_makeScratch hmade item.1
  have htext := hleft.read (by decide) (hwritten ("module.wat", "(module)".toUTF8) (by simp [scribed]))
  have hbinary := hleft.read (by decide) (hwritten ("module.wasm", ⟨(magic ++ version).toArray⟩) (by simp [scribed]))
  rw [compileOnce, withScratch_fst, hmade]
  simp only [compileIn, bind_apply, Tool.run_apply, run_compiler, hrun, pure_apply, files_apply,
    Errand.files_readMessages]
  have hread : left.files.readText (scratch.path.join ⟨"module.wat"⟩) = .ok "(module)" := by
    rw [Store.readText, htext]
    simp only [Store.fromUTF8?_toUTF8]
  rw [(@emitted_eq_ok (.ofExit ⟨0, .empty, .empty⟩) _ _ _ ⟨"(module)", ⟨(magic ++ version).toArray⟩⟩).mpr
    ⟨rfl, hread, hbinary⟩]
  rfl

/-- A conversion comes to what it is given. -/
theorem convert_scribe (h : workspace.files.Roomy room) (hroom : room ≤ 10 ^ 50) {tool : ConverterTool}
    (htool : tool ∈ [scribeSpec.toBinary, scribeSpec.toText]) {kinds : String × String}
    (hkinds : kinds ∈ [("wat", "wasm"), ("wasm", "wat")]) (names : Bool) (content : ByteArray) :
    (convert scribe tool home kinds names content workspace).1 = .ok content := by
  obtain ⟨scratch, start, hmade, hstands⟩ := h.exists_scratch hroom
  have hkind : IsName ("input." ++ kinds.1) ∧ IsName ("output." ++ kinds.2) ∧
      "output." ++ kinds.2 ≠ "input." ++ kinds.1 := by
    simp only [List.mem_cons, List.not_mem_nil, or_false] at hkinds
    rcases hkinds with rfl | rfl <;> decide
  obtain ⟨hinput, houtput, hne⟩ := hkind
  have hnothing := find?_of_makeScratch hmade
  have hwrite := hstands.write hinput (hnothing _) content
  have hfilled := hstands.insert (hnothing ("input." ++ kinds.1)) content
  have hread := hfilled.read hinput (by rw [find?_insert_name, if_pos rfl])
  obtain ⟨left, hrun, hleft, hwritten, -⟩ := @writeAll_stands scratch [("output." ++ kinds.2, content)]
    (by simpa using houtput) (by simp) { start with
      files := start.files.insert (scratch.key ++ ["input." ++ kinds.1]) (.file content) } hfilled
    (by simp [find?_insert_name, hne, hnothing])
  have hcopied := hleft.read houtput (hwritten _ List.mem_cons_self)
  rw [convert, withScratch_fst, hmade]
  simp only [bind_apply, files_apply, hwrite]
  have hset : ∀ written, (Errand.setFiles written start).2 = { start with files := written } := fun _ => rfl
  rw [List.map_singleton] at hrun
  have hchecked : (ToolOutput.ofExit ⟨0, .empty, .empty⟩).check tool.program = .ok (.ofExit ⟨0, .empty, .empty⟩) := rfl
  simp only [hset, Tool.run_apply, run_converter htool, hread, hrun, hchecked, bind_apply, files_apply, hcopied]
  rfl

/-! ## The subject -/

theorem length_insert_le (files : Store) (key : Key) (entry : Entry) :
    (files.insert key entry).entries.length ≤ files.entries.length + 1 :=
  Store.length_place_le key entry files.entries

/-- In a roomy tree an input is put on disk. -/
theorem stage_scribe (h : workspace.files.Roomy room) (hroom : room ≤ 10 ^ 50) {input : CompilerInput}
    (hnamed : Named input) : ∃ staged start, stage input workspace = (.ok staged, start) ∧
      staged.kept.length ≤ room + 2 := by
  cases input with
  | file path => exact ⟨_, _, rfl, Nat.zero_le _⟩
  | memory name source =>
    obtain ⟨scratch, start, hmade, hstands⟩ := h.exists_scratch hroom
    obtain ⟨-, -, -, -, hfiles⟩ := makeScratch_ok hmade
    have hwrite := hstands.write hnamed (find?_of_makeScratch hmade name) source.toUTF8
    let written := start.files.insert (scratch.key ++ [name]) (.file source.toUTF8)
    have hstage : stage (.memory name source) workspace =
        (.ok ⟨scratch.path.join ⟨name⟩, some scratch, written.within scratch.key⟩,
          { start with files := written.remove scratch.key }) := by
      simp only [stage, bind_apply, hmade, files_apply, hwrite]
      rfl
    refine ⟨_, _, hstage, ?_⟩
    calc (written.within scratch.key).length
      _ ≤ written.entries.length := List.length_filter_le _ _
      _ ≤ start.files.entries.length + 1 := length_insert_le _ _ _
      _ ≤ workspace.files.entries.length + 1 + 1 := Nat.add_le_add_right (hfiles ▸ length_insert_le _ _ _) 1
      _ ≤ room + 2 := Nat.add_le_add_right h.few 2

/-- In a roomy tree a run on an input on disk comes to its answer. -/
theorem compileStaged_scribe (h : workspace.files.Roomy room) {staged : Staged} (hstaged : staged.Apart workspace.files)
    (hroom : room + staged.kept.length ≤ 10 ^ 50) (options : CompilerOptions) (optimize : Bool) :
    (compileStaged scribe scribeSpec.compiler home options optimize staged workspace).1.1 = scribeAnswer ∧
      (compileStaged scribe scribeSpec.compiler home options optimize staged workspace).1.2.length ≤
        room + staged.kept.length := by
  let found : Workspace := { workspace with files := workspace.files.restore staged.kept }
  have hunpacked : (Errand.unpack staged.kept workspace).2 = found := rfl
  have hextends : found.files.Extends workspace.files := by
    rcases staged with ⟨path, scratch | scratch, kept⟩
    · obtain rfl : kept = [] := hstaged
      exact .refl _
    · obtain ⟨hkey, hfree, hkept⟩ := hstaged
      exact Store.extends_restore hfree hkey hkept
  have hfew : found.files.entries.length ≤ room + staged.kept.length :=
    (Store.length_restore_le _ _).trans (Nat.add_le_add_right h.few _)
  have hfound : found.files.Roomy (room + staged.kept.length) := h.grown hextends (Store.sealed_restore _ _) hfew
  have hanswer := compileOnce_scribe home hfound hroom options optimize staged.path
  have hleft := tidy_compileOnce (confined_scribe home) options optimize staged.path found
  rw [compileStaged, bind_apply, hunpacked, bind_apply, hanswer]
  cases staged.scratch with
  | none => exact ⟨rfl, Nat.zero_le _⟩
  | some scratch => exact ⟨rfl, (List.length_filter_le _ _).trans (hleft ▸ hfew)⟩

/-- In roomy trees a source is compiled to the same module, and so is the module when it is optimized. -/
theorem compile_scribe (h : workspace.files.Roomy room) (hroom : room ≤ 10 ^ 40) {input : CompilerInput}
    (hnamed : Named input) (options : CompilerOptions) :
    ∃ made after, (compiler scribe scribeSpec.compiler home).compile input options workspace =
        (⟨.ok made, scribeAnswer.2⟩, after) ∧
      made.toEmission = Emitted.emission ⟨"(module)", ⟨(magic ++ version).toArray⟩⟩ ∧
      ∀ now : Workspace, now.files = workspace.files → (made.optimizeOnce now).1 =
        .ok (scribeAnswer.2, Emitted.emission ⟨"(module)", ⟨(magic ++ version).toArray⟩⟩) := by
  obtain ⟨staged, start, hstage, hkept⟩ := stage_scribe h (hroom.trans (by decide)) hnamed
  obtain ⟨hstart, hapart⟩ := stage_cases hnamed workspace
  rw [hstage] at hstart hapart
  have hstaged := hapart staged rfl
  have hstands : start.files.Roomy room := hstart ▸ h
  obtain ⟨hanswer, hleft⟩ := compileStaged_scribe home hstands (hstart ▸ hstaged) (by omega) options false
  obtain ⟨-, hspec⟩ := compileStaged_spec (confined_scribe home) options false
    (hstart ▸ hstaged : staged.Apart start.files)
  simp only [compiler, bind_apply, hstage]
  generalize compileStaged scribe scribeSpec.compiler home options false staged start = ran at *
  obtain ⟨⟨answer, kept⟩, left⟩ := ran
  obtain rfl : answer = scribeAnswer := hanswer
  refine ⟨_, _, rfl, rfl, fun now hnow => ?_⟩
  have hroomy : now.files.Roomy room := hnow ▸ h
  have hkeeps : Staged.Apart now.files { staged with kept := kept } := by
    rw [hnow, ← hstart]
    exact hspec
  have hfits : room + kept.length ≤ 10 ^ 50 := by
    have hmost : kept.length ≤ room + staged.kept.length := hleft
    omega
  obtain ⟨hagain, -⟩ := compileStaged_scribe home hroomy hkeeps hfits options true
  simp only [Module.optimizeOnce, optimize, bind_apply]
  generalize compileStaged scribe scribeSpec.compiler home options true { staged with kept := kept } now = again at *
  obtain ⟨⟨answer, kept'⟩, left'⟩ := again
  obtain rfl : answer = scribeAnswer := hagain
  rfl

/-- In roomy trees a file is compiled to the same module. -/
theorem compile_file_scribe (h : workspace.files.Roomy room) (hroom : room ≤ 10 ^ 40) (path : Path)
    (options : CompilerOptions) :
    ((compiler scribe scribeSpec.compiler home).compile (.file path) options workspace).1 =
      ⟨.ok { Emitted.emission ⟨"(module)", ⟨(magic ++ version).toArray⟩⟩ with
        kept := []
        optimize := optimize scribe scribeSpec.compiler home options ⟨path, none, []⟩ }, scribeAnswer.2⟩ := by
  have houtcome : Job.outcome ⟨scribe, scribeSpec.compiler, home, options, ⟨path, none, []⟩⟩
      ⟨false, Interval.resumed ⟨[], workspace⟩⟩ = scribeAnswer :=
    compileOnce_scribe home (h : workspace.files.Roomy room) (hroom.trans (by decide)) options false path
  have hstage : stage (.file path) workspace = (.ok ⟨path, none, []⟩, workspace) := rfl
  rw [Job.compile_staged hstage]
  dsimp only
  rw [houtcome]
  rfl

variable {R : Store → Store → Prop} {loader : Loader}

/-- In roomy trees compilations of a file agree. -/
theorem agree_file (hR : ∀ one other, R one other → one.Roomy room ∧ other.Roomy room) (hroom : room ≤ 10 ^ 40)
    (path : Path) (options : CompilerOptions) :
    Errand.Agree R ((subject scribe scribeSpec home loader).compiler.compile (.file path) options)
      ((subject scribe scribeSpec home loader).compiler.compile (.file path) options) := by
  have htidy := (tidy_subject (confined_scribe home) loader).file path options
  refine htidy.agree htidy fun one other hfound => ?_
  obtain ⟨hone, hother⟩ := hR _ _ hfound
  exact (compile_file_scribe home hone hroom path options).trans
    (compile_file_scribe home hother hroom path options).symm

/-- In roomy trees compilations of the smoke source agree, and so do the optimizations that follow. -/
theorem relate_smoke {one other : Store} (hone : one.Roomy room) (hother : other.Roomy room) (hroom : room ≤ 10 ^ 40)
    (source : String) : Errand.Relate (Between one other) (Compilation.Same (Between one other))
      ((subject scribe scribeSpec home loader).compiler.compile (.memory Smoke.fileName source) .base)
      ((subject scribe scribeSpec home loader).compiler.compile (.memory Smoke.fileName source) .base) := by
  rintro first second ⟨rfl, rfl⟩
  have htidy := tidy_subject (confined_scribe home) loader
  obtain ⟨made, after, hmade, -, hoptimized⟩ := compile_scribe home hone hroom (named_smoke source) .base
  obtain ⟨made', after', hmade', -, hoptimized'⟩ := compile_scribe home hother hroom (named_smoke source) .base
  refine ⟨?_, htidy.smoke source first, htidy.smoke source second⟩
  have hresult : ((subject scribe scribeSpec home loader).compiler.compile (.memory Smoke.fileName source) .base
      first).1 = ⟨.ok made, scribeAnswer.2⟩ := congrArg Prod.fst hmade
  have hresult' : ((subject scribe scribeSpec home loader).compiler.compile (.memory Smoke.fileName source) .base
      second).1 = ⟨.ok made', scribeAnswer.2⟩ := congrArg Prod.fst hmade'
  have hleaves := htidy.optimizer source first made (congrArg Compilation.result hresult)
  have hleaves' := htidy.optimizer source second made' (congrArg Compilation.result hresult')
  rw [hresult, hresult']
  refine ⟨fun now now' hnow => ?_, rfl⟩
  obtain ⟨hfirst, hsecond⟩ := hnow
  exact ⟨(hoptimized now hfirst).trans (hoptimized' now' hsecond).symm, (hleaves now hfirst).trans hfirst,
    (hleaves' now' hsecond).trans hsecond⟩

/-- In roomy trees conversions agree. -/
theorem agree_convert (hR : ∀ one other, R one other → one.Roomy room ∧ other.Roomy room) (hroom : room ≤ 10 ^ 40)
    {tool : ConverterTool} (htool : tool ∈ [scribeSpec.toBinary, scribeSpec.toText]) {kinds : String × String}
    (hkinds : kinds ∈ [("wat", "wasm"), ("wasm", "wat")]) (names : Bool) (content : ByteArray) :
    Errand.Agree R (convert scribe tool home kinds names content) (convert scribe tool home kinds names content) := by
  have htidy := tidy_convert (confined_scribe home) htool hkinds names content
  refine htidy.agree htidy fun one other hfound => ?_
  obtain ⟨hone, hother⟩ := hR _ _ hfound
  exact (convert_scribe home hone (hroom.trans (by decide)) htool hkinds names content).trans
    (convert_scribe home hother (hroom.trans (by decide)) htool hkinds names content).symm

theorem agree_toBinary (hR : ∀ one other, R one other → one.Roomy room ∧ other.Roomy room) (hroom : room ≤ 10 ^ 40)
    (names : Bool) (text : String) :
    Errand.Agree R ((subject scribe scribeSpec home loader).converter.toBinary names text)
      ((subject scribe scribeSpec home loader).converter.toBinary names text) := by
  intro one other hfound
  obtain ⟨hanswer, hleft⟩ := agree_convert home hR hroom (by simp : scribeSpec.toBinary ∈ _)
    (by simp : ("wat", "wasm") ∈ _) names text.toUTF8 one other hfound
  exact ⟨congrArg (·.mapError Failure.error) hanswer, hleft⟩

theorem agree_toText (hR : ∀ one other, R one other → one.Roomy room ∧ other.Roomy room) (hroom : room ≤ 10 ^ 40)
    (names : Bool) (binary : ByteArray) :
    Errand.Agree R ((subject scribe scribeSpec home loader).converter.toText names binary)
      ((subject scribe scribeSpec home loader).converter.toText names binary) := by
  intro one other hfound
  obtain ⟨hanswer, hleft⟩ := agree_convert home hR hroom (by simp : scribeSpec.toText ∈ _)
    (by simp : ("wasm", "wat") ∈ _) names binary one other hfound
  exact ⟨congrArg (fun converted => (converted.bind decode).mapError Failure.error) hanswer, hleft⟩

/-- In a roomy tree it is isolated. -/
theorem isolated_scribe {files : Store} (h : files.Roomy room) (hroom : room ≤ 10 ^ 40) :
    (subject scribe scribeSpec home loader).Isolated files := by
  have hR : ∀ one other, Stays files one other → one.Roomy room ∧ other.Roomy room := by
    rintro one other ⟨rfl, rfl⟩
    exact ⟨h, h⟩
  exact ⟨agree_file home hR hroom, relate_smoke home h h hroom, agree_toBinary home hR hroom,
    agree_toText home hR hroom⟩

end External

end GoldenBench
