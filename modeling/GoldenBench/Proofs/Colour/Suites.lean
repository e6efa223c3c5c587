import GoldenBench.Proofs.Colour.Tinted
import GoldenBench.Proofs.Isolation.Suites
import GoldenBench.Proofs.Seats

/-!
# Colour is cosmetic

A coloured run and a plain one are the same but for the sequences in what they show. A detail that says where files
are can have sequences of its own, since names of files can; then it is the same in both runs.

* `Session.runAll_tinted`: what the two runs have in common.
* `Session.detail_with_sequence`: a detail that has a sequence in the plain run.
-/

namespace GoldenBench

open Ansi (Colourless)

variable {subject : Subject} {environment : Environment} {options : RunOptions} {registry : Registry} {world : World}

/-! ## Calls of the compiler -/

namespace Invocation

variable {P : Module → Prop}

theorem tinted_run {compiler : Compiler} {input : CompilerInput} {asked : CompilerOptions}
    (h : compiler.Colourless P input asked world.workspace) :
    Run.Tinted (Shared fun answer => answer = .of compiler input asked world.workspace ∧ answer.Colourless P)
      (run compiler input asked) (run compiler input asked) world := by
  intro hfiles
  rw [run_apply]
  exact ⟨⟨rfl, rfl, h.answer⟩, rfl, h.left hfiles⟩

/-- The coloured note of a call is the plain one but for its sequences. -/
theorem remove_notes {invocation : Invocation} (h : invocation.Colourless P) :
    (invocation.notes true).map Ansi.remove = invocation.notes false := by
  unfold notes
  split
  · rfl
  · exact congrArg (fun note => [note]) (Diagnostic.remove_format h.diagnostics)

end Invocation

/-! ## Snapshot fixtures -/

namespace Snapshot

variable {fixture : SnapshotCase} {loader : Loader}

theorem tinted_verdictOutcome (golden : Path) {result : Except ErrorChain Golden.Verdict}
    (h : Golden.Showable result) : (verdictOutcome golden true result).Tinted (verdictOutcome golden false result) := by
  cases result with
  | error chain => exact Outcome.tinted_of_namesFiles (.inl rfl) _
  | ok verdict =>
    cases verdict with
    | matched => exact Outcome.tinted_passed
    | created path => exact .same _ fun _ _ hdetail => nomatch hdetail
    | missing path => exact Outcome.tinted_failure _
    | mismatched diff => exact .shown _ _ _ (h diff rfl)

theorem tinted_checkModule {made : Module} (h : Emits made) :
    Run.Tinted Outcome.Tinted (checkModule fixture { options with color := true } made)
      (checkModule fixture { options with color := false } made) world := by
  unfold Emits at h
  unfold checkModule
  cases hvalid : made.validity with
  | error chain =>
    rw [hvalid] at h
    exact Run.tinted_pure (Outcome.tinted_failureWith _ h)
  | ok _ =>
    rw [hvalid] at h
    cases hemitted : made.text with
    | error chain =>
      simp only [hemitted] at h
      exact Run.tinted_pure (Outcome.tinted_failureWith _ h)
    | ok text =>
      simp only [hemitted] at h
      have hcanonical : Ansi.Colourless (Canonical.ofText text) := Canonical.colourless_ofText h
      refine (Golden.tinted_compare hcanonical _ _).bind ?_
      rintro result _ ⟨rfl, hresult⟩
      exact Run.tinted_pure (tinted_verdictOutcome fixture.golden hresult)

/-- A turn in colour and a plain one. -/
theorem tinted_runCase (h : Colourless subject (fixture, world)) :
    Run.Tinted Finding.Tinted (runCase { subject with loader := loader } fixture { options with color := true })
      (runCase subject fixture { options with color := false }) world := by
  refine (Run.tinted_tell _).bind fun _ _ _ => (Run.tidy_readText _).tinted.bind ?_
  rintro read _ ⟨rfl, hread⟩
  cases read with
  | error fault =>
    exact Run.tinted_pure (Finding.tinted_plain (Outcome.tinted_failureWith _ fault.colourless_message))
  | ok source =>
    cases hoptions : Directive.options source.toList with
    | error fault =>
      simp only [hoptions]
      exact Run.tinted_pure (Finding.tinted_plain (Outcome.tinted_failure _))
    | ok directed =>
      simp only [hoptions]
      refine Run.Tinted.bind (Invocation.tinted_run (P := Emits) ?_) ?_
      · exact h source directed hread.symm hoptions
      rintro invocation _ ⟨rfl, -, hinvocation⟩
      have hnotes := Invocation.remove_notes hinvocation
      have hresult := hinvocation.result
      cases hcompiled : invocation.result with
      | error failure =>
        rw [hcompiled] at hresult
        exact Run.tinted_pure ⟨rfl, Outcome.tinted_failureWith _ hresult, hnotes⟩
      | ok made =>
        rw [hcompiled] at hresult
        refine (tinted_checkModule hresult).bind fun _ _ houtcome => ?_
        exact Run.tinted_pure ⟨rfl, houtcome, hnotes⟩

theorem tidy_discover (filter : Filter) : Run.Tidy (discover environment filter) := by
  intro world
  rw [discover, Run.bind_apply, Run.sourceFiles_apply]
  dsimp only
  split <;> rfl

/-- Fixtures that are discovered have their turns in a world in which no more is told than what is missing. -/
theorem discover_eq_ok {filter : Filter} {fixtures : List SnapshotCase}
    (h : (discover environment filter world).1 = .ok fixtures) : fixtures = casesIn environment filter world.files ∧
      (discover environment filter world).2 = world.noted (world.files.missing environment.fixturesDirectory) := by
  simp only [discover, Run.bind_apply, Run.sourceFiles_apply] at h ⊢
  split at h
  · cases h
  · rename_i hbad
    rw [if_neg hbad]
    cases h
    exact ⟨rfl, rfl⟩

/-- The fixtures of a coloured suite and those of a plain one, as long as the suite comes to its end. -/
theorem tinted_runSuite
    (h : ∀ findings, (runSuite subject environment { options with color := false } world).1 = .ok findings →
      ∀ turn ∈ turns subject { options with color := false } world environment, Colourless subject turn) :
    Run.Tinted (BothEnd Eq (List.Forall₂ Finding.Tinted))
      (runSuite { subject with loader := loader } environment { options with color := true })
      (runSuite subject environment { options with color := false }) world := by
  refine (tidy_discover options.filter).tinted.bind ?_
  rintro found _ ⟨rfl, hfound⟩
  cases found with
  | error abort => exact Run.tinted_pure rfl
  | ok fixtures =>
    obtain ⟨rfl, hleft⟩ := discover_eq_ok hfound.symm
    have hends : ∃ findings, (runSuite subject environment { options with color := false } world).1 = .ok findings := by
      rw [runSuite, Run.bind_apply]
      dsimp only
      rw [← hfound]
      exact ⟨_, rfl⟩
    obtain ⟨findings, hends⟩ := hends
    rw [hleft]
    refine (Run.tinted_mapM fun turn hturn => tinted_runCase (h findings hends turn hturn)).bind fun _ _ hfindings => ?_
    exact Run.tinted_pure hfindings

end Snapshot

/-! ## Interop fixtures -/

namespace Interop

variable {fixture : InteropCase} {fixtures : List InteropCase} {loader : Loader}

theorem tinted_compileCase {P : ByteArray → Prop}
    (h : ∀ asked, directed? fixture world.files = some asked → subject.compiler.Colourless
      (fun made => Words ErrorChain.inline P made.binary) (.file fixture.source) asked world.workspace) :
    Run.Tinted (fun coloured plain => BothEnd Outcome.Tinted (Shared P) coloured.1 plain.1 ∧
        coloured.2.map Ansi.remove = plain.2)
      (compileCase { subject with loader := loader } fixture true) (compileCase subject fixture false) world := by
  refine (Run.tidy_readText _).tinted.bind ?_
  rintro read _ ⟨rfl, hread⟩
  cases read with
  | error fault => exact Run.tinted_pure ⟨Outcome.tinted_failureWith _ fault.colourless_message, rfl⟩
  | ok source =>
    cases hoptions : Directive.options source.toList with
    | error fault =>
      simp only [hoptions]
      exact Run.tinted_pure ⟨Outcome.tinted_failure _, rfl⟩
    | ok directed =>
      simp only [hoptions]
      have hdirected := (directed?_eq_some fixture).mpr ⟨source, directed, hread.symm, hoptions, rfl⟩
      refine (Invocation.tinted_run (h directed.silenced hdirected)).bind ?_
      rintro invocation _ ⟨rfl, -, hinvocation⟩
      have hnotes := Invocation.remove_notes hinvocation
      have hresult := hinvocation.result
      cases hcompiled : invocation.result with
      | error failure =>
        rw [hcompiled] at hresult
        exact Run.tinted_pure ⟨Outcome.tinted_failureWith _ hresult, hnotes⟩
      | ok made =>
        rw [hcompiled] at hresult
        have hbinary : Words ErrorChain.inline P made.binary := hresult
        dsimp only
        cases hemitted : made.binary with
        | error chain =>
          rw [hemitted] at hbinary
          exact Run.tinted_pure ⟨Outcome.tinted_failureWith _ hbinary, hnotes⟩
        | ok binary =>
          rw [hemitted] at hbinary
          exact Run.tinted_pure ⟨⟨rfl, hbinary⟩, hnotes⟩

/-- A load of the plain run, from that of the coloured run. -/
def Pending.plain (pending : Pending) : Pending :=
  { pending with notes := pending.notes.map Ansi.remove }

/-- A turn in colour and a plain one. The loads that they come to are the same but for their notes. -/
theorem tinted_launchCase (h : Colourless subject registry fixtures (fixture, world)) :
    Run.Tinted (BothEnd Finding.Tinted fun coloured plain =>
        plain = coloured.plain ∧ Loads subject.loader coloured.runner coloured.binary)
      (launchCase { subject with loader := loader } registry true fixtures fixture)
      (launchCase subject registry false fixtures fixture) world := by
  unfold launchCase
  by_cases hshared : 1 < (sharing fixtures fixture.id).length
  · simp only [if_pos hshared]
    exact Run.tinted_pure (Finding.tinted_plain (Outcome.tinted_of_namesFiles (.inr ⟨_, _, rfl⟩) _))
  · simp only [if_neg hshared]
    cases hrunner : registry.get? fixture.id with
    | none => exact Run.tinted_pure (Finding.tinted_plain (Outcome.tinted_failure _))
    | some runner =>
      have hown : (fixtures.filter (·.id = fixture.id)).length ≤ 1 := by
        rw [sharing, List.length_map] at hshared
        exact Nat.not_lt.mp hshared
      refine (Run.tinted_tell _).bind fun _ _ _ => Run.Tinted.bind
        (tinted_compileCase (P := Loads subject.loader runner) ?_) ?_
      · exact fun asked hdirected =>
          h runner asked hrunner ((call?_eq_some _ _ _).mpr ⟨hown, ⟨runner, hrunner⟩, hdirected⟩)
      rintro ⟨compiled, notes⟩ ⟨compiled', notes'⟩ ⟨hcompiled, hnotes⟩
      cases compiled with
      | error outcome =>
        cases compiled' with
        | error outcome' => exact Run.tinted_pure ⟨rfl, hcompiled, hnotes⟩
        | ok binary => exact hcompiled.elim
      | ok binary =>
        cases compiled' with
        | error outcome => exact hcompiled.elim
        | ok binary' =>
          obtain ⟨rfl, hloads⟩ := hcompiled
          subst hnotes
          exact Run.tinted_pure ⟨rfl, hloads⟩

theorem tinted_launch {rest : List InteropCase}
    (h : ∀ turn ∈ turns subject registry false fixtures world rest, Colourless subject registry fixtures turn) :
    Run.Tinted (fun coloured plain => List.Forall₂ Finding.Tinted coloured.1 plain.1 ∧
        plain.2 = coloured.2.map Pending.plain ∧
        ∀ pending ∈ coloured.2, Loads subject.loader pending.runner pending.binary)
      (launch { subject with loader := loader } registry true fixtures rest)
      (launch subject registry false fixtures rest) world := by
  induction rest generalizing world with
  | nil => exact Run.tinted_pure ⟨.nil, rfl, fun _ hnone => (nomatch hnone)⟩
  | cons fixture rest ih =>
    rw [turns, Run.along, List.forall_mem_cons] at h
    refine (tinted_launchCase h.1).bind fun first first' hfirst => (ih h.2).bind ?_
    rintro ⟨findings, loads⟩ ⟨findings', loads'⟩ ⟨hfindings, hloads, hsaid⟩
    cases first with
    | error finding =>
      cases first' with
      | error finding' => exact Run.tinted_pure ⟨.cons hfirst hfindings, hloads, hsaid⟩
      | ok pending => exact hfirst.elim
    | ok pending =>
      cases first' with
      | error finding => exact hfirst.elim
      | ok pending' =>
        obtain ⟨rfl, hpending⟩ := hfirst
        exact Run.tinted_pure ⟨hfindings, congrArg (pending.plain :: ·) hloads,
          List.forall_mem_cons.mpr ⟨hpending, hsaid⟩⟩

theorem tinted_verdict {ending : Except Failure Unit} {failed : List String}
    (hending : Words Failure.text (fun _ => True) ending) (hfailed : ∀ text ∈ failed, Ansi.Colourless text) :
    (Runner.verdict ending failed).Tinted (Runner.verdict ending failed) := by
  unfold Runner.verdict
  cases ending with
  | error failure =>
    cases failure with
    | panic message => exact Outcome.tinted_failureWith _ hending
    | error chain =>
      exact Outcome.tinted_failureWith _ (Text.colourless_joinLines (List.forall_mem_cons.mpr ⟨hending, hfailed⟩))
  | ok _ =>
    dsimp only
    split
    · exact Outcome.tinted_passed
    · exact Outcome.tinted_failureWith _ (Text.colourless_joinLines hfailed)

/-- A load comes to the same in both runs, up to its notes and the number of its task. -/
theorem tinted_finish {pending : Pending}
    (halike : (subject.loader.load pending.binary).Alike (loader.load pending.binary))
    (h : Loads subject.loader pending.runner pending.binary) :
    Run.Tinted Finding.Tinted (finish { subject with loader := loader } pending) (finish subject pending.plain)
      world := by
  intro hfiles
  rw [finish_apply, finish_apply]
  simp only [Pending.finding, Pending.outcome, Pending.start?, Pending.plain, Loads] at h ⊢
  generalize subject.loader.load pending.binary = load at h halike ⊢
  generalize loader.load pending.binary = load' at halike ⊢
  cases halike with
  | panicked task task' message => exact ⟨⟨rfl, .interrupted task' task message, rfl⟩, rfl, hfiles⟩
  | same =>
    refine ⟨⟨rfl, ?_, rfl⟩, rfl, hfiles⟩
    cases load with
    | loaded live =>
      obtain ⟨hending, hfailed⟩ := h live rfl
      exact tinted_verdict hending (List.forall_mem_map.mpr hfailed)
    | rejected chain => exact Outcome.tinted_failure _
    | panicked task message => exact .interrupted task task message

/-- Loads settle in the same order in both runs. -/
theorem tinted_settle (hloader : subject.loader.Alike loader) (loads : List Pending)
    (hloads : ∀ pending ∈ loads, Loads subject.loader pending.runner pending.binary) :
    Run.Tinted (List.Forall₂ Finding.Tinted) (settle { subject with loader := loader } loads)
      (settle subject (loads.map Pending.plain)) world := by
  induction hn : loads.length generalizing loads world with
  | zero =>
    obtain rfl := List.length_eq_zero_iff.mp hn
    rw [List.map_nil, settle, settle]
    exact Run.tinted_pure .nil
  | succ n ih =>
    obtain ⟨first, others, rfl⟩ := List.exists_cons_of_length_eq_add_one hn
    rw [List.map_cons, settle, settle, List.length_map, ← List.map_cons]
    refine Run.tinted_pick.bind ?_
    rintro pick _ rfl
    have hlt : pick % (others.length + 1) < (first :: others).length := Nat.mod_lt _ (Nat.succ_pos _)
    generalize pick % (others.length + 1) = place at hlt
    dsimp only
    -- the load at a place of the plain run is the plain one of that at the same place of the coloured run
    rw [List.getElem?_map, List.getElem?_eq_getElem hlt, List.eraseIdx_map, Option.map_some, Option.getD_some,
      Option.getD_some]
    refine (tinted_finish (hloader.load _) (hloads _ (List.getElem_mem hlt))).bind fun _ _ hfinding => ?_
    refine (ih _ (fun pending hmem => hloads pending (List.mem_of_mem_eraseIdx hmem)) ?_).bind
      fun _ _ hfindings => Run.tinted_pure (.cons hfinding hfindings)
    rw [List.length_eraseIdx_of_lt hlt, hn, Nat.add_sub_cancel]

theorem tinted_runSuite (hloader : subject.loader.Alike loader)
    (h : subject.loader.capability = .supported →
      ∀ turn ∈ turnsIn subject registry environment { options with color := false } world,
        Colourless subject registry (casesIn environment options.filter world.files) turn) :
    Run.Tinted (List.Forall₂ Finding.Tinted)
      (runSuite { subject with loader := loader } environment { options with color := true } registry)
      (runSuite subject environment { options with color := false } registry) world := by
  intro hfiles
  cases hcapability : subject.loader.capability with
  | unsupported reason =>
    have hunsupported : loader.capability = .unsupported reason := hloader.capability.symm.trans hcapability
    rw [runSuite_apply, runSuite_apply]
    dsimp only
    rw [hcapability, hunsupported]
    split
    · exact ⟨.nil, rfl, hfiles⟩
    · exact ⟨.cons (Finding.tinted_plain (.same _ fun _ _ hdetail => nomatch hdetail)) .nil, rfl, hfiles⟩
  | supported =>
    rw [runSuite_supported subject registry world environment { options with color := false } hcapability,
      runSuite_supported { subject with loader := loader } registry world environment { options with color := true }
        (hloader.capability.symm.trans hcapability)]
    refine Run.Tinted.bind (tinted_launch (h hcapability)) ?_ hfiles
    rintro ⟨findings, loads⟩ ⟨findings', loads'⟩ ⟨hfindings, rfl, hloads⟩
    exact (tinted_settle hloader loads hloads).bind fun _ _ hsettled =>
      Run.tinted_pure (List.rel_append hfindings hsettled)

end Interop

/-! ## The smoke test -/

namespace Smoke

theorem tinted_checkText {emitted : Except ErrorChain String} (h : Words ErrorChain.inline Ansi.Colourless emitted) :
    (checkText emitted).Tinted (checkText emitted) := by
  unfold checkText
  cases emitted with
  | ok text =>
    dsimp only
    split
    · exact Outcome.tinted_failure _
    · exact Outcome.tinted_passed
  | error chain => exact Outcome.tinted_failureWith _ h

theorem tinted_run {loader : Loader} (h : Colourless subject environment world) :
    Run.Tinted Finding.Tinted (run { subject with loader := loader } environment true) (run subject environment false)
      world := by
  have hleft : (Invocation.run subject.compiler (.memory fileName environment.smokeSource) .base world).2.workspace =
      (world.after (compiled subject environment world).2).workspace := by
    rw [Invocation.run_apply]
    rfl
  refine Run.Tinted.bind (Invocation.tinted_run (P := Optimizes (compiled subject environment world).1.diagnostics
    (world.after (compiled subject environment world).2).workspace) h) ?_
  rintro invocation _ ⟨rfl, hcall, hinvocation⟩
  have hnotes := Invocation.remove_notes hinvocation
  have hresult := hinvocation.result
  dsimp only
  cases hcompiled : invocation.result with
  | error failure =>
    rw [hcompiled] at hresult
    exact Run.tinted_pure ⟨rfl, Outcome.tinted_failureWith _ hresult, hnotes⟩
  | ok made =>
    rw [hcompiled] at hresult
    by_cases hsilent : (!invocation.diagnostics.isEmpty) = true
    · simp only [if_pos hsilent]
      exact Run.tinted_pure ⟨rfl, Outcome.tinted_failure _, hnotes⟩
    · simp only [if_neg hsilent]
      have hdiagnostics : (compiled subject environment world).1.diagnostics = [] := by
        have hmade := (Invocation.result_of_eq_ok _ _ _).mp (hcall ▸ hcompiled)
        rw [compiled, ← Invocation.diagnostics_of _ _ _ hmade, ← hcall]
        simpa using hsilent
      refine (Run.tinted_lift (hleft ▸ hresult hdiagnostics)).bind ?_
      rintro optimized _ ⟨rfl, hoptimized⟩
      rcases optimized with chain | ⟨_ | ⟨diagnostic, diagnostics⟩, emitted⟩
      · exact Run.tinted_pure ⟨rfl, Outcome.tinted_failureWith _ hoptimized, hnotes⟩
      · exact Run.tinted_pure ⟨rfl, tinted_checkText hoptimized.2, hnotes⟩
      · refine (Run.tinted_tell _).bind fun _ _ _ =>
          Run.tinted_pure ⟨rfl, tinted_checkText hoptimized.2, ?_⟩
        rw [List.map_append, hnotes, List.map_singleton, Diagnostic.remove_format hoptimized.1]

theorem tinted_runSuite {loader : Loader}
    (h : options.filter.accepts name = true → Colourless subject environment world) :
    Run.Tinted (List.Forall₂ Finding.Tinted)
      (runSuite { subject with loader := loader } environment { options with color := true })
      (runSuite subject environment { options with color := false }) world := by
  unfold runSuite
  dsimp only
  cases haccepts : options.filter.accepts name with
  | false => exact Run.tinted_pure .nil
  | true =>
    refine (Run.tinted_tell _).bind fun _ _ _ => Run.Tinted.bind (tinted_run ?_) fun _ _ hfinding =>
      Run.tinted_pure (.cons hfinding .nil)
    exact h haccepts

end Smoke

/-! ## The round trip -/

namespace RoundTrip

theorem colourless_builtIn : Ansi.Colourless builtIn := by
  unfold Ansi.Colourless builtIn
  simp only [String.toList_append, List.mem_append, not_or]
  exact ⟨by decide, by decide⟩

variable {converter : Converter} {text : String}

theorem tinted_convert (h : Colourless converter text world) :
    Run.Tinted (Shared (Words Failure.text Ansi.Colourless)) (convert converter text) (convert converter text)
      world := by
  have hthere : (converter.toBinary true text).Colourless _ (world.noted [.converting .toBinary true]).workspace := h
  refine (Run.tinted_tell _).bind fun _ _ _ => (Run.tinted_lift hthere).bind ?_
  rintro converted _ ⟨rfl, hconverted⟩
  cases converted with
  | error failure => exact Run.tinted_pure ⟨rfl, hconverted⟩
  | ok binary =>
    exact (Run.tinted_tell _).bind fun _ _ _ => (Run.tinted_tell _).bind fun _ _ _ => Run.tinted_lift hconverted

theorem tinted_run (htext : Ansi.Colourless text) (h : Colourless converter text world) :
    Run.Tinted Outcome.Tinted (run converter text true) (run converter text false) world := by
  refine (tinted_convert h).bind ?_
  rintro converted _ ⟨rfl, hconverted⟩
  cases converted with
  | error failure => exact Run.tinted_pure (Outcome.tinted_failureWith _ hconverted)
  | ok back =>
    dsimp only
    split
    · exact Run.tinted_pure Outcome.tinted_passed
    · refine (Run.tinted_compareTexts htext hconverted).bind ?_
      rintro diff _ ⟨rfl, hdiff⟩
      exact Run.tinted_pure (.shown _ _ _ hdiff)

theorem tinted_runSuite {loader : Loader}
    (h : options.filter.accepts name = true → Colourless subject.converter builtIn world) :
    Run.Tinted (List.Forall₂ Finding.Tinted) (runSuite { subject with loader := loader } { options with color := true })
      (runSuite subject { options with color := false }) world := by
  unfold runSuite
  dsimp only
  cases haccepts : options.filter.accepts name with
  | false => exact Run.tinted_pure .nil
  | true =>
    refine (Run.tinted_tell _).bind fun _ _ _ => Run.Tinted.bind (tinted_run colourless_builtIn ?_) fun _ _ houtcome =>
      Run.tinted_pure (.cons (Finding.tinted_plain houtcome) .nil)
    exact h haccepts

end RoundTrip

/-! ## Whole runs -/

namespace Session

theorem tinted_reports {coloured plain : List Finding} (h : List.Forall₂ Finding.Tinted coloured plain)
    (name suite : String) :
    List.Forall₂ Report.Tinted (coloured.map (·.report name suite)) (plain.map (·.report name suite)) := by
  rw [List.forall₂_map_left_iff, List.forall₂_map_right_iff]
  exact h.imp fun _ _ hfinding => hfinding.report name suite

/-- A subject in colour and a plain one, as long as nothing is said with colour if its turn comes to an end. -/
theorem tinted_runSubject {other : Subject} (halike : subject.Alike other)
    (h : ∀ summary, (runSubject subject environment { options with color := false } registry world).1 = .ok summary →
      subject.Colourless environment { options with color := false } registry world) :
    Run.Tinted (BothEnd Eq Summary.Tinted) (runSubject other environment { options with color := true } registry)
      (runSubject subject environment { options with color := false } registry) world := by
  obtain ⟨loader, hloader, rfl⟩ := halike
  have hsaid : ∀ findings, (Snapshot.runSuite subject environment { options with color := false }
      (started subject world)).1 = .ok findings →
      subject.Colourless environment { options with color := false } registry world := fun findings hends =>
    h _ (congrArg Prod.fst (runSubject_apply subject environment { options with color := false } registry world hends))
  have hsnapshots := @Snapshot.tinted_runSuite subject environment options (started subject world) loader
    fun findings hends => (hsaid findings hends).snapshots
  refine (Run.tinted_tell _).bind fun _ _ _ => hsnapshots.answered.bind ?_
  rintro ran ran' ⟨hran, hends⟩
  cases ran with
  | error abort =>
    cases ran' with
    | error abort' => exact Run.tinted_pure hran
    | ok snapshots' => exact hran.elim
  | ok snapshots =>
    cases ran' with
    | error abort => exact hran.elim
    | ok snapshots' =>
      have hcolourless := hsaid snapshots' hends.symm
      refine (Interop.tinted_runSuite hloader hcolourless.interop).bind fun _ _ hinterop => ?_
      refine (Smoke.tinted_runSuite hcolourless.smoke).bind fun _ _ hsmoke => ?_
      refine (RoundTrip.tinted_runSuite hcolourless.roundTrip).bind fun _ _ hround =>
        Run.tinted_pure (Summary.tinted_of_reports ?_)
      exact List.rel_append (List.rel_append (List.rel_append (tinted_reports hran _ _)
        (tinted_reports hinterop _ _)) (tinted_reports hsmoke _ _)) (tinted_reports hround _ _)

/-- All subjects in colour and plain ones. -/
theorem tinted_runAll {subjects others : List Subject} (halike : List.Forall₂ Subject.Alike subjects others)
    (h : Colourless environment { options with color := false } registry subjects world) :
    Run.Tinted (BothEnd Eq (List.Forall₂ Summary.Tinted))
      (runAll environment { options with color := true } registry others)
      (runAll environment { options with color := false } registry subjects) world := by
  induction halike generalizing world with
  | nil => exact Run.tinted_pure .nil
  | cons hfirst _ ih =>
    rw [Colourless, turns, Run.along, List.forall_mem_cons] at h
    refine (tinted_runSubject hfirst h.1).bind fun first first' hfirst => ?_
    cases first with
    | error abort =>
      cases first' with
      | error abort' => exact Run.tinted_pure hfirst
      | ok summary' => exact hfirst.elim
    | ok summary =>
      cases first' with
      | error abort => exact hfirst.elim
      | ok summary' =>
        refine (ih h.2).bind fun others others' hothers => ?_
        cases others with
        | error abort =>
          cases others' with
          | error abort' => exact Run.tinted_pure hothers
          | ok summaries' => exact hothers.elim
        | ok summaries =>
          cases others' with
          | error abort => exact hothers.elim
          | ok summaries' => exact Run.tinted_pure (.cons hfirst hothers)

/-- A coloured run and a plain one, from the same world without colour, go through the same events and leave the same
files, as long as what the plain run asks is answered without colour. They end in the same way, with the same reports
but for what they show and for the numbers of interrupted tasks, and each detail and each note of the coloured run
without its sequences is that of the plain run. Only a detail that says where files are can have colour in the plain
run; then it is the same in both. -/
theorem runAll_tinted {subjects others : List Subject} (halike : List.Forall₂ Subject.Alike subjects others)
    {world : World} (hfiles : world.files.Colourless)
    (h : Colourless environment { options with color := false } registry subjects world) :
    let coloured := runAll environment { options with color := true } registry others world
    let plain := runAll environment { options with color := false } registry subjects world
    BothEnd Eq (List.Forall₂ Summary.Tinted) coloured.1 plain.1 ∧ coloured.2 = plain.2 := by
  have htinted : Run.Tinted _ (runAll environment { options with color := true } registry others)
      (runAll environment { options with color := false } registry subjects) world := tinted_runAll halike h
  obtain ⟨hanswer, hworld, -⟩ := htinted hfiles
  exact ⟨hanswer, hworld⟩

/-! ## A compiler that names its input -/

open Snapshot (rootEnvironment firstCase secondCase)

/-- A subject whose compiler warns of everything and says where, and whose converter loses what it is given. Its loads
are interrupted, and the tasks that do them have this number. -/
def talkative (task : Nat) : Subject :=
  let emission : Emission := ⟨.ok (), .ok "(module\n)", .ok .empty⟩
  let place (input : CompilerInput) : String :=
    match input with
    | .file path => path.text
    | .memory name _ => name
  { faultless with
    compiler := ⟨fun input _ => pure ⟨.ok ⟨emission, [], fun kept => pure (.ok ([], emission), kept)⟩,
      [⟨.warning, "unused\nimport in " ++ place input⟩]⟩⟩
    converter := ⟨fun _ _ => pure (.ok .empty), fun _ _ => pure (.ok "(module)")⟩
    loader := ⟨.supported, fun _ => .panicked task none⟩ }

theorem colourless_settled : settled.Colourless := by
  refine Store.colourless_of_entries ?_
  have hempty : Ansi.Colourless "" := by decide
  have hmodule : Ansi.Colourless "(module)" := by decide
  simp only [settled, List.forall_mem_cons, List.not_mem_nil, false_implies, implies_true, and_true]
  refine ⟨?_, ?_, ?_, ?_⟩ <;> rintro content ⟨⟩
  · exact ⟨"", rfl, hempty⟩
  · exact ⟨"(module)", rfl, hmodule⟩
  · exact ⟨"", rfl, hempty⟩
  · exact ⟨"(module)", rfl, hmodule⟩

/-- Where the compiler is called for a file whose path has no colour, nothing is said with colour. -/
theorem compiler_talkative (task : Nat) {P : Module → Prop} {path : Path} (hpath : Ansi.Colourless path.text)
    (hP : ∀ made : Module, made.toEmission = ⟨.ok (), .ok "(module\n)", .ok .empty⟩ → P made) (asked : CompilerOptions)
    (workspace : Workspace) : (talkative task).compiler.Colourless P (.file path) asked workspace := by
  refine ⟨⟨?_, hP _ rfl⟩, id⟩
  refine List.forall_mem_singleton.mpr ?_
  have hmessage : Ansi.Colourless ("unused\nimport in " ++ path.text) := by
    rw [Ansi.Colourless, String.toList_append, List.mem_append, not_or]
    exact ⟨by decide, hpath⟩
  exact hmessage

theorem path_colourless : ∀ fixture ∈ [firstCase, secondCase], Ansi.Colourless fixture.source.text := by
  simp only [List.forall_mem_cons, List.not_mem_nil, false_implies, implies_true, and_true]
  decide

/-- On two sources with their golden files, what it is asked is answered without colour. -/
theorem colourless_talkative (task : Nat) {world : World} (hfiles : world.files = settled) :
    (talkative task).Colourless rootEnvironment ⟨false, false, .all⟩ finishing world := by
  have htidy : ∀ path asked, ((talkative task).compiler.compile (.file path) asked).Tidy := fun _ _ =>
    Errand.tidy_pure _
  have hstart : (started (talkative task) world).files = settled := hfiles
  have hcase : ∀ fixture ∈ [firstCase, secondCase],
      Run.Tidy (Snapshot.runCase (talkative task) fixture ⟨false, false, .all⟩) := fun fixture _ =>
    Snapshot.tidy_runCase (htidy fixture.source) rfl
  obtain ⟨hsnapshots, hend⟩ := Run.files_along hcase
    ((started (talkative task) world).noted (settled.missing rootEnvironment.fixturesDirectory))
  have hleft : (afterSnapshots (talkative task) rootEnvironment ⟨false, false, .all⟩ world).files = settled := by
    rw [afterSnapshots, Snapshot.runSuite_apply Snapshot.setsApart_rootEnvironment.isBadExtension, hstart,
      snapshots_settled]
    exact hend.trans hstart
  have htext : Ansi.Colourless "(module\n)" := by decide
  refine ⟨fun turn hturn source asked _ _ => ?_, fun _ turn hturn runner asked _ _ => ?_, fun _ => ?_, fun _ => ?_⟩
  · rw [Snapshot.turns, hstart, snapshots_settled] at hturn
    refine compiler_talkative task (path_colourless _ (hsnapshots turn hturn).1) (fun made hmade => ?_) asked _
    rw [Snapshot.Emits, hmade]
    exact htext
  · rw [Interop.turnsIn, hleft, interop_settled] at hturn
    obtain ⟨hmem, -⟩ := Interop.files_turns htidy _ _ hturn
    have hpath : Ansi.Colourless turn.1.source.text := by
      rcases List.mem_pair.mp hmem with hfixture | hfixture <;> rw [hfixture]
      · exact path_colourless firstCase (by simp)
      · exact path_colourless secondCase (by simp)
    refine compiler_talkative task hpath (fun made hmade => ?_) asked _
    rw [hmade]
    intro live hlive
    cases hlive
  · have hmessage : Ansi.Colourless ("unused\nimport in " ++ Smoke.fileName) := by decide +kernel
    refine ⟨⟨List.forall_mem_singleton.mpr hmessage, fun hnone => ?_⟩, id⟩
    cases hnone
  · have hback : Ansi.Colourless "(module)" := by decide
    exact ⟨⟨hback, id⟩, id⟩

/-- The runs of a subject that has much to say differ in nothing but colour and the numbers of its tasks. -/
theorem runAll_tinted_talkative :
    List.Forall₂ Subject.Alike [talkative 1] [talkative 2] ∧ settled.Colourless ∧
      Colourless rootEnvironment ⟨false, false, .all⟩ finishing [talkative 1] (.start settled []) ∧
      ∃ coloured plain,
        (runAll rootEnvironment ⟨false, true, .all⟩ finishing [talkative 2] (.start settled [])).1 = .ok coloured ∧
        (runAll rootEnvironment ⟨false, false, .all⟩ finishing [talkative 1] (.start settled [])).1 = .ok plain ∧
        List.Forall₂ Summary.Tinted coloured plain := by
  have hextension := Snapshot.setsApart_rootEnvironment.isBadExtension
  have halike : List.Forall₂ Subject.Alike [talkative 1] [talkative 2] :=
    .cons ⟨(talkative 2).loader, ⟨rfl, fun _ => .panicked 1 2 none⟩, rfl⟩ .nil
  have hsaid : Colourless rootEnvironment ⟨false, false, .all⟩ finishing [talkative 1] (.start settled []) :=
    List.forall_mem_singleton.mpr fun _ _ => colourless_talkative 1 rfl
  obtain ⟨coloured, hcoloured, -⟩ := runAll_spec rootEnvironment ⟨false, true, .all⟩ finishing (.start settled [])
    hextension [talkative 2]
  obtain ⟨plain, hplain, -⟩ := runAll_spec rootEnvironment ⟨false, false, .all⟩ finishing (.start settled [])
    hextension [talkative 1]
  obtain ⟨hends, -⟩ := @runAll_tinted rootEnvironment ⟨false, false, .all⟩ finishing _ _ halike (.start settled [])
    colourless_settled hsaid
  rw [hcoloured, hplain] at hends
  exact ⟨halike, colourless_settled, hsaid, coloured, plain, hcoloured, hplain, hends⟩

/-! ## Names of files -/

/-- A tree with a source whose name has a sequence in it, and a directory where its golden file would be. -/
def sequenceNamed : Store :=
  ⟨[(["\x1b[0m.ts"], .file "".toUTF8), (["\x1b[0m.wat"], .directory)], []⟩

theorem colourless_sequenceNamed : sequenceNamed.Colourless := by
  refine Store.colourless_of_entries fun item hitem content hcontent => ⟨"", ?_, by decide⟩
  rcases List.mem_pair.mp hitem with rfl | rfl
  · exact (Entry.file.inj hcontent).symm
  · cases hcontent

/-- A subject whose tools never fail says nothing with colour. -/
theorem colourless_faultless (environment : Environment) (options : RunOptions) (registry : Registry) (world : World) :
    faultless.Colourless environment options registry world where
  snapshots turn _ source asked _ _ := by
    have htext : Ansi.Colourless "(module)" := by decide
    exact ⟨⟨fun _ hnone => (nomatch hnone), htext⟩, id⟩
  interop h := nomatch h
  smoke _ := by
    have htext : Ansi.Colourless "(module)" := by decide
    exact ⟨⟨fun _ hnone => (nomatch hnone), fun _ => ⟨⟨fun _ hnone => (nomatch hnone), htext⟩, id⟩⟩, id⟩
  roundTrip _ := ⟨⟨RoundTrip.colourless_builtIn, id⟩, id⟩

theorem casesIn_sequenceNamed : Snapshot.casesIn rootEnvironment .all sequenceNamed =
    [⟨"\x1b[0m", ⟨"/\x1b[0m.ts"⟩, ⟨"/\x1b[0m.wat"⟩⟩] := by
  rw [Snapshot.casesIn, rootEnvironment, Store.sources_of_directory (Snapshot.locate_root _)]
  simp only [sequenceNamed, List.filterMap_cons, Snapshot.sourceAt?_root, List.filterMap_nil]
  decide

theorem readText_source : sequenceNamed.readText ⟨"/\x1b[0m.ts"⟩ = .ok "" :=
  Golden.readText_root "\x1b[0m.ts" (by decide) (by decide)
    ⟨Path.fault?_eq_none.mpr ⟨by simp, by decide, by decide⟩, by decide⟩ rfl

theorem readText_golden : sequenceNamed.readText ⟨"/\x1b[0m.wat"⟩ = .error .isDirectory := by
  have hplaced : Golden.Placed sequenceNamed ⟨"/\x1b[0m.wat"⟩ [] "\x1b[0m.wat" :=
    Golden.placed_root (by decide) (by decide) fun _ hlink => nomatch hlink
  have hfits : Golden.Fits ⟨"/\x1b[0m.wat"⟩ "\x1b[0m.wat" :=
    ⟨Path.fault?_eq_none.mpr ⟨by simp, by decide, by decide⟩, by decide⟩
  rw [Store.readText, Store.read, hplaced.locate hfits]
  rfl

/-- The detail of the failure that comes of the golden file. -/
def sequenceDetail : String :=
  "While reading golden file /\x1b[0m.wat: Is a directory (os error 21)"

/-- The fixture with the sequence in its name fails in the same way, in colour or not. -/
theorem runCase_sequenceNamed {found : World} (hfound : found.files = sequenceNamed) (color : Bool) :
    (Snapshot.runCase faultless ⟨"\x1b[0m", ⟨"/\x1b[0m.ts"⟩, ⟨"/\x1b[0m.wat"⟩⟩ ⟨false, color, .all⟩ found).1 =
      ⟨"\x1b[0m", .failureWith "could not check the golden file" sequenceDetail, []⟩ := by
  have hoptions : Directive.options "".toList = .ok .base := rfl
  rw [Snapshot.runCase_directed faultless _ _ found (hfound ▸ readText_source) hoptions]
  have hleft := Invocation.tidy_run (tidy_faultless.file ⟨"/\x1b[0m.ts"⟩ .base)
    (found.noted [.fixtureStarted faultless.name "\x1b[0m"])
  rw [World.files_noted, hfound] at hleft
  have hgolden := Golden.compare_apply (Canonical.ofText "(module)") ⟨"/\x1b[0m.wat"⟩ false
    (Invocation.run faultless.compiler (.file ⟨"/\x1b[0m.ts"⟩) .base
      (found.noted [.fixtureStarted faultless.name "\x1b[0m"])).2
  rw [hleft, Golden.judge, readText_golden] at hgolden
  exact congrArg (fun result => Finding.mk _ (Snapshot.verdictOutcome _ color result) []) hgolden.1

/-- The first report says where the golden file is, in colour or not. -/
theorem reports_sequenceNamed (color : Bool) :
    ∃ summary, (runAll rootEnvironment ⟨false, color, .all⟩ .empty [faultless] (.start sequenceNamed [])).1 =
        .ok [summary] ∧
      summary.reports.head? = some ⟨"dev/compiler/\x1b[0m",
        .failureWith "could not check the golden file" sequenceDetail, []⟩ := by
  have hextension := Snapshot.setsApart_rootEnvironment.isBadExtension
  have hfiles : (started faultless (.start sequenceNamed [])).files = sequenceNamed := rfl
  have hsuite := Snapshot.runSuite_apply hextension faultless ⟨false, color, .all⟩
    (started faultless (.start sequenceNamed []))
  rw [hfiles, casesIn_sequenceNamed] at hsuite
  have hsnapshots : (Snapshot.runSuite faultless rootEnvironment ⟨false, color, .all⟩
      (started faultless (.start sequenceNamed []))).1 =
      .ok [⟨"\x1b[0m", .failureWith "could not check the golden file" sequenceDetail, []⟩] := by
    rw [hsuite]
    dsimp only
    rw [Run.mapM_eq, Run.along, List.map_cons, runCase_sequenceNamed (by rw [World.files_noted, hfiles])]
    rfl
  obtain ⟨summaries, hrun, -⟩ := runAll_spec rootEnvironment ⟨false, color, .all⟩ .empty (.start sequenceNamed [])
    hextension [faultless]
  obtain ⟨summary, others, hsummary, hothers, rfl⟩ := runAll_cons_eq_ok _ _ _ _ _ hrun
  cases hothers
  refine ⟨summary, hrun, ?_⟩
  rw [runSubject_apply _ _ _ _ _ hsnapshots] at hsummary
  cases hsummary
  rfl

/-- Not every coloured detail without its sequences is the plain one: names of files can have sequences in them. -/
theorem detail_with_sequence :
    sequenceNamed.Colourless ∧
      Colourless rootEnvironment ⟨false, false, .all⟩ .empty [faultless] (.start sequenceNamed []) ∧
      ∃ coloured plain name reason shown text,
        (runAll rootEnvironment ⟨false, true, .all⟩ .empty [faultless] (.start sequenceNamed [])).1 = .ok [coloured] ∧
        (runAll rootEnvironment ⟨false, false, .all⟩ .empty [faultless] (.start sequenceNamed [])).1 = .ok [plain] ∧
        coloured.reports.head? = some ⟨name, .failureWith reason shown, []⟩ ∧
        plain.reports.head? = some ⟨name, .failureWith reason text, []⟩ ∧ Ansi.remove shown ≠ text := by
  obtain ⟨coloured, hcoloured, hshown⟩ := reports_sequenceNamed true
  obtain ⟨plain, hplain, htext⟩ := reports_sequenceNamed false
  refine ⟨colourless_sequenceNamed, List.forall_mem_singleton.mpr fun _ _ => colourless_faultless _ _ _ _, coloured,
    plain, _, _, _, _, hcoloured, hplain, hshown, htext, ?_⟩
  decide +kernel

end Session

end GoldenBench
