import GoldenBench.Configuration.Reader
import GoldenBench.Proofs.Files.Names
import GoldenBench.Proofs.Inventory

/-!
# Whose report it is

A report goes by its subject, its suite and its fixture, with slashes between them. The names of suites have no slash,
so one subject has no two reports of one name. A subject may have slashes in its name; then a report on it can go by
the name of one on another subject, whose fixture lies in directories that are named like the rest of it.

* `Configuration.nodup_of_parse`: the subjects of a configuration have different names.
* `nested_of_join_eq`: which subjects can have reports of one name.
* `Session.runAll_attributable`: the names of a whole run.
-/

namespace GoldenBench

variable {environment : Environment} {filter : Filter} {files : Store}

/-! ## The subjects of a configuration -/

namespace Configuration

theorem firstRepeated?_eq_none {seen names : List String} (h : firstRepeated? seen names = none) :
    names.Nodup ∧ ∀ name ∈ names, name ∉ seen := by
  induction names generalizing seen with
  | nil => exact ⟨.nil, fun name hname => nomatch hname⟩
  | cons first rest ih =>
    rw [firstRepeated?] at h
    split at h
    · cases h
    · rename_i hfirst
      obtain ⟨hnodup, hunseen⟩ := ih h
      refine ⟨List.nodup_cons.mpr ⟨fun hmem => hunseen first hmem List.mem_cons_self, hnodup⟩, ?_⟩
      rintro name (_ | ⟨_, hname⟩)
      · simpa using hfirst
      · exact fun hmem => hunseen name hname (List.mem_cons_of_mem _ hmem)

/-- A configuration that is accepted has subjects, and they have different names. -/
theorem nodup_of_parse {text : String} {origin : Path} {configuration : Configuration}
    (h : parse text origin = .ok configuration) :
    configuration.subjects ≠ [] ∧ (configuration.subjects.map (·.name)).Nodup := by
  rw [parse] at h
  split at h
  · rw [check] at h
    split at h
    · cases h
    · rename_i hsome
      split at h
      · cases h
      · rename_i hrepeated
        cases h
        exact ⟨fun hnone => hsome (by rw [hnone]; rfl), (firstRepeated?_eq_none hrepeated).1⟩
  · cases h

end Configuration

/-! ## Joined names -/

theorem eq_of_append_slash {a b f g : List Char} (ha : '/' ∉ a) (hb : '/' ∉ b) (h : a ++ '/' :: f = b ++ '/' :: g) :
    a = b ∧ f = g := by
  induction a generalizing b with
  | nil =>
    cases b with
    | nil => exact ⟨rfl, (List.cons_eq_cons.mp h).2⟩
    | cons c b => exact absurd (List.cons_eq_cons.mp h).1 (List.ne_of_not_mem_cons hb)
  | cons c a ih =>
    cases b with
    | nil => exact absurd (List.cons_eq_cons.mp h).1.symm (List.ne_of_not_mem_cons ha)
    | cons e b =>
      obtain ⟨rfl, htail⟩ := List.cons_eq_cons.mp h
      obtain ⟨rfl, hrest⟩ := ih (List.not_mem_of_not_mem_cons ha) (List.not_mem_of_not_mem_cons hb) htail
      exact ⟨rfl, hrest⟩

/-- The name of a report. -/
def joined (subject : String) (title : String × String) : String :=
  subject ++ "/" ++ title.1 ++ "/" ++ title.2

theorem toList_joined (subject : String) (title : String × String) :
    (joined subject title).toList = subject.toList ++ '/' :: (title.1.toList ++ '/' :: title.2.toList) := by
  simp [joined]

/-- What a report on a subject is about: a suite, whose name has no slash, and a fixture, whose name has none unless it
is a file. -/
structure IsTitle (title : String × String) : Prop where
  /-- The suite has no slash in its name. -/
  suite : '/' ∉ title.1.toList
  /-- Only fixtures that are files have. -/
  fixture : '/' ∈ title.2.toList → title.1 ∈ [Snapshot.suite, Interop.suite]

theorem joined_injective {subject : String} {title other : String × String} (h : IsTitle title) (h' : IsTitle other)
    (heq : joined subject title = joined subject other) : title = other := by
  have hchars := congrArg String.toList heq
  rw [toList_joined, toList_joined] at hchars
  have hrest := (List.cons_inj_right '/').mp (List.append_cancel_left hchars)
  obtain ⟨hsuite, hfixture⟩ := eq_of_append_slash h.suite h'.suite hrest
  exact Prod.ext (String.toList_inj.mp hsuite) (String.toList_inj.mp hfixture)

/-- A subject goes by the name of another one, followed by a suite whose fixtures are files and perhaps by more. -/
def Nested (inner outer : String) : Prop :=
  ∃ suite ∈ [Snapshot.suite, Interop.suite],
    inner = outer ++ "/" ++ suite ∨ ∃ rest, inner = outer ++ "/" ++ suite ++ "/" ++ rest

/-- Text in front of a slash that goes on behind a suite and another slash covers the suite, and what is behind
has a slash. -/
theorem exists_covered {w a f rest : List Char} (ha : '/' ∉ a) (hslash : '/' ∈ rest)
    (h : a ++ '/' :: f = w ++ '/' :: rest) : '/' ∈ f ∧ (w = a ∨ ∃ more, w = a ++ '/' :: more) := by
  by_cases hw : '/' ∈ w
  · obtain ⟨u, v, rfl, hu⟩ := List.eq_append_cons_of_mem hw
    rw [List.append_assoc, List.cons_append] at h
    obtain ⟨rfl, rfl⟩ := eq_of_append_slash ha hu h
    exact ⟨by simp, .inr ⟨v, rfl⟩⟩
  · obtain ⟨rfl, rfl⟩ := eq_of_append_slash ha hw h
    exact ⟨hslash, .inl rfl⟩

/-- A report on a subject goes by the name of one on a subject with a shorter name only if that subject is nested. -/
theorem nested_of_shorter {inner outer : String} {title other : String × String} {w : List Char}
    (h : IsTitle title) (heq : joined outer title = joined inner other) (hne : outer ≠ inner)
    (hinner : inner.toList = outer.toList ++ w) : Nested inner outer := by
  have hchars := congrArg String.toList heq
  rw [toList_joined, toList_joined, hinner, List.append_assoc] at hchars
  have hrest := List.append_cancel_left hchars
  cases w with
  | nil =>
    rw [List.append_nil] at hinner
    exact absurd (String.toList_inj.mp hinner).symm hne
  | cons c w =>
    obtain ⟨hc, htail⟩ := List.cons_eq_cons.mp hrest
    obtain ⟨hslash, hcovered⟩ := exists_covered h.suite (by simp) htail
    refine ⟨title.1, h.fixture hslash, hcovered.imp (fun hw => ?_) fun ⟨more, hw⟩ => ⟨String.ofList more, ?_⟩⟩
    · apply String.toList_inj.mp
      simp [hinner, ← hc, hw]
    · apply String.toList_inj.mp
      simp [hinner, ← hc, hw]

/-- Reports on different subjects go by one name only if one of the subjects is nested in the other. -/
theorem nested_of_joined_eq {subject subject' : String} {title other : String × String} (h : IsTitle title)
    (h' : IsTitle other) (hne : subject ≠ subject') (heq : joined subject title = joined subject' other) :
    Nested subject' subject ∨ Nested subject subject' := by
  have hchars := congrArg String.toList heq
  rw [toList_joined, toList_joined] at hchars
  obtain ⟨w, hw, -⟩ | ⟨w, hw, -⟩ := List.append_eq_append_iff.mp hchars
  · exact .inl (nested_of_shorter h heq hne hw)
  · exact .inr (nested_of_shorter h' heq.symm hne.symm hw)

/-! ## What a subject is reported on -/

section

variable (capability : Capability) (filter : Filter) (snapshots : List SnapshotCase) (interop : List InteropCase)

/-- The suites, and what each of them reports on given the fixtures that are discovered. -/
def bySuite : List (String × List String) :=
  [(Snapshot.suite, snapshots.map (·.name)), (Interop.suite, Interop.reported capability interop),
    (Smoke.suite, filter.accepted Smoke.name), (RoundTrip.suite, filter.accepted RoundTrip.name)]

/-- What the reports on a subject are about. -/
def titles : List (String × String) :=
  (bySuite capability filter snapshots interop).flatMap fun (suite, fixtures) => fixtures.map (Prod.mk suite)

theorem inventory_eq_map (subject : Subject) : inventory subject filter snapshots interop =
    (titles subject.loader.capability filter snapshots interop).map (joined subject.name) := by
  simp only [titles, bySuite, List.flatMap_cons, List.flatMap_nil, List.append_nil, List.map_append, List.map_map,
    inventory, reportNames, ← List.append_assoc]
  rfl

variable {capability filter snapshots interop}

theorem Filter.eq_of_mem_accepted {name name' : String} (h : name' ∈ filter.accepted name) : name' = name := by
  rw [Filter.accepted] at h
  split at h
  · exact List.mem_singleton.mp h
  · cases h

theorem isTitle_of_mem {title : String × String} (h : title ∈ titles capability filter snapshots interop) :
    IsTitle title := by
  obtain ⟨⟨suite, fixtures⟩, hsuite, htitle⟩ := List.mem_flatMap.mp h
  obtain ⟨fixture, hfixture, rfl⟩ := List.mem_map.mp htitle
  simp only [bySuite, List.mem_cons, Prod.mk.injEq, List.not_mem_nil, or_false] at hsuite
  obtain ⟨rfl, rfl⟩ | ⟨rfl, rfl⟩ | ⟨rfl, rfl⟩ | ⟨rfl, rfl⟩ := hsuite
  · exact ⟨(by decide : '/' ∉ Snapshot.suite.toList), fun _ => List.mem_cons_self⟩
  · exact ⟨(by decide : '/' ∉ Interop.suite.toList), fun _ => List.mem_cons_of_mem _ List.mem_cons_self⟩
  · obtain rfl := Filter.eq_of_mem_accepted hfixture
    exact ⟨by decide, fun hslash => absurd hslash (by decide)⟩
  · obtain rfl := Filter.eq_of_mem_accepted hfixture
    exact ⟨by decide, fun hslash => absurd hslash (by decide)⟩

theorem Interop.nodup_reported (h : (interop.map (·.name)).Nodup) : (Interop.reported capability interop).Nodup := by
  cases capability with
  | supported => exact h
  | unsupported reason =>
    rw [Interop.reported]
    split
    · exact .nil
    · exact List.pairwise_singleton _ _

/-- No two reports on a subject are about the same. -/
theorem nodup_titles (hsnapshots : (snapshots.map (·.name)).Nodup) (hinterop : (interop.map (·.name)).Nodup) :
    (titles capability filter snapshots interop).Nodup := by
  have haccepted : ∀ name : String, (filter.accepted name).Nodup := fun name => by
    rw [Filter.accepted]
    split
    · exact List.pairwise_singleton _ _
    · exact .nil
  have hsuites : ((bySuite capability filter snapshots interop).map (·.1)).Nodup := by
    show [Snapshot.suite, Interop.suite, Smoke.suite, RoundTrip.suite].Nodup
    decide
  refine List.nodup_flatMap.mpr ⟨?_, (List.pairwise_map.mp hsuites).imp ?_⟩
  · rintro ⟨suite, fixtures⟩ hsuite
    refine List.Nodup.map (fun _ _ heq => (Prod.mk.inj heq).2) ?_
    simp only [bySuite, List.mem_cons, Prod.mk.injEq, List.not_mem_nil, or_false] at hsuite
    obtain ⟨-, rfl⟩ | ⟨-, rfl⟩ | ⟨-, rfl⟩ | ⟨-, rfl⟩ := hsuite
    · exact hsnapshots
    · exact Interop.nodup_reported hinterop
    · exact haccepted _
    · exact haccepted _
  · rintro ⟨suite, fixtures⟩ ⟨suite', fixtures'⟩ hne title htitle htitle'
    obtain ⟨fixture, -, rfl⟩ := List.mem_map.mp htitle
    obtain ⟨fixture', -, heq⟩ := List.mem_map.mp htitle'
    exact hne (Prod.mk.inj heq).1.symm

end

/-! ## Fixtures -/

theorem Snapshot.nodup_names (h : files.WellNamed) (environment : Environment) (filter : Filter) :
    ((casesIn environment filter files).map (·.name)).Nodup := by
  refine List.Nodup.sublist (List.filter_sublist.map _) ?_
  rw [List.map_map]
  exact h.nodup_names environment.fixturesDirectory environment.sourceExtension

theorem Interop.eq_append_of_stripEnding? {ending text stripped : String}
    (h : stripEnding? ending text = some stripped) : text = stripped ++ ending := by
  rw [stripEnding?] at h
  split at h
  · rename_i hsuffix
    obtain ⟨start, hstart⟩ := List.isSuffixOf_iff_suffix.mp hsuffix
    cases h
    apply String.toList_inj.mp
    rw [← String.length_toList, ← String.length_toList, ← hstart, List.length_append, Nat.add_sub_cancel,
      List.take_left, String.toList_append, String.toList_ofList]
  · cases h

theorem Interop.name_of_caseOf? {file : SourceFile} {fixture : InteropCase}
    (h : caseOf? environment file = some fixture) : file.name = fixture.name ++ "." ++ environment.interopSuffix := by
  obtain ⟨name, hname, rfl⟩ := Option.map_eq_some_iff.mp h
  rw [eq_append_of_stripEnding? hname, String.append_assoc]

theorem Interop.nodup_names (h : files.WellNamed) (environment : Environment) (filter : Filter) :
    ((casesIn environment filter files).map (·.name)).Nodup := by
  refine List.Nodup.sublist (List.filter_sublist.map _) ?_
  have hnames := h.nodup_names environment.interopDirectory environment.sourceExtension
  rw [List.Nodup, List.pairwise_map] at hnames ⊢
  refine List.pairwise_filterMap.mpr (hnames.imp fun hne fixture hfixture twin htwin heq => hne ?_)
  rw [name_of_caseOf? hfixture, name_of_caseOf? htwin, heq]

/-! ## The names of a run -/

/-- The reports of a run by their names. -/
structure Attributable (summaries : List Summary) : Prop where
  /-- No two reports on one subject have one name. -/
  within : ∀ summary ∈ summaries, (summary.reports.map (·.name)).Nodup
  /-- If two reports on different subjects have one name, one of the subjects is nested in the other. -/
  across : summaries.Pairwise fun first second => ∀ report ∈ first.reports, ∀ other ∈ second.reports,
    report.name = other.name → Nested second.subject first.subject ∨ Nested first.subject second.subject

theorem Nested.slash {inner outer : String} (h : Nested inner outer) : '/' ∈ inner.toList := by
  obtain ⟨suite, -, rfl | ⟨rest, rfl⟩⟩ := h
  · simp
  · simp

/-- If no subject has a slash in its name, no two reports of a run have one name. -/
theorem Attributable.nodup {summaries : List Summary} (h : Attributable summaries)
    (hslash : ∀ summary ∈ summaries, '/' ∉ summary.subject.toList) :
    ((summaries.flatMap (·.reports)).map (·.name)).Nodup := by
  rw [List.map_flatMap]
  refine List.nodup_flatMap.mpr
    ⟨h.within, h.across.imp_of_mem fun {first second} hfirst hsecond hacross name hname hname' => ?_⟩
  obtain ⟨report, hreport, rfl⟩ := List.mem_map.mp hname
  obtain ⟨other, hother, heq⟩ := List.mem_map.mp hname'
  rcases hacross report hreport other hother heq.symm with hnested | hnested
  · exact hslash second hsecond hnested.slash
  · exact hslash first hfirst hnested.slash

/-- The reports on a subject go by different titles. -/
def Titled (summary : Summary) : Prop :=
  ∃ titles : List (String × String), titles.Nodup ∧ (∀ title ∈ titles, IsTitle title) ∧
    (summary.reports.map (·.name)).Perm (titles.map (joined summary.subject))

theorem Titled.nodup {summary : Summary} (h : Titled summary) : (summary.reports.map (·.name)).Nodup := by
  obtain ⟨titles, hnodup, htitles, hperm⟩ := h
  refine hperm.nodup_iff.mpr (List.Nodup.map_on (fun title htitle other hother heq => ?_) hnodup)
  exact joined_injective (htitles title htitle) (htitles other hother) heq

theorem Titled.nested {first second : Summary} (h : Titled first) (h' : Titled second)
    (hne : first.subject ≠ second.subject) {report other : Report} (hreport : report ∈ first.reports)
    (hother : other ∈ second.reports) (heq : report.name = other.name) :
    Nested second.subject first.subject ∨ Nested first.subject second.subject := by
  obtain ⟨titles, -, htitles, hperm⟩ := h
  obtain ⟨titles', -, htitles', hperm'⟩ := h'
  obtain ⟨title, htitle, hname⟩ := List.mem_map.mp (hperm.mem_iff.mp (List.mem_map_of_mem hreport))
  obtain ⟨title', htitle', hname'⟩ := List.mem_map.mp (hperm'.mem_iff.mp (List.mem_map_of_mem hother))
  exact nested_of_joined_eq (htitles title htitle) (htitles' title' htitle') hne (by rw [hname, hname', heq])

theorem Inventoried.titled {subject : Subject} {snapshots : List SnapshotCase} {interop : List InteropCase}
    {summary : Summary} (h : Inventoried filter subject snapshots interop summary)
    (hsnapshots : (snapshots.map (·.name)).Nodup) (hinterop : (interop.map (·.name)).Nodup) : Titled summary := by
  refine ⟨titles subject.loader.capability filter snapshots interop, nodup_titles hsnapshots hinterop,
    fun title => isTitle_of_mem, ?_⟩
  rw [h.named, ← inventory_eq_map]
  exact h.reports

/-- Titled reports on subjects with different names are attributable. -/
theorem attributable_of_titled {summaries : List Summary} (htitled : ∀ summary ∈ summaries, Titled summary)
    (hsubjects : (summaries.map (·.subject)).Nodup) : Attributable summaries where
  within summary hsummary := (htitled summary hsummary).nodup
  across := (List.pairwise_map.mp hsubjects).imp_of_mem fun hfirst hsecond hne _ hreport _ hother heq =>
    (htitled _ hfirst).nested (htitled _ hsecond) hne hreport hother heq

namespace Session

variable {options : RunOptions} {registry : Registry} {subjects : List Subject} {world : World}

/-- There is a summary for each subject, in order, and it goes by the subject. -/
theorem subjects_runAll {summaries : List Summary}
    (hrun : (runAll environment options registry subjects world).1 = .ok summaries) :
    summaries.map (·.subject) = subjects.map (·.name) := by
  rw [← Run.map_fst_along world (fun subject => runSubject subject environment options registry) subjects, List.map_map,
    ← List.forall₂_eq_eq_eq, List.forall₂_map_left_iff, List.forall₂_map_right_iff]
  exact (runAll_inventories hrun).flip.imp fun summary turn h => h.named

/-- If the names of what each subject discovers are different, reports are attributable. -/
theorem attributable_of_nodup {summaries : List Summary} (hsubjects : (subjects.map (·.name)).Nodup)
    (hrun : (runAll environment options registry subjects world).1 = .ok summaries)
    (hnames : ∀ turn ∈ turns environment options registry world subjects,
      ((Snapshot.casesIn environment options.filter turn.2.files).map (·.name)).Nodup ∧
        ((Interop.casesIn environment options.filter
          (afterSnapshots turn.1 environment options turn.2).files).map (·.name)).Nodup) :
    Attributable summaries := by
  have hall := (List.forall₂_and_left _ _).mpr ⟨hnames, runAll_inventories hrun⟩
  have htitled : List.Forall₂ (fun summary _ => Titled summary ∧ True) summaries
      (turns environment options registry world subjects) :=
    (hall.imp fun turn summary h => ⟨h.2.titled h.1.1 h.1.2, trivial⟩).flip
  exact attributable_of_titled ((List.forall₂_and_left _ _).mp htitled).1 (subjects_runAll hrun ▸ hsubjects)

/-- The reports of a run on subjects of a configuration, if no file name has a stem of dots alone whenever a suite
lists its fixtures; with tidy tools, if none has when the run starts. No two reports on one subject have one name. If
two reports on different subjects have, one of these goes by the name of the other, followed by a suite whose fixtures
are files and perhaps by more; so if no subject has a slash in its name, no two reports of the run have one name. -/
theorem runAll_attributable (text : String) (origin : Path) {configuration : Configuration}
    (hparse : Configuration.parse text origin = .ok configuration)
    (hsubjects : (subjects.map (·.name)).Sublist (configuration.subjects.map (·.name))) (options : RunOptions)
    (registry : Registry) (world : World)
    (hfiles : (∀ turn ∈ turns configuration.environment options registry world subjects, turn.2.files.WellNamed ∧
        (afterSnapshots turn.1 configuration.environment options turn.2).files.WellNamed) ∨
      world.files.WellNamed ∧ configuration.environment.SetsApart ∧ world.files.IsPlain ∧
        ∀ subject ∈ subjects, subject.Tidy)
    {summaries : List Summary}
    (hrun : (runAll configuration.environment options registry subjects world).1 = .ok summaries) :
    (∀ summary ∈ summaries, (summary.reports.map (·.name)).Nodup) ∧
    (summaries.Pairwise fun first second => ∀ report ∈ first.reports, ∀ other ∈ second.reports,
      report.name = other.name → Nested second.subject first.subject ∨ Nested first.subject second.subject) ∧
    ((∀ subject ∈ subjects, '/' ∉ subject.name.toList) → ((summaries.flatMap (·.reports)).map (·.name)).Nodup) := by
  obtain ⟨-, hdifferent⟩ := Configuration.nodup_of_parse hparse
  have hattributable : Attributable summaries := by
    refine attributable_of_nodup (hdifferent.sublist hsubjects) hrun fun turn hturn => ?_
    rcases hfiles with hfiles | ⟨hnamed, henv, hplain, htidy⟩
    · obtain ⟨hbefore, hafter⟩ := hfiles turn hturn
      exact ⟨Snapshot.nodup_names hbefore _ _, Interop.nodup_names hafter _ _⟩
    · obtain ⟨hsnapshots, hinterop⟩ := casesIn_turns henv hplain htidy registry (.refl hplain) turn hturn
      rw [hsnapshots, hinterop]
      exact ⟨Snapshot.nodup_names hnamed _ _, Interop.nodup_names hnamed _ _⟩
  refine ⟨hattributable.within, hattributable.across, fun hslash => hattributable.nodup fun summary hsummary => ?_⟩
  have hmem : summary.subject ∈ subjects.map (·.name) :=
    subjects_runAll hrun ▸ List.mem_map_of_mem (f := Summary.subject) hsummary
  obtain ⟨subject, hsubject, hname⟩ := List.mem_map.mp hmem
  exact hname ▸ hslash subject hsubject

/-! ## A subject that is nested in another one -/

/-- The text of a configuration with a nested subject. -/
def nestedText : String :=
  "fixtures_dir: /\nsubjects:\n- name: x\n  compiler: &c\n    program: c\n  converter: &v\n    to_binary: *c\n" ++
    "    to_text: *c\n- name: x/compiler/f\n  compiler: *c\n  converter: *v\n"

/-- The configuration with that text. -/
def nestedConfiguration : Configuration :=
  let tool : Tool := ⟨"c", [], none⟩
  let spec (name : String) : SubjectSpec := ⟨name, tool, ⟨tool, [], []⟩, ⟨tool, [], []⟩⟩
  ⟨⟨"/"⟩, ⟨"interop"⟩, "ts", "wat", "test", none, [spec "x", spec "x/compiler/f"], ⟨"/"⟩⟩

theorem parse_nestedText : Configuration.parse nestedText ⟨"/golden.yaml"⟩ = .ok nestedConfiguration := by
  -- Characters that are given as lists are not decoded from bytes, which would take longer than to parse them.
  have htext : nestedText = .ofList _ ++ .ofList _ := rfl
  rewrite [Configuration.parse, Yaml.Node.ofText?, Yaml.Token.ofText?, htext, String.toList_append,
    String.toList_ofList, String.toList_ofList]
  decide +kernel

/-- The subjects of that configuration, with tools that never fail. -/
def nestedSubjects : List Subject :=
  [{ faultless with name := "x" }, { faultless with name := "x/compiler/f" }]

/-- A tree with a source that goes by the name of the smoke test in the directory of a suite. -/
def deepSource : Store :=
  ⟨[(["f"], .directory), (["f", "smoke"], .directory), (["f", "smoke", "string-compile.ts"], .file "".toUTF8)], []⟩

theorem environment_nested :
    nestedConfiguration.environment =
      ⟨⟨"/"⟩, ⟨"/interop"⟩, "ts", "wat", "test", Environment.defaultSmokeSource⟩ := by
  have hfixtures : nestedConfiguration.resolve nestedConfiguration.fixturesDirectory = ⟨"/"⟩ := by decide
  have hinterop : nestedConfiguration.resolve nestedConfiguration.interopDirectory = ⟨"/interop"⟩ := by
    decide
  rw [Configuration.environment, hfixtures, hinterop]
  rfl

theorem casesIn_deepSource : (Snapshot.casesIn nestedConfiguration.environment .all deepSource).map (·.name) =
    ["f/smoke/string-compile"] := by
  rw [Snapshot.casesIn, environment_nested, Store.sources_of_directory (Snapshot.locate_root _)]
  simp only [deepSource, List.filterMap_cons, Store.sourceAt?, List.filterMap_nil]
  decide

theorem isPlain_deepSource : deepSource.IsPlain where
  ordered := by simp [deepSource, Store.Ordered, Key.before]
  names := by
    simp only [deepSource, List.forall_mem_cons, List.not_mem_nil, false_implies, implies_true, and_true]
    decide
  parents := by simp [deepSource, Store.find?, Store.lookup]
  no_links := by simp [deepSource, Entry.isLink]

theorem wellNamed_deepSource : deepSource.WellNamed where
  ordered := isPlain_deepSource.ordered
  names := isPlain_deepSource.names
  stems := by
    simp only [deepSource, List.forall_mem_cons, List.not_mem_nil, false_implies, implies_true, and_true,
      reduceCtorEq, true_and]
    rintro content - name hname
    cases hname
    exact ⟨'s', by decide, by decide⟩

/-- Two reports of one run have one name: that on a fixture of a subject, and that on the smoke test of a subject that
is nested in it. -/
theorem not_nodup_of_nested :
    Configuration.parse nestedText ⟨"/golden.yaml"⟩ = .ok nestedConfiguration ∧
    nestedSubjects.map (·.name) = nestedConfiguration.subjects.map (·.name) ∧ deepSource.WellNamed ∧
    ∃ summaries, (runAll nestedConfiguration.environment ⟨false, false, .all⟩ .empty nestedSubjects
        (.start deepSource [])).1 = .ok summaries ∧
      ¬ ((summaries.flatMap (·.reports)).map (·.name)).Nodup := by
  have hextension : Path.isBadExtension nestedConfiguration.environment.goldenExtension = false := by decide +kernel
  obtain ⟨summaries, hrun, -⟩ := runAll_spec nestedConfiguration.environment ⟨false, false, .all⟩ .empty
    (.start deepSource []) hextension nestedSubjects
  refine ⟨parse_nestedText, rfl, wellNamed_deepSource, summaries, hrun, fun hnodup => ?_⟩
  obtain ⟨first, rest, ⟨-, hfirst⟩, hrest, rfl⟩ := List.forall₂_cons_left_iff.mp (runAll_inventories hrun)
  obtain ⟨second, others, ⟨-, hsecond⟩, -, rfl⟩ := List.forall₂_cons_left_iff.mp hrest
  have hname : "x/compiler/f/smoke/string-compile" ∈ first.reports.map (·.name) := by
    rw [hfirst.mem_iff, inventory, World.start, casesIn_deepSource]
    refine List.mem_append_left _ (List.mem_append_left _ (List.mem_append_left _ ?_))
    exact List.mem_map.mpr ⟨"f/smoke/string-compile", List.mem_singleton.mpr rfl, by decide +kernel⟩
  have hname' : "x/compiler/f/smoke/string-compile" ∈ second.reports.map (·.name) := by
    refine hsecond.mem_iff.mpr (List.mem_append_left _ (List.mem_append_right _ ?_))
    exact List.mem_map.mpr ⟨"string-compile", List.mem_singleton.mpr rfl, by decide +kernel⟩
  rw [List.flatMap_cons, List.flatMap_cons, List.map_append, List.map_append] at hnodup
  exact (List.nodup_append.mp hnodup).2.2 _ hname _ (List.mem_append_left _ hname') rfl

theorem tidy_nestedSubjects : ∀ subject ∈ nestedSubjects, subject.Tidy := by
  have hnamed : ∀ name : String, ({ faultless with name := name } : Subject).Tidy := fun _ =>
    ⟨tidy_faultless.file, tidy_faultless.smoke, tidy_faultless.optimizer, tidy_faultless.toBinary,
      tidy_faultless.toText⟩
  intro subject hsubject
  rcases List.mem_pair.mp hsubject with rfl | rfl
  · exact hnamed _
  · exact hnamed _

/-- Nested subjects can be reported on without two reports on one of them having one name. -/
theorem runAll_attributable_nested :
    Configuration.parse nestedText ⟨"/golden.yaml"⟩ = .ok nestedConfiguration ∧
    nestedSubjects.map (·.name) = nestedConfiguration.subjects.map (·.name) ∧
    deepSource.WellNamed ∧
    ∃ first second, (runAll nestedConfiguration.environment ⟨false, false, .all⟩ .empty nestedSubjects
        (.start deepSource [])).1 = .ok [first, second] ∧
      (first.reports.map (·.name)).Nodup ∧ (second.reports.map (·.name)).Nodup := by
  have hextension : Path.isBadExtension nestedConfiguration.environment.goldenExtension = false := by decide +kernel
  obtain ⟨summaries, hrun, -⟩ := runAll_spec nestedConfiguration.environment ⟨false, false, .all⟩ .empty
    (.start deepSource []) hextension nestedSubjects
  obtain ⟨hwithin, -⟩ := runAll_attributable nestedText ⟨"/golden.yaml"⟩ parse_nestedText (List.Sublist.refl _)
    ⟨false, false, .all⟩ .empty (.start deepSource [])
    (.inr ⟨wellNamed_deepSource, ⟨by decide, by decide, by decide, by decide⟩, isPlain_deepSource, tidy_nestedSubjects⟩)
    hrun
  obtain ⟨first, rest, -, hrest, rfl⟩ := List.forall₂_cons_left_iff.mp (runAll_inventories hrun)
  obtain ⟨second, others, -, hothers, rfl⟩ := List.forall₂_cons_left_iff.mp hrest
  obtain rfl := List.forall₂_nil_left_iff.mp hothers
  exact ⟨parse_nestedText, rfl, wellNamed_deepSource, first, second, hrun, hwithin first List.mem_cons_self,
    hwithin second (List.mem_cons_of_mem _ List.mem_cons_self)⟩

end Session

end GoldenBench
