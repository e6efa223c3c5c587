import GoldenBench.Proofs.Attribution

/-!
# The subjects of a configuration

A configuration is accepted if it has subjects and no name occurs twice among them; otherwise the first subject whose
name occurred before is named. Since the subjects of an accepted configuration have different names, choosing some of
them by name gives each of them once, in the order of the file, however the names are put.

* `Configuration.check_eq_duplicate_iff`: which subject is named.
* `Configuration.select_eq_ok_iff` and `Configuration.select_eq_error_iff`: what is chosen, and what cannot be.
* `Configuration.subjects_spec`: the whole, from the text of the file.
-/

namespace GoldenBench.Configuration

variable {configuration : Configuration} {seen names only other : List String} {name : String} {fault : Fault}
  {chosen : List SubjectSpec}

/-! ## Names that occurred before -/

/-- The first name that occurred before stands behind different names, and it is one of them or of those seen. -/
theorem firstRepeated?_eq_some (h : firstRepeated? seen names = some name) :
    ∃ before after, names = before ++ name :: after ∧ before.Nodup ∧ (∀ first ∈ before, first ∉ seen) ∧
      (name ∈ before ∨ name ∈ seen) := by
  induction names generalizing seen with
  | nil => cases h
  | cons first rest ih =>
    rw [firstRepeated?] at h
    split at h
    · rename_i hseen
      cases h
      exact ⟨[], rest, rfl, .nil, by simp, .inr (by simpa using hseen)⟩
    · rename_i hfresh
      obtain ⟨before, after, rfl, hnodup, hunseen, hname⟩ := ih h
      have hfirst : first ∉ before := fun hmem => hunseen first hmem List.mem_cons_self
      refine ⟨first :: before, after, rfl, List.nodup_cons.mpr ⟨hfirst, hnodup⟩, ?_, ?_⟩
      · rintro earlier (_ | ⟨_, hearlier⟩)
        · simpa using hfresh
        · exact fun hmem => hunseen earlier hearlier (List.mem_cons_of_mem _ hmem)
      · rcases hname with hname | hname
        · exact .inl (List.mem_cons_of_mem _ hname)
        · rcases List.mem_cons.mp hname with rfl | hname
          · exact .inl List.mem_cons_self
          · exact .inr hname

theorem firstRepeated?_append {before after : List String} (hnodup : before.Nodup)
    (hunseen : ∀ first ∈ before, first ∉ seen) (hname : name ∈ before ∨ name ∈ seen) :
    firstRepeated? seen (before ++ name :: after) = some name := by
  induction before generalizing seen with
  | nil =>
    have hseen : name ∈ seen := hname.resolve_left List.not_mem_nil
    rw [List.nil_append, firstRepeated?, if_pos (by simpa using hseen)]
  | cons first rest ih =>
    obtain ⟨hfirst, hrest⟩ := List.nodup_cons.mp hnodup
    have hfresh : first ∉ seen := hunseen first List.mem_cons_self
    rw [List.cons_append, firstRepeated?, if_neg (by simpa using hfresh)]
    refine ih hrest (fun later hlater hmem => ?_) ?_
    · rcases List.mem_cons.mp hmem with rfl | hmem
      · exact hfirst hlater
      · exact hunseen later (List.mem_cons_of_mem _ hlater) hmem
    · rcases hname with hname | hname
      · rcases List.mem_cons.mp hname with rfl | hname
        · exact .inr List.mem_cons_self
        · exact .inl hname
      · exact .inr (List.mem_cons_of_mem _ hname)

/-- The first name that occurred before is the one up to which no name did. -/
theorem firstRepeated?_eq_some_iff :
    firstRepeated? [] names = some name ↔
      ∃ before after, names = before ++ name :: after ∧ before.Nodup ∧ name ∈ before := by
  constructor
  · intro h
    obtain ⟨before, after, heq, hnodup, -, hname⟩ := firstRepeated?_eq_some h
    exact ⟨before, after, heq, hnodup, hname.resolve_right List.not_mem_nil⟩
  · rintro ⟨before, after, rfl, hnodup, hname⟩
    exact firstRepeated?_append hnodup (fun _ _ => List.not_mem_nil) (.inl hname)

/-! ## What is accepted -/

/-- A subject goes by a name that occurred before, and it is the first that does. -/
def IsDuplicate (subjects : List SubjectSpec) (subject : SubjectSpec) : Prop :=
  ∃ before after, subjects = before ++ subject :: after ∧ (before.map (·.name)).Nodup ∧
    ∃ earlier ∈ before, earlier.name = subject.name

theorem exists_isDuplicate_iff {subjects : List SubjectSpec} :
    (∃ subject, IsDuplicate subjects subject ∧ subject.name = name) ↔
      firstRepeated? [] (subjects.map (·.name)) = some name := by
  rw [firstRepeated?_eq_some_iff]
  constructor
  · rintro ⟨subject, ⟨before, after, rfl, hnodup, earlier, hearlier, heq⟩, rfl⟩
    exact ⟨before.map (·.name), after.map (·.name), by simp, hnodup, List.mem_map.mpr ⟨earlier, hearlier, heq⟩⟩
  · rintro ⟨before, after, heq, hnodup, hname⟩
    obtain ⟨front, back, rfl, rfl, hback⟩ := List.map_eq_append_iff.mp heq
    obtain ⟨subject, rest, rfl, rfl, rfl⟩ := List.map_eq_cons_iff.mp hback
    obtain ⟨earlier, hearlier, hsame⟩ := List.mem_map.mp hname
    exact ⟨subject, ⟨front, rest, rfl, hnodup, earlier, hearlier, hsame⟩, rfl⟩

theorem nodup_iff_firstRepeated? : names.Nodup ↔ firstRepeated? [] names = none := by
  constructor
  · intro hnodup
    refine Option.eq_none_iff_forall_ne_some.mpr fun name h => ?_
    obtain ⟨before, after, rfl, -, hname⟩ := firstRepeated?_eq_some_iff.mp h
    exact (List.nodup_append.mp hnodup).2.2 _ hname _ List.mem_cons_self rfl
  · exact fun h => (firstRepeated?_eq_none h).1

theorem check_eq_noSubjects_iff : configuration.check = .error .noSubjects ↔ configuration.subjects = [] := by
  rw [check]
  split
  · rename_i hempty
    simpa using hempty
  · rename_i hsome
    have hne : configuration.subjects ≠ [] := by simpa using hsome
    split <;> simp [hne]

theorem check_eq_duplicate_iff : configuration.check = .error (.duplicateSubject name) ↔
    ∃ subject, IsDuplicate configuration.subjects subject ∧ subject.name = name := by
  rw [exists_isDuplicate_iff, check]
  split
  · rename_i hempty
    rw [List.isEmpty_iff.mp hempty]
    simp [firstRepeated?]
  · split
    · rename_i hrepeated
      simp [hrepeated]
    · rename_i hnone
      simp [hnone]

theorem check_eq_ok_iff {accepted : Configuration} : configuration.check = .ok accepted ↔
    accepted = configuration ∧ configuration.subjects ≠ [] ∧ (configuration.subjects.map (·.name)).Nodup := by
  rw [nodup_iff_firstRepeated?, check]
  split
  · rename_i hempty
    simp [List.isEmpty_iff.mp hempty]
  · rename_i hsome
    have hne : configuration.subjects ≠ [] := by simpa using hsome
    split
    · rename_i hrepeated
      simp [hrepeated]
    · rename_i hnone
      simp [hnone, hne, eq_comm]

/-! ## What is chosen -/

theorem unknown_iff : (!configuration.subjects.any (·.name == name)) = true ↔
    name ∉ configuration.subjects.map (·.name) := by
  simp

/-- A choice fails at the first name that no subject has. -/
theorem select_eq_error_iff : configuration.select only = .error fault ↔
    ∃ before name after, only = before ++ name :: after ∧ fault = .unknownSubject name ∧
      name ∉ configuration.subjects.map (·.name) ∧
      ∀ earlier ∈ before, earlier ∈ configuration.subjects.map (·.name) := by
  rw [select]
  constructor
  · intro h
    split at h
    · rename_i name hfind
      cases h
      obtain ⟨hname, before, after, rfl, hbefore⟩ := List.find?_eq_some_iff_append.mp hfind
      refine ⟨before, name, after, rfl, rfl, unknown_iff.mp hname, fun earlier hearlier => ?_⟩
      by_contra hmem
      have hknown := hbefore earlier hearlier
      rw [unknown_iff.mpr hmem] at hknown
      cases hknown
    · cases h
  · rintro ⟨before, name, after, rfl, rfl, hname, hbefore⟩
    have hfind : (before ++ name :: after).find? (fun name => !configuration.subjects.any (·.name == name)) =
        some name :=
      List.find?_eq_some_iff_append.mpr ⟨unknown_iff.mpr hname, before, after, rfl, fun earlier hearlier => by
        rw [Bool.not_eq_true', ← Bool.not_eq_true, unknown_iff]
        exact not_not_intro (hbefore earlier hearlier)⟩
    rw [hfind]

/-- A choice gives the subjects that were asked for, or all of them if none was. -/
theorem select_eq_ok_iff : configuration.select only = .ok chosen ↔
    (∀ name ∈ only, name ∈ configuration.subjects.map (·.name)) ∧
      chosen = configuration.subjects.filter fun subject => only = [] ∨ subject.name ∈ only := by
  have hpicked : ∀ subject : SubjectSpec, (only.isEmpty || only.contains subject.name) =
      decide (only = [] ∨ subject.name ∈ only) := fun subject => by
    rw [Bool.eq_iff_iff]
    simp
  rw [select]
  split
  · rename_i name hfind
    have hname := List.find?_some hfind
    have hunknown : ¬ ∀ name ∈ only, name ∈ configuration.subjects.map (·.name) := fun hall =>
      unknown_iff.mp hname (hall name (List.mem_of_find?_eq_some hfind))
    exact ⟨fun h => (nomatch h), fun h => absurd h.1 hunknown⟩
  · rename_i hfind
    have hall : ∀ name ∈ only, name ∈ configuration.subjects.map (·.name) := fun name hname => by
      have hknown := List.find?_eq_none.mp hfind name hname
      rwa [unknown_iff, not_not] at hknown
    simp only [hpicked, Except.ok.injEq]
    exact ⟨fun h => ⟨hall, h.symm⟩, fun h => h.2.symm⟩

theorem exists_select_eq_error_iff : (∃ fault, configuration.select only = .error fault) ↔
    ∃ name ∈ only, name ∉ configuration.subjects.map (·.name) := by
  constructor
  · rintro ⟨fault, h⟩
    obtain ⟨before, name, after, rfl, -, hname, -⟩ := select_eq_error_iff.mp h
    exact ⟨name, by simp, hname⟩
  · rintro ⟨name, hname, hunknown⟩
    cases h : configuration.select only with
    | error fault => exact ⟨fault, rfl⟩
    | ok chosen => exact absurd ((select_eq_ok_iff.mp h).1 name hname) hunknown

/-- The order of names and how often they are given does not matter. -/
theorem select_congr (h : ∀ name, name ∈ other ↔ name ∈ only) :
    configuration.select other = .ok chosen ↔ configuration.select only = .ok chosen := by
  have hempty : other = [] ↔ only = [] := by
    simp only [List.eq_nil_iff_forall_not_mem, h]
  simp only [select_eq_ok_iff, h, hempty]

/-! ## From the text of a file -/

/-- The text of a file at a path has the shape of a configuration, whether that is accepted or not. -/
def IsShaped (text : String) (origin : Path) (configuration : Configuration) : Prop :=
  (Yaml.Node.ofText? text).bind (read (origin.parent?.getD ⟨""⟩)) = some configuration

theorem IsShaped.parse_eq {text : String} {origin : Path} (h : IsShaped text origin configuration) :
    parse text origin = configuration.check := by
  rw [parse, h]

/-- A configuration that a text has the shape of is accepted as it is, unless it has no subjects or a subject goes by
a name that occurred before; the first such subject is named. Of the subjects of one that is accepted, those that were
asked for by name are chosen, or all if none was, each once and in the order of the file, whatever the order of the
names and however often they were given; the first name that no subject has makes the choice fail. -/
theorem subjects_spec (text : String) (origin : Path) (configuration : Configuration)
    (hshaped : IsShaped text origin configuration) :
    (parse text origin = .error .noSubjects ↔ configuration.subjects = []) ∧
    ((∃ name, parse text origin = .error (.duplicateSubject name)) ↔ ¬ (configuration.subjects.map (·.name)).Nodup) ∧
    (∀ name, parse text origin = .error (.duplicateSubject name) ↔
      ∃ subject, IsDuplicate configuration.subjects subject ∧ subject.name = name) ∧
    (∀ accepted, parse text origin = .ok accepted ↔ accepted = configuration ∧ configuration.subjects ≠ [] ∧
      (configuration.subjects.map (·.name)).Nodup) ∧
    (parse text origin = .ok configuration → ∀ only,
      ((∃ fault, configuration.select only = .error fault) ↔
        ∃ name ∈ only, name ∉ configuration.subjects.map (·.name)) ∧
      (∀ fault, configuration.select only = .error fault ↔ ∃ before name after, only = before ++ name :: after ∧
        fault = .unknownSubject name ∧ name ∉ configuration.subjects.map (·.name) ∧
        ∀ earlier ∈ before, earlier ∈ configuration.subjects.map (·.name)) ∧
      (∀ chosen, configuration.select only = .ok chosen → chosen.Sublist configuration.subjects ∧
        (chosen.map (·.name)).Nodup ∧
        ∀ subject, subject ∈ chosen ↔ subject ∈ configuration.subjects ∧ (only = [] ∨ subject.name ∈ only)) ∧
      ∀ other, (∀ name, name ∈ other ↔ name ∈ only) →
        ∀ chosen, configuration.select other = .ok chosen ↔ configuration.select only = .ok chosen) := by
  rw [hshaped.parse_eq]
  refine ⟨check_eq_noSubjects_iff, ?_, fun name => check_eq_duplicate_iff, fun accepted => check_eq_ok_iff,
    fun haccepted only => ⟨exists_select_eq_error_iff, fun fault => select_eq_error_iff, fun chosen hchosen => ?_,
      fun other hsame chosen => select_congr hsame⟩⟩
  · simp only [check_eq_duplicate_iff, exists_isDuplicate_iff]
    rw [nodup_iff_firstRepeated?, Option.eq_none_iff_forall_ne_some, not_forall]
    simp only [ne_eq, not_not]
  · obtain ⟨-, -, hnodup⟩ := check_eq_ok_iff.mp haccepted
    obtain ⟨-, rfl⟩ := select_eq_ok_iff.mp hchosen
    refine ⟨List.filter_sublist, hnodup.sublist (List.filter_sublist.map _), fun subject => ?_⟩
    rw [List.mem_filter, decide_eq_true_eq]

/-! ## Two configurations -/

/-- The text of a configuration, up to the name of its first subject. -/
def openingText (name : String) : String :=
  "subjects:\n- name: " ++ name ++ "\n  compiler: &c\n    program: c\n  converter: &v\n    to_binary: *c\n" ++
    "    to_text: *c\n"

/-- The text of one more subject. -/
def subjectText (name : String) : String :=
  "- name: " ++ name ++ "\n  compiler: *c\n  converter: *v\n"

/-- A subject whose tools are all one program. -/
def uniform (name : String) : SubjectSpec :=
  let tool : Tool := ⟨"c", [], none⟩
  ⟨name, tool, ⟨tool, [], []⟩, ⟨tool, [], []⟩⟩

/-- The configuration of such subjects with these names. -/
def ofNames (names : List String) : Configuration :=
  ⟨⟨"fixtures"⟩, ⟨"interop"⟩, "ts", "wat", "test", none, names.map uniform, ⟨""⟩⟩

theorem isShaped_texts :
    IsShaped (openingText "a" ++ subjectText "b" ++ subjectText "b" ++ subjectText "a") ⟨"h.yaml"⟩
      (ofNames ["a", "b", "b", "a"]) ∧
    IsShaped (openingText "b" ++ subjectText "a") ⟨"h.yaml"⟩ (ofNames ["b", "a"]) := by
  -- characters that are given as lists need not be decoded from bytes
  have hopening : ∀ name, openingText name = .ofList _ ++ name ++ .ofList _ ++ .ofList _ := fun _ => rfl
  have hsubject : ∀ name, subjectText name = .ofList _ ++ name ++ .ofList _ := fun _ => rfl
  simp only [IsShaped, Yaml.Node.ofText?, Yaml.Token.ofText?, hopening, hsubject, String.toList_append,
    String.toList_ofList]
  constructor
  · decide +kernel
  · decide +kernel

/-- Of two names that occur twice, the one that is repeated first is named; and subjects that are asked for twice, the
last one first, are chosen once and in order. -/
theorem subjects_spec_repeated :
    IsShaped (openingText "a" ++ subjectText "b" ++ subjectText "b" ++ subjectText "a") ⟨"h.yaml"⟩
      (ofNames ["a", "b", "b", "a"]) ∧
    parse (openingText "a" ++ subjectText "b" ++ subjectText "b" ++ subjectText "a") ⟨"h.yaml"⟩ =
      .error (.duplicateSubject "b") ∧
    IsShaped (openingText "b" ++ subjectText "a") ⟨"h.yaml"⟩ (ofNames ["b", "a"]) ∧
    parse (openingText "b" ++ subjectText "a") ⟨"h.yaml"⟩ = .ok (ofNames ["b", "a"]) ∧
    (ofNames ["b", "a"]).select ["a", "b", "a"] = .ok (ofNames ["b", "a"]).subjects := by
  obtain ⟨hrepeated, hpair⟩ := isShaped_texts
  obtain ⟨-, -, hduplicate, -⟩ := subjects_spec _ _ _ hrepeated
  obtain ⟨-, -, -, haccepted, hselect⟩ := subjects_spec _ _ _ hpair
  have hparse := (haccepted _).mpr ⟨rfl, by decide, by decide⟩
  obtain ⟨-, -, -, hsame⟩ := hselect hparse ["b", "a"]
  have hagain : ∀ name, name ∈ ["a", "b", "a"] ↔ name ∈ ["b", "a"] := fun name => by grind
  have hfirst : IsDuplicate (ofNames ["a", "b", "b", "a"]).subjects (uniform "b") :=
    ⟨[uniform "a", uniform "b"], [uniform "a"], rfl, by decide, uniform "b", by decide, rfl⟩
  have hboth : (ofNames ["b", "a"]).select ["b", "a"] = .ok (ofNames ["b", "a"]).subjects := by decide
  exact ⟨hrepeated, (hduplicate "b").mpr ⟨uniform "b", hfirst, rfl⟩, hpair, hparse,
    (hsame ["a", "b", "a"] hagain _).mpr hboth⟩

end GoldenBench.Configuration
