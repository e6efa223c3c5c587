import GoldenBench.Proofs.Calls
import GoldenBench.Proofs.Json.Printing
import GoldenBench.Proofs.Text.Lines

/-!
# Directive lines

A directive line asks for the fields of an object, and they are laid over the base options (`Directive.Asks`). A line
with the mark and anything else after it makes no sense, and its source is not compiled.

* `Directive.precedence`: the options that a source is given, key by key, and what the suites hand to the compiler.
* `Directive.options_of_text`: options that are written on a directive line are read back as they are.
-/

namespace GoldenBench

namespace CompilerOptions

theorem get?_merge (options : CompilerOptions) (members : List (String × Json)) (key : String) :
    (options.merge members).get? key = (members.reverse.lookup key).or (options.get? key) :=
  Json.Fields.get?_insertAll options.fields members key

theorem get?_base (key : String) : base.get? key = if key = "silent" then some (.bool true) else none := rfl

theorem get?_silenced (options : CompilerOptions) (key : String) :
    options.silenced.get? key = if key = "silent" then some (.bool true) else options.get? key :=
  get?_merge_singleton options key "silent" (.bool true)

end CompilerOptions

namespace Directive

variable {source source' payload line : List Char} {members : List (String × Json)} {given : CompilerOptions}

/-! ## What a line asks for -/

/-- After the mark, the first line holds an object with these members, in the order in which they are written. -/
def Asks (source : List Char) (members : List (String × Json)) : Prop :=
  ∃ payload, Text.firstLine source = mark ++ payload ∧ Json.IsText (.obj members) payload

theorem payload?_eq_some : payload? source = some payload ↔ Text.firstLine source = mark ++ payload := by
  rw [payload?]
  split
  · rename_i hmark
    obtain ⟨rest, hrest⟩ := List.isPrefixOf_iff_prefix.mp hmark
    rw [← hrest, List.drop_left, Option.some_inj]
    exact ⟨fun h => h ▸ rfl, fun h => List.append_cancel_left h⟩
  · rename_i hmark
    refine ⟨fun h => (Option.some_ne_none _ h.symm).elim, fun h => absurd ?_ hmark⟩
    exact List.isPrefixOf_iff_prefix.mpr ⟨payload, h.symm⟩

theorem payload?_eq_none : payload? source = none ↔ ¬mark <+: Text.firstLine source := by
  rw [← not_iff_not, not_not, ← ne_eq, Option.ne_none_iff_exists']
  simp only [payload?_eq_some, eq_comm (a := Text.firstLine source)]
  rfl

/-- The last value of a key stands for the value of the key. -/
theorem lookup_memberMeanings (members : List (String × Json)) (key : String) :
    (Json.memberMeanings members).reverse.lookup key = (members.reverse.lookup key).map Json.meaning := by
  rw [Json.memberMeanings_eq_map, ← List.map_reverse]
  induction members.reverse with
  | nil => rfl
  | cons member members ih =>
    rw [List.map_cons, List.lookup_cons, List.lookup_cons, ih]
    cases key == member.1 with
    | false => rfl
    | true => rfl

/-- Only an object as written stands for one. -/
theorem eq_obj_of_meaning {document : Json} {fields : Json.Fields} (h : document.meaning = .obj fields) :
    ∃ members, document = .obj members := by
  cases document with
  | obj members => exact ⟨members, rfl⟩
  | _ => cases h

theorem options_of_asks (h : Asks source members) :
    options source = .ok (CompilerOptions.base.merge (Json.Fields.insertAll [] (Json.memberMeanings members))) := by
  obtain ⟨payload, hline, htext⟩ := h
  have hparse : Json.parse payload = .ok (.obj (Json.Fields.insertAll [] (Json.memberMeanings members))) :=
    Json.parse_eq_ok_iff.mpr ⟨.obj members, htext, rfl⟩
  rw [options, ofSource?, payload?_eq_some.mpr hline]
  dsimp only
  rw [hparse]
  rfl

theorem options_of_unmarked (h : ¬mark <+: Text.firstLine source) : options source = .ok .base := by
  rw [options, ofSource?, payload?_eq_none.mpr h]
  rfl

/-- A source whose directive line makes sense has none, or one that asks for members. -/
theorem exists_of_options (h : options source = .ok given) :
    (¬mark <+: Text.firstLine source ∧ given = .base) ∨ ∃ members, Asks source members := by
  rw [options, ofSource?] at h
  cases hpayload : payload? source with
  | none =>
    rw [hpayload] at h
    exact .inl ⟨payload?_eq_none.mp hpayload, (Except.ok.inj h).symm⟩
  | some payload =>
    rw [hpayload] at h
    dsimp only at h
    split at h
    · cases h
    · rename_i fields hparse
      obtain ⟨document, htext, hmeaning⟩ := Json.parse_eq_ok_iff.mp hparse
      obtain ⟨members, rfl⟩ := eq_obj_of_meaning hmeaning
      exact .inr ⟨members, payload, payload?_eq_some.mp hpayload, htext⟩
    · cases h

theorem options_eq_error_iff : (∃ fault, options source = .error fault) ↔
    mark <+: Text.firstLine source ∧ ¬∃ members, Asks source members := by
  constructor
  · rintro ⟨fault, hfault⟩
    refine ⟨by_contra fun hunmarked => ?_, fun ⟨members, hasks⟩ => ?_⟩
    · cases (options_of_unmarked hunmarked).symm.trans hfault
    · cases (options_of_asks hasks).symm.trans hfault
  · rintro ⟨hmark, hasks⟩
    cases hoptions : options source with
    | error fault => exact ⟨fault, rfl⟩
    | ok given =>
      rcases exists_of_options hoptions with ⟨hunmarked, -⟩ | hexists
      · exact absurd hmark hunmarked
      · exact absurd hexists hasks

/-- The options key by key: the last value that is asked for, or the base. -/
theorem get?_of_asks (h : Asks source members) :
    ∃ given, options source = .ok given ∧ ∀ key,
      given.get? key = ((members.reverse.lookup key).map Json.meaning).or (CompilerOptions.base.get? key) := by
  refine ⟨_, options_of_asks h, fun key => ?_⟩
  rw [CompilerOptions.get?_merge, Json.Fields.Ordered.lookup_reverse (Json.Fields.ordered_nil.insertAll _),
    Json.Fields.get?_insertAll, lookup_memberMeanings]
  rw [show Json.Fields.get? key [] = none from rfl, Option.or_none]

/-- Nothing below the first line counts. -/
theorem options_congr (h : Text.firstLine source = Text.firstLine source') : options source = options source' := by
  rw [options, options, ofSource?, ofSource?, payload?, payload?, h]

/-- A line means the same however it ends, and at the end of a source. -/
theorem options_line (h : '\n' ∉ line) (rest : List Char) :
    options (line ++ '\r' :: '\n' :: rest) = options line ∧
      (line.getLast? ≠ some '\r' → options (line ++ '\n' :: rest) = options line) := by
  have hline := Text.firstLine_of_not_mem h
  constructor
  · have hreturn : '\n' ∉ line ++ ['\r'] := by simpa using h
    have hfirst := Text.firstLine_append_newline hreturn rest
    have hchomp : Text.chomp (line ++ ['\r']) = line := by
      rw [Text.chomp, List.reverse_append]
      exact List.reverse_reverse line
    rw [List.append_assoc, hchomp] at hfirst
    exact options_congr (hfirst.trans hline.symm)
  · intro hlast
    refine options_congr ?_
    rw [hline, Text.firstLine_append_newline h]
    refine (Text.chomp_cases line).resolve_right fun hreturn => hlast ?_
    rw [hreturn, List.getLast?_concat]

theorem inOrder_base : CompilerOptions.base.json.Every Json.InOrder :=
  ⟨List.pairwise_singleton _ _, trivial, trivial⟩

/-! ## What the compiler is given -/

/-- A snapshot fixture is compiled at its turn just if its source can be read and its directive line makes sense, with
the options of its source. -/
theorem call?_snapshot {turn : SnapshotCase × World} {event : Event} :
    Snapshot.call? turn = some event ↔ ∃ source given, turn.2.files.readText turn.1.source = .ok source ∧
      options source.toList = .ok given ∧ event = .compiling (.file turn.1.source) given := by
  simp only [Snapshot.call?, Option.map_eq_some_iff, Snapshot.directed?_eq_some]
  constructor
  · rintro ⟨given, ⟨source, hread, hoptions⟩, rfl⟩
    exact ⟨source, given, hread, hoptions, rfl⟩
  · rintro ⟨source, given, hread, hoptions, rfl⟩
    exact ⟨given, ⟨source, hread, hoptions⟩, rfl⟩

/-- An interop fixture is compiled just if besides no other one has its id and a runner is registered under the id, with
the options of its source and silently. -/
theorem callEvent?_interop {registry : Registry} {fixtures : List InteropCase} {turn : InteropCase × World}
    {event : Event} :
    Interop.callEvent? registry fixtures turn.1 turn.2.files = some event ↔
      (fixtures.filter (·.id = turn.1.id)).length ≤ 1 ∧ (∃ runner, registry.get? turn.1.id = some runner) ∧
      ∃ source given, turn.2.files.readText turn.1.source = .ok source ∧
        options source.toList = .ok given ∧ event = .compiling (.file turn.1.source) given.silenced := by
  simp only [Interop.callEvent?, Option.map_eq_some_iff, Interop.call?_eq_some, Interop.directed?_eq_some]
  constructor
  · rintro ⟨_, ⟨hown, hrunner, source, given, hread, hoptions, rfl⟩, rfl⟩
    exact ⟨hown, hrunner, source, given, hread, hoptions, rfl⟩
  · rintro ⟨hown, hrunner, source, given, hread, hoptions, rfl⟩
    exact ⟨_, ⟨hown, hrunner, source, given, hread, hoptions, rfl⟩, rfl⟩

/-- What the suites of a subject hand to the compiler. -/
structure Heeded (subject : Subject) (environment : Environment) (runOptions : RunOptions) (registry : Registry)
    (world : World) : Prop where
  /-- The snapshot suite makes the calls of its turns, in order, unless it comes to an end at once. -/
  snapshots :
    match (Snapshot.runSuite subject environment runOptions world).1 with
    | .ok _ => (Snapshot.runSuite subject environment runOptions world).2.calls =
        world.calls ++ (Snapshot.turns subject runOptions world environment).filterMap Snapshot.call?
    | .error _ => (Snapshot.runSuite subject environment runOptions world).2.calls = world.calls
  /-- At a turn of it, the options are those of the source. -/
  snapshot : ∀ turn ∈ Snapshot.turns subject runOptions world environment, ∀ event,
    Snapshot.call? turn = some event ↔ ∃ source given, turn.2.files.readText turn.1.source = .ok source ∧
      options source.toList = .ok given ∧ event = .compiling (.file turn.1.source) given
  /-- If modules can be executed, the interop suite makes the calls of its turns, in order. -/
  interop : (Interop.runSuite subject environment runOptions registry world).2.calls = world.calls ++
    match subject.loader.capability with
    | .supported => (Interop.taken subject registry environment runOptions world).filterMap fun turn =>
        Interop.callEvent? registry (Interop.casesIn environment runOptions.filter world.files) turn.1 turn.2.files
    | .unsupported _ => []
  /-- At a turn of it, the options are those of the source, silenced. -/
  interopFixture : ∀ turn ∈ Interop.taken subject registry environment runOptions world, ∀ event,
    Interop.callEvent? registry (Interop.casesIn environment runOptions.filter world.files) turn.1 turn.2.files =
        some event ↔
      ((Interop.casesIn environment runOptions.filter world.files).filter (·.id = turn.1.id)).length ≤ 1 ∧
      (∃ runner, registry.get? turn.1.id = some runner) ∧
      ∃ source given, turn.2.files.readText turn.1.source = .ok source ∧
        options source.toList = .ok given ∧ event = .compiling (.file turn.1.source) given.silenced
  /-- A fixture whose directive line makes no sense is compiled in neither suite. -/
  refused : ∀ source fault, options source.toList = .error fault →
    (∀ turn ∈ Snapshot.turns subject runOptions world environment,
      turn.2.files.readText turn.1.source = .ok source → Snapshot.call? turn = none) ∧
    ∀ turn ∈ Interop.taken subject registry environment runOptions world,
      turn.2.files.readText turn.1.source = .ok source →
      Interop.callEvent? registry (Interop.casesIn environment runOptions.filter world.files) turn.1 turn.2.files = none

theorem heeded (subject : Subject) (environment : Environment) (runOptions : RunOptions) (registry : Registry)
    (world : World) : Heeded subject environment runOptions registry world where
  snapshots := by
    have hcalls := Snapshot.calls_runSuite subject environment runOptions world
    cases hresult : (Snapshot.runSuite subject environment runOptions world).1 with
    | ok findings =>
      rw [hresult] at hcalls
      exact hcalls.2
    | error abort =>
      rw [hresult] at hcalls
      exact hcalls
  snapshot _ _ _ := call?_snapshot
  interop := Interop.calls_runSuite subject environment runOptions registry world
  interopFixture _ _ _ := callEvent?_interop
  refused source fault hfault := by
    refine ⟨fun turn _ hread => ?_, fun turn _ hread => ?_⟩
    · refine Option.eq_none_iff_forall_not_mem.mpr fun event hevent => ?_
      obtain ⟨source', given, hread', hoptions, -⟩ := call?_snapshot.mp hevent
      obtain rfl := Except.ok.inj (hread.symm.trans hread')
      cases hfault.symm.trans hoptions
    · refine Option.eq_none_iff_forall_not_mem.mpr fun event hevent => ?_
      obtain ⟨-, -, source', given, hread', hoptions, -⟩ := callEvent?_interop.mp hevent
      obtain rfl := Except.ok.inj (hread.symm.trans hread')
      cases hfault.symm.trans hoptions

/-- A directive line that makes no sense has the mark and no object after it. Otherwise each key has the last value that
is asked for, or else the base's, and nothing but the first line counts. The compiler is given these options in the
snapshot suite, and in the interop suite the same but silent; the told calls are what it is given. -/
theorem precedence :
    (∀ source, (∃ fault, options source = .error fault) ↔
      mark <+: Text.firstLine source ∧ ¬∃ members, Asks source members) ∧
    (∀ source members, Asks source members → ∃ given, options source = .ok given ∧ ∀ key,
      given.get? key = ((members.reverse.lookup key).map Json.meaning).or (CompilerOptions.base.get? key)) ∧
    (∀ source, ¬mark <+: Text.firstLine source → options source = .ok .base) ∧
    (∀ key, CompilerOptions.base.get? key = if key = "silent" then some (.bool true) else none) ∧
    (∀ source source', Text.firstLine source = Text.firstLine source' → options source = options source') ∧
    (∀ line rest, '\n' ∉ line → options (line ++ '\r' :: '\n' :: rest) = options line ∧
      (line.getLast? ≠ some '\r' → options (line ++ '\n' :: rest) = options line)) ∧
    (∀ (given : CompilerOptions) key,
      given.silenced.get? key = if key = "silent" then some (.bool true) else given.get? key) ∧
    (∀ compiler input given world,
      (Invocation.run compiler input given world).1 =
        .ofCompilation (compiler.compile input given world.workspace).1 ∧
      (Invocation.run compiler input given world).2.calls = world.calls ++ [.compiling input given]) ∧
    ∀ subject environment runOptions registry world, Heeded subject environment runOptions registry world := by
  refine ⟨fun _ => options_eq_error_iff, fun _ _ => get?_of_asks, fun _ => options_of_unmarked,
    CompilerOptions.get?_base, fun _ _ => options_congr, fun _ rest h => options_line h rest,
    CompilerOptions.get?_silenced, fun compiler input given world => ⟨?_, ?_⟩, heeded⟩
  · rw [Invocation.run_apply]
    rfl
  · exact Invocation.calls_run compiler input given world

/-- A source whose directive line asks for a key twice, for one that the base has and for an object with a repeated key;
what follows below would make no sense as a directive line. -/
def memorySource : List Char :=
  "//!\x7b\"memory\":16,\"silent\":false,\"memory\":\x7b\"b\":null,\"a\":1,\"b\":[]\x7d\x7d\r\n//![]".toList

/-- The members that it asks for. -/
def memoryMembers : List (String × Json) :=
  [("memory", .whole 16), ("silent", .bool false), ("memory", .obj [("b", .null), ("a", .whole 1), ("b", .arr [])])]

theorem asks_memory : Asks memorySource memoryMembers := by
  have hexact : (Json.obj memoryMembers).Every Json.IsExact := by
    simp only [memoryMembers, Json.Every, Json.EveryField, Json.EveryItem, Json.IsExact]
    decide
  exact ⟨(Json.obj memoryMembers).render, by decide +kernel, Json.isText_render hexact (by decide +kernel)⟩

/-- The last values count, keys that are not asked for are left to the base, and so is a source without the mark; an
object with a bare key makes no sense. -/
theorem precedence_of_memory :
    Asks memorySource memoryMembers ∧
    (∃ given, options memorySource = .ok given ∧
      given.get? "memory" = some (.obj [("a", .whole 1), ("b", .arr [])]) ∧
      given.get? "silent" = some (.bool false) ∧ given.get? "target" = none) ∧
    ¬(∃ members, Asks "//!\x7bsilent:false\x7d".toList members) ∧
    ¬mark <+: Text.firstLine "// plain".toList ∧ options "// plain".toList = .ok .base ∧
    Text.firstLine "//!\n//![]".toList = Text.firstLine "//!".toList ∧
    options "//!\n//![]".toList = options "//!".toList ∧
    '\n' ∉ "//!\x7b\x7d".toList ∧
    options ("//!\x7b\x7d".toList ++ '\r' :: '\n' :: "rest".toList) = options "//!\x7b\x7d".toList ∧
    "//!\x7b\x7d".toList.getLast? ≠ some '\r' ∧
    options ("//!\x7b\x7d".toList ++ '\n' :: "rest".toList) = options "//!\x7b\x7d".toList := by
  obtain ⟨hfails, hasks, hplain, -, hfirst, hline, -⟩ := precedence
  have hbare : ∃ fault, options "//!\x7bsilent:false\x7d".toList = .error fault := by
    have herror : (options "//!\x7bsilent:false\x7d".toList).toBool = false := by decide +kernel
    cases hoptions : options "//!\x7bsilent:false\x7d".toList with
    | error fault => exact ⟨fault, rfl⟩
    | ok given => cases (congrArg Except.toBool hoptions).symm.trans herror
  have hab : "a" < "b" := by decide
  have hba : ¬"b" < "a" := by decide
  have hmark : ¬mark <+: Text.firstLine "// plain".toList := by decide
  have hsame : Text.firstLine "//!\n//![]".toList = Text.firstLine "//!".toList := by decide
  have hnewline : '\n' ∉ "//!\x7b\x7d".toList := by decide
  have hreturn : "//!\x7b\x7d".toList.getLast? ≠ some '\r' := by decide
  obtain ⟨given, hoptions, hkeys⟩ := hasks _ _ asks_memory
  obtain ⟨hreturned, hended⟩ := hline _ "rest".toList hnewline
  refine ⟨asks_memory, ⟨given, hoptions, (hkeys _).trans ?_, (hkeys _).trans ?_, (hkeys _).trans ?_⟩,
    ((hfails _).mp hbare).2, hmark, hplain _ hmark, hsame, hfirst _ _ hsame, hnewline, hreturned, hreturn,
    hended hreturn⟩
  · simp [memoryMembers, Json.meaning, Json.memberMeanings, Json.itemMeanings, Json.Fields.insertAll,
      Json.Fields.insert, hab, hba]
  · simp [memoryMembers, List.lookup_cons, Json.meaning]
  · simp [memoryMembers, List.lookup_cons, CompilerOptions.get?_base]

/-! ## Options on a directive line -/

/-- Options that can be written on a directive line: objects are in order, numbers are whole and kept exactly, and they
do not nest too deep. -/
structure Writable (given : CompilerOptions) : Prop where
  /-- The keys of each object are distinct and in order. -/
  inOrder : given.json.Every Json.InOrder
  /-- Every number is whole and between the least signed and the greatest unsigned one of 64 bits. -/
  exact : given.json.Every Json.IsExact
  /-- The values nest less than 127 deep. -/
  shallow : Json.fieldsDepth given.fields < 127

/-- The line is the first line of the source. -/
theorem firstLine_of_text (h : Writable given) (rest : String) :
    Text.firstLine ("//!" ++ given.text ++ "\n" ++ rest).toList = mark ++ given.json.render := by
  have hprintable : Json.Printable (mark ++ given.json.render) :=
    Json.Printable.append (by decide) (Json.printable_render h.exact)
  have hnewline : '\n' ∉ mark ++ given.json.render := fun hmem => absurd (hprintable _ hmem) (by decide)
  have hreturn : '\r' ∉ mark ++ given.json.render := fun hmem => absurd (hprintable _ hmem) (by decide)
  have htext : ("//!" ++ given.text ++ "\n" ++ rest).toList = mark ++ given.json.render ++ '\n' :: rest.toList := by
    simp [CompilerOptions.text, Json.compact, mark]
  rw [htext, Text.firstLine_append_newline hnewline, Text.chomp_of_not_mem hreturn]

/-- Options that are written on a directive line are laid over the base as they are, and replace it if they say whether
the compiler is silent. -/
theorem options_of_text (h : Writable given) (rest : String) :
    options ("//!" ++ given.text ++ "\n" ++ rest).toList = .ok (CompilerOptions.base.merge given.fields) ∧
      ((given.get? "silent").isSome → options ("//!" ++ given.text ++ "\n" ++ rest).toList = .ok given) := by
  have hdepth : given.json.depth < Json.depthLimit := Nat.succ_lt_succ h.shallow
  have hparse : Json.parse given.json.render = .ok (.obj given.fields) := Json.parse_render h.exact h.inOrder hdepth
  have hoptions : options ("//!" ++ given.text ++ "\n" ++ rest).toList =
      .ok (CompilerOptions.base.merge given.fields) := by
    rw [options, ofSource?, payload?_eq_some.mpr (firstLine_of_text h rest)]
    dsimp only
    rw [hparse]
    rfl
  refine ⟨hoptions, fun hsilent => hoptions.trans (congrArg Except.ok ?_)⟩
  have hfields : CompilerOptions.base.fields.insertAll given.fields = given.fields := by
    refine Json.Fields.Ordered.insertAll_eq inOrder_base.1 h.inOrder.1 fun key hkey => ?_
    rw [← CompilerOptions.get?, CompilerOptions.get?_base, if_neg]
    rintro rfl
    rw [CompilerOptions.get?, hkey] at hsilent
    cases hsilent
  exact congrArg CompilerOptions.mk hfields

/-- Options with characters that must be escaped, with a character that ends lines elsewhere, with the least and the
greatest number and with values in values. -/
def awkward : CompilerOptions :=
  ⟨[("a\"\\\n\r\u0000", .arr [.whole (-9223372036854775808), .whole 18446744073709551615, .null]),
    ("silent", .obj [("\u2028", .str "\u0085\t\u001b/"), ("😀", .bool false)])]⟩

/-- They are read back from a directive line, whatever follows. -/
theorem options_of_text_awkward :
    Writable awkward ∧ (awkward.get? "silent").isSome ∧
    options ("//!" ++ awkward.text ++ "\n" ++ "//!broken").toList = .ok awkward := by
  have hwritable : Writable awkward := by
    refine ⟨?_, ?_, by decide⟩
    · simp only [CompilerOptions.json, awkward, Json.Every, Json.EveryField, Json.EveryItem, Json.InOrder]
      decide
    · simp only [CompilerOptions.json, awkward, Json.Every, Json.EveryField, Json.EveryItem, Json.IsExact]
      decide
  have hsilent : (awkward.get? "silent").isSome := by decide
  exact ⟨hwritable, hsilent, (options_of_text hwritable "//!broken").2 hsilent⟩

end Directive

end GoldenBench
