import GoldenBench.Yaml.Token

/-!
# YAML documents

A document is a tree of scalars, sequences and mappings. A node can be named, and an alias stands for the node that
last had the name.

* `Yaml.Node.ofText?` reads the one document of a text.
-/

namespace GoldenBench.Yaml

/-- A node of a document. -/
inductive Node where
  /-- A text; whether it was written without quotes and not as a block; its tag, if it has one. -/
  | scalar (text : String) (plain : Bool) (tag : Option String)
  /-- A list of nodes. -/
  | seq (items : List Node)
  /-- Pairs of nodes, in the order of the text. -/
  | map (entries : List (Node × Node))
  deriving Inhabited

namespace Node

/-- What stands where no node is written. -/
def vacant : Node := .scalar "" true none

/-- What is known of the text before a place: the named nodes, the latest first, and the short forms of tags. -/
structure Scope where
  /-- The named nodes. -/
  anchors : List (String × Node)
  /-- The short forms of tags. -/
  shorts : List (String × String)

/-- The short forms that every document has. -/
def commonShorts : List (String × String) :=
  [("!", "!"), ("!!", "tag:yaml.org,2002:")]

/-- A reader of tokens: from what is known and the tokens to a result, what is known then, and the tokens left. -/
abbrev Reader (α : Type) := Scope → List Token → Option (α × Scope × List Token)

/-- What may stand before a node: a name and a tag in either order. -/
structure Properties where
  /-- The name. -/
  anchor : Option String
  /-- The tag. -/
  tag : Option String

/-- The full form of a tag. -/
def fullTag (scope : Scope) (handle rest : String) : Option String :=
  if handle.isEmpty then some rest else (scope.shorts.lookup handle).map (· ++ rest)

/-- Reads what stands before a node. -/
def properties (scope : Scope) : List Token → Option (Properties × List Token)
  | .anchor name :: .tag handle rest :: tokens => do
    return (⟨some name, some (← fullTag scope handle rest)⟩, tokens)
  | .tag handle rest :: .anchor name :: tokens => do
    return (⟨some name, some (← fullTag scope handle rest)⟩, tokens)
  | .anchor name :: tokens => some (⟨some name, none⟩, tokens)
  | .tag handle rest :: tokens => do return (⟨none, some (← fullTag scope handle rest)⟩, tokens)
  | tokens => some (⟨none, none⟩, tokens)

/-- The scope with a node under its name. -/
def Scope.name (scope : Scope) (anchor : Option String) (node : Node) : Scope :=
  match anchor with
  | some name => { scope with anchors := (name, node) :: scope.anchors }
  | none => scope

/-- Where a node stands. -/
inductive Place where
  /-- Outside brackets, where no sequence may start without being indented. -/
  | block
  /-- As a key or a value of a block mapping, where a sequence need not be indented. -/
  | blockEntry
  /-- Inside brackets. -/
  | flow
  deriving DecidableEq

/-- The node is missing before one of these tokens. -/
def isOneOf (token : Option Token) (ends : List Token) : Bool :=
  token.all ends.contains

mutual

/-- Reads a node. -/
def read (place : Place) (fuel : Nat) : Reader Node := fun scope tokens =>
  match fuel with
  | 0 => none
  | fuel + 1 =>
    match tokens with
    | .alias name :: rest => do return (← scope.anchors.lookup name, scope, rest)
    | tokens => do
      let (found, tokens) ← properties scope tokens
      let (node, scope, rest) ← match tokens with
        | .scalar text plain :: rest => some (.scalar text plain found.tag, scope, rest)
        | .flowSequence :: rest => flowItems true fuel scope rest
        | .flowMapping :: rest => flowEntries true fuel scope rest
        | tokens =>
          match place, tokens with
          | .blockEntry, .blockEntry :: _ => plainItems fuel scope tokens
          | .block, .blockSequence :: rest | .blockEntry, .blockSequence :: rest => blockItems fuel scope rest
          | .block, .blockMapping :: rest | .blockEntry, .blockMapping :: rest => blockEntries fuel scope rest
          | _, _ =>
            if found.anchor.isSome || found.tag.isSome then some (.scalar "" true found.tag, scope, tokens)
            else none
      return (node, scope.name found.anchor node, rest)

/-- Reads a node, or none where one of some tokens follows. -/
def readOr (place : Place) (ends : List Token) (fuel : Nat) : Reader Node := fun scope tokens =>
  match fuel with
  | 0 => none
  | fuel + 1 => if isOneOf tokens.head? ends then some (vacant, scope, tokens) else read place fuel scope tokens

/-- Reads the entries of a block sequence. -/
def blockItems (fuel : Nat) : Reader Node := fun scope tokens =>
  match fuel with
  | 0 => none
  | fuel + 1 =>
    match tokens with
    | .blockEntry :: rest => do
      let (item, scope, rest) ← readOr .block [.blockEntry, .blockEnd] fuel scope rest
      match ← blockItems fuel scope rest with
      | (.seq items, scope, rest) => return (.seq (item :: items), scope, rest)
      | _ => failure
    | .blockEnd :: rest => some (.seq [], scope, rest)
    | _ => none

/-- Reads the entries of a sequence that is not indented. -/
def plainItems (fuel : Nat) : Reader Node := fun scope tokens =>
  match fuel with
  | 0 => none
  | fuel + 1 =>
    match tokens with
    | .blockEntry :: rest => do
      let (item, scope, rest) ← readOr .block [.blockEntry, .key, .value, .blockEnd] fuel scope rest
      match ← plainItems fuel scope rest with
      | (.seq items, scope, rest) => return (.seq (item :: items), scope, rest)
      | _ => failure
    | tokens => some (.seq [], scope, tokens)

/-- Reads the entries of a block mapping. -/
def blockEntries (fuel : Nat) : Reader Node := fun scope tokens =>
  match fuel with
  | 0 => none
  | fuel + 1 =>
    match tokens with
    | .key :: rest => do
      let ends := [Token.key, .value, .blockEnd]
      let (key, scope, rest) ← readOr .blockEntry ends fuel scope rest
      let (value, scope, rest) ← match rest with
        | .value :: rest => readOr .blockEntry ends fuel scope rest
        | rest => some (vacant, scope, rest)
      match ← blockEntries fuel scope rest with
      | (.map entries, scope, rest) => return (.map ((key, value) :: entries), scope, rest)
      | _ => failure
    | .blockEnd :: rest => some (.map [], scope, rest)
    | _ => none

/-- Reads the entries of a flow sequence, the first one or another. A key among them starts a mapping of one
pair. -/
def flowItems (first : Bool) (fuel : Nat) : Reader Node := fun scope tokens =>
  match fuel with
  | 0 => none
  | fuel + 1 => do
    let tokens ← match first, tokens with
      | true, tokens => some tokens
      | false, .flowEntry :: rest => some rest
      | false, .flowSequenceEnd :: rest => some (.flowSequenceEnd :: rest)
      | false, _ => none
    let ends := [Token.value, .flowEntry, .flowSequenceEnd]
    let (item, scope, rest) ← match tokens with
      | .flowSequenceEnd :: rest => return (.seq [], scope, rest)
      | .key :: rest => do
        let (key, scope, rest) ← readOr .flow ends fuel scope rest
        let (value, scope, rest) ← match rest with
          | .value :: rest => readOr .flow [.flowEntry, .flowSequenceEnd] fuel scope rest
          | rest => some (vacant, scope, rest)
        some (Node.map [(key, value)], scope, rest)
      | tokens => read .flow fuel scope tokens
    match ← flowItems false fuel scope rest with
    | (.seq items, scope, rest) => return (.seq (item :: items), scope, rest)
    | _ => failure

/-- Reads the entries of a flow mapping, the first one or another. -/
def flowEntries (first : Bool) (fuel : Nat) : Reader Node := fun scope tokens =>
  match fuel with
  | 0 => none
  | fuel + 1 => do
    let tokens ← match first, tokens with
      | true, tokens => some tokens
      | false, .flowEntry :: rest => some rest
      | false, .flowMappingEnd :: rest => some (.flowMappingEnd :: rest)
      | false, _ => none
    let (entry, scope, rest) ← match tokens with
      | .flowMappingEnd :: rest => return (.map [], scope, rest)
      | .key :: rest => do
        let (key, scope, rest) ← readOr .flow [.value, .flowEntry, .flowMappingEnd] fuel scope rest
        let (value, scope, rest) ← match rest with
          | .value :: rest => readOr .flow [.flowEntry, .flowMappingEnd] fuel scope rest
          | rest => some (vacant, scope, rest)
        some ((key, value), scope, rest)
      | tokens => do
        let (key, scope, rest) ← read .flow fuel scope tokens
        some ((key, vacant), scope, rest)
    match ← flowEntries false fuel scope rest with
    | (.map entries, scope, rest) => return (.map (entry :: entries), scope, rest)
    | _ => failure

end

/-- Reads the directives before a document. A version is given once at most and is 1.1 or 1.2; no short form is
given twice. -/
def directives (seen : Bool) (shorts : List (String × String)) :
    List Token → Option (Bool × List (String × String) × List Token)
  | .version major minor :: rest =>
    if seen || major ≠ 1 || (minor ≠ 1 && minor ≠ 2) then none else directives true shorts rest
  | .tagShort handle lead :: rest =>
    if (shorts.lookup handle).isSome then none else directives seen ((handle, lead) :: shorts) rest
  | tokens => some (seen, shorts, tokens)

/-- Reads the document that is the whole of some tokens. -/
def ofTokens? (tokens : List Token) : Option Node := do
  let (versioned, shorts, tokens) ← directives false [] tokens
  let scope : Scope := ⟨[], shorts ++ commonShorts⟩
  let fuel := 4 * tokens.length + 4
  let (node, _, rest) ← match tokens with
    | .documentStart :: rest => readOr .block [.documentStart, .documentEnd] fuel scope rest
    | [] => failure
    | tokens => if versioned || !shorts.isEmpty then failure else read .block fuel scope tokens
  if rest.all (· == .documentEnd) then return node
  failure

/-- Reads the one document of a text. -/
def ofText? (text : String) : Option Node :=
  (Token.ofText? text).bind ofTokens?

/-- The text of a scalar. -/
def text? : Node → Option String
  | .scalar text _ _ => some text
  | _ => none

/-- The tag of the null value. -/
def nullTag : String := "tag:yaml.org,2002:null"

/-- The node is the null value. -/
def isNull : Node → Bool
  | .scalar text true none => ["", "~", "null", "Null", "NULL"].contains text
  | .scalar text true (some tag) => tag == nullTag && ["~", "null", "Null", "NULL"].contains text
  | _ => false

/-- The node is marked as the null value and is not: its text is another one. -/
def isFalseNull (node : Node) : Bool :=
  match node with
  | .scalar _ true (some tag) => tag == nullTag && !node.isNull
  | _ => false

/-- The items of a list; where nothing is written the list is empty. -/
def items? : Node → Option (List Node)
  | .seq items => some items
  | .scalar "" true _ => some []
  | _ => none

end Node

end GoldenBench.Yaml
