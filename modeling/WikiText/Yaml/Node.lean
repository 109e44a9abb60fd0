import WikiText.Yaml.Kind
import WikiText.Yaml.Token

/-!
# Nodes of a document

A document is a tree of scalars, sequences and mappings. An alias stands for the node that was given
its name before.
-/

namespace WikiText.Yaml

/-- A node, and what it is to be read as. Where other mappings were merged into a mapping, its keys
may repeat. -/
inductive Node where
  | scalar (kind : Kind) (text : Text)
  | sequence (kind : Kind) (items : List Node)
  | mapping (kind : Kind) (merged : Bool) (entries : List (Node × Node))
deriving Repr

namespace Node

instance : Inhabited Node := ⟨.scalar .null []⟩

/-- The state of the reader: the tokens that are left, the version that the document is written in,
the named nodes, and what the handles of tags stand for. A name without a node belongs to a node
that is not complete. -/
private structure Reader where
  tokens : List Token
  version : Version := .v12
  anchors : List (Text × Option Node) := []
  handles : List (Text × Text)

private abbrev ReadM := StateT Reader Option

private def peek : ReadM Token := do return (← get).tokens.head?.getD .streamEnd

private def skip : ReadM Unit := modify fun r => { r with tokens := r.tokens.tail }

private def nextIs (ts : List Token) : ReadM Bool := do return ts.elem (← peek)

/-- Take a token, if it is the next one. -/
private def accept (t : Token) : ReadM Bool := do
  if (← peek) = t then
    skip
    return true
  else return false

private def require (t : Token) : ReadM Unit := do
  if ← accept t then return else failure

/-- A node without text. -/
private def empty : Node := .scalar .null []

/-- The anchor and the tag before a node, in either order. -/
private def properties : ReadM (Option Text × Option TagName) := do
  match ← peek with
  | .anchor a =>
    skip
    match ← peek with
    | .tag t =>
      skip
      return (some a, some t)
    | _ => return (some a, none)
  | .tag t =>
    skip
    match ← peek with
    | .anchor a =>
      skip
      return (some a, some t)
    | _ => return (none, some t)
  | _ => return (none, none)

/-- The whole tag that a written one stands for. -/
private def wholeTag : TagName → ReadM Text
  | .whole t => return t
  | .short handle suffix => do
    match (← get).handles.lookup handle with
    | some stands => return stands ++ suffix
    | none => failure

/-- The kind of a scalar. A lone mark as a tag tells nothing. -/
private def scalarKind (v : Version) (tag : Option Text) (plain : Bool) (text : Text) : Kind :=
  match tag with
  | none => if plain then .ofPlain v text else .text
  | some t => if t = ['!'] then .ofPlain v text else .ofTag v t

private def collectionKind (v : Version) (tag : Option Text) (default : Kind) : Kind :=
  match tag with
  | none => default
  | some t => if t = ['!'] then default else .ofTag v t

private def setAnchor (anchor : Option Text) (n : Option Node) : ReadM Unit :=
  match anchor with
  | some a => modify fun r => { r with anchors := (a, n) :: r.anchors }
  | none => return

/-- A collection under its anchor. Its items do not know it. -/
private def named (anchor : Option Text) (read : ReadM Node) : ReadM Node := do
  setAnchor anchor none
  let n ← read
  setAnchor anchor (some n)
  return n

mutual

/-- A node. In a block it may be a block itself, and where `flat` holds, a sequence without an
indentation of its own. Every call takes a token or goes one step down to a call that does, so
`fuel` is a multiple of the number of tokens. -/
private def read (block flat : Bool) : (fuel : Nat) → ReadM Node
  | 0 => failure
  | fuel + 1 => do
    if let .alias a ← peek then
      skip
      let some (some n) := (← get).anchors.lookup a | failure
      return n
    let (anchor, name) ← properties
    let tag ← name.mapM wholeTag
    let v := (← get).version
    let list (read : ReadM (List Node)) : ReadM Node :=
      named anchor do return .sequence (collectionKind v tag .list) (← read)
    let entries (read : ReadM (List (Node × Node))) : ReadM Node :=
      named anchor do return .mapping (collectionKind v tag .mapping) false (← read)
    match ← peek with
    | .scalar text plain =>
      skip
      named anchor (return .scalar (scalarKind v tag plain text) text)
    | .flowSequenceStart =>
      skip
      list (readFlowItems true fuel)
    | .flowMappingStart =>
      skip
      entries (readFlowEntries true fuel)
    | t =>
      if flat ∧ t = .blockEntry then list (readFlatItems fuel)
      else if block ∧ t = .sequenceStart then
        skip
        list (readItems fuel)
      else if block ∧ t = .mappingStart then
        skip
        entries (readEntries fuel)
      else if anchor.isSome || tag.isSome then
        named anchor (return .scalar (scalarKind v tag true []) [])
      else failure

/-- The items of a block sequence up to its end. -/
private def readItems : (fuel : Nat) → ReadM (List Node)
  | 0 => failure
  | fuel + 1 => do
    if ← accept .blockEntry then
      let n ← if ← nextIs [.blockEntry, .blockEnd] then pure empty else read true false fuel
      return n :: (← readItems fuel)
    else
      require .blockEnd
      return []

/-- The items of a sequence that is indented as its key is. -/
private def readFlatItems : (fuel : Nat) → ReadM (List Node)
  | 0 => failure
  | fuel + 1 => do
    if ← accept .blockEntry then
      let n ← if ← nextIs [.blockEntry, .key, .value, .blockEnd] then pure empty
        else read true false fuel
      return n :: (← readFlatItems fuel)
    else return []

/-- A value behind its mark, or nothing. -/
private def readValue : (fuel : Nat) → ReadM Node
  | 0 => failure
  | fuel + 1 => do
    if ← accept .value then
      if ← nextIs [.key, .value, .blockEnd] then return empty else read true true fuel
    else return empty

/-- The entries of a block mapping up to its end. -/
private def readEntries : (fuel : Nat) → ReadM (List (Node × Node))
  | 0 => failure
  | fuel + 1 => do
    if ← accept .key then
      let k ← if ← nextIs [.key, .value, .blockEnd] then pure empty else read true true fuel
      let v ← readValue fuel
      return (k, v) :: (← readEntries fuel)
    else if ← nextIs [.value] then
      let v ← readValue fuel
      return (empty, v) :: (← readEntries fuel)
    else
      require .blockEnd
      return []

/-- A value in a flow collection with a given end. -/
private def readFlowValue (stop : Token) : (fuel : Nat) → ReadM Node
  | 0 => failure
  | fuel + 1 => do
    if ← accept .value then
      if ← nextIs [.flowEntry, stop] then return empty else read false false fuel
    else return empty

/-- A key behind its mark and its value in a flow collection with a given end. -/
private def readFlowEntry (stop : Token) : (fuel : Nat) → ReadM (Node × Node)
  | 0 => failure
  | fuel + 1 => do
    let k ← if ← nextIs [.value, .flowEntry, stop] then pure empty else read false false fuel
    return (k, ← readFlowValue stop fuel)

/-- The items of a flow sequence up to its end. A key makes a mapping of one entry. -/
private def readFlowItems (first : Bool) : (fuel : Nat) → ReadM (List Node)
  | 0 => failure
  | fuel + 1 => do
    if ← accept .flowSequenceEnd then return []
    if !first then require .flowEntry
    if ← accept .key then
      let entry ← readFlowEntry .flowSequenceEnd fuel
      return .mapping .mapping false [entry] :: (← readFlowItems false fuel)
    else if ← accept .flowSequenceEnd then return []
    else
      let n ← read false false fuel
      return n :: (← readFlowItems false fuel)

/-- The entries of a flow mapping up to its end. A node without a value is a key. -/
private def readFlowEntries (first : Bool) : (fuel : Nat) → ReadM (List (Node × Node))
  | 0 => failure
  | fuel + 1 => do
    if ← accept .flowMappingEnd then return []
    if !first then require .flowEntry
    if ← accept .key then
      let entry ← readFlowEntry .flowMappingEnd fuel
      return entry :: (← readFlowEntries false fuel)
    else if ← nextIs [.value] then
      let v ← readFlowValue .flowMappingEnd fuel
      return (empty, v) :: (← readFlowEntries false fuel)
    else if ← accept .flowMappingEnd then return []
    else
      let k ← read false false fuel
      return (k, empty) :: (← readFlowEntries false fuel)

end

/-! ## Documents -/

/-- Take the directives at the front: the version may be told once, and each handle once. -/
private def readDirectives (versionTold : Bool) : (fuel : Nat) → ReadM Unit
  | 0 => failure
  | fuel + 1 => do
    if let .directive d ← peek then
      skip
      match d with
      | .version major minor =>
        if versionTold ∨ major ≠ 1 then failure
        modify fun r => { r with version := if minor = 1 then .v11 else .v12 }
        readDirectives true fuel
      | .handle name stands =>
        if ((← get).handles.lookup name).isSome then failure
        modify fun r => { r with handles := (name, stands) :: r.handles }
        readDirectives versionTold fuel
      | .other => readDirectives versionTold fuel

/-- What common handles stand for, unless a directive tells otherwise. -/
private def commonHandles : List (Text × Text) :=
  [(['!'], ['!']), (['!', '!'], Kind.commonTag)]

/-- The document behind its mark or without one. -/
private def readDocument (fuel : Nat) : ReadM (Option Node) := do
  if ← nextIs [.streamEnd] then return none
  let isMarked : Bool := match ← peek with
    | .directive _ | .documentStart => true
    | _ => false
  if isMarked then
    readDirectives false fuel
    require .documentStart
  modify fun r => { r with handles := r.handles ++ commonHandles }
  let n ← if isMarked && (← nextIs [.documentEnd, .streamEnd]) then pure empty
    else read true false fuel
  let _ ← accept .documentEnd
  return some n

/-- The only document among tokens, if there is one. -/
def ofTokens? (ts : List Token) : Option (Option Node) := do
  let (n, r) ← (readDocument (4 * ts.length + 4)).run { tokens := ts, handles := [] }
  if r.tokens = [.streamEnd] then some n else none

end Node

end WikiText.Yaml
