/-
Reading nodes from tokens.

A node may have a name, its anchor, by which it stands again further on; a name is
given once.  The name holds from where it is given, so that a list or a map may stand
inside itself.  No node stands inside more than a set number of others.

Reading goes down into a node or on to the next one, in at most four steps for a
token.  So a bound of four times the number of tokens, and four, is never reached.
-/
import SecurityMarking.Yaml.Layout
import SecurityMarking.Yaml.Node
import SecurityMarking.Yaml.Spelling.Scalar

namespace SecurityMarking.Yaml

/-- Where a reader of nodes stands. -/
structure Progress where
  /-- The tokens that lie ahead. -/
  tokens : List Token
  /-- The nodes that have a name. -/
  anchors : List (Text × Nat)
  /-- The nodes so far. -/
  nodes : Nodes
  /-- The number of nodes that are being read. -/
  depth : Nat

/-- A reader of nodes. -/
abbrev NodeReader := StateT Progress (Except Fault)

/-- Where a node stands. -/
inductive Position
  | inFlow
  | inBlock
  /-- As the key or the value of a block mapping, where the items of a sequence may stand in the
  column of the key. -/
  | atKey
deriving DecidableEq

/-- What stands before a node. -/
structure Properties where
  anchor : Option Text
  isTagged : Bool
  tag : Option Tag

namespace NodeReader

/-- The next token. -/
def peek : NodeReader (Option Token) := do return (← get).tokens.head?

/-- Whether the next token is one of some. -/
def isNext (ts : List Token) : NodeReader Bool := do return (← peek).any fun t => ts.contains t

/-- Passes over as many tokens. -/
def pass (n : Nat) : NodeReader Unit := modify fun a => { a with tokens := a.tokens.drop n }

/-- Refuses the next token. -/
def refuse {α : Type} : NodeReader α := do
  match ← peek with
  | some (.fault f) => throw f
  | _ => throw .malformed

/-- Passes over the next token, which has to be that one. -/
def expect (t : Token) : NodeReader Unit := do if ← isNext [t] then pass 1 else refuse

/-- Passes over the next token if it is that one, and tells whether it was. -/
def passIf (t : Token) : NodeReader Bool := do
  let found ← isNext [t]
  if found then pass 1
  return found

/-! ### Names and tags -/

/-- Gives a name to a node. -/
def giveName (id : Nat) (name : Text) : NodeReader Unit := do
  if (← get).anchors.any (·.1 == name) then throw .malformed
  modify fun a => { a with anchors := (name, id) :: a.anchors }

/-- The node with a name. -/
def named (name : Text) : NodeReader Nat := do
  match (← get).anchors.lookup name with
  | some id => return id
  | none => throw .malformed

/-- Adds a node, and tells its number. -/
def add (n : Node) : NodeReader Nat :=
  modifyGet fun a => (a.nodes.size, { a with nodes := a.nodes.push n })

/-- The most nodes that are being read at a time. -/
def maxDepth : Nat := 490

/-- Begins to read a node inside those that are being read. -/
def enter : NodeReader Unit := do
  if maxDepth ≤ (← get).depth then throw (.misuse .tooDeep)
  modify fun a => { a with depth := a.depth + 1 }

/-- Ends reading a node, which is what has been read. -/
def leave (id : Nat) (n : Node) : NodeReader Unit :=
  modify fun a => { a with nodes := a.nodes.setIfInBounds id n, depth := a.depth - 1 }

/-- The properties with a tag. -/
def tagged (handles : Handles) (anchor : Option Text) (t : WrittenTag) :
    NodeReader Properties := do
  match t.resolve? handles with
  | some tag => return ⟨anchor, true, tag⟩
  | none => throw .malformed

/-- Reads an anchor and a tag, in either order, if they are there. -/
def properties (handles : Handles) : NodeReader Properties := do
  match (← get).tokens with
  | .anchor name :: .tag t :: _ | .tag t :: .anchor name :: _ =>
    pass 2
    tagged handles (some name) t
  | .anchor name :: _ =>
    pass 1
    return ⟨some name, false, none⟩
  | .tag t :: _ =>
    pass 1
    tagged handles none t
  | _ => return ⟨none, false, none⟩

/-- The scalar of some text with properties: in quotes or in a block it is a text unless tagged. -/
def scalarOf (p : Properties) (isPlain : Bool) (text : Text) : Node :=
  ⟨if p.isTagged || isPlain then p.tag.getD (.ofSpelling text) else .text, .text text⟩

/-- The list of some nodes with properties. -/
def listOf (p : Properties) (ids : List Nat) : Node := ⟨p.tag.getD .list, .items ids⟩

/-- The map of some entries with properties. -/
def mapOf (p : Properties) (es : List (Nat × Nat)) : Node := ⟨p.tag.getD .map, .entries es⟩

/-! ### Nodes -/

mutual

/-- Reads a node, and tells its number. -/
def node (handles : Handles) (position : Position) : Nat → NodeReader Nat
  | 0 => refuse
  | bound + 1 => do
    if let some (.alias name) := ← peek then
      pass 1
      return ← named name
    let p ← properties handles
    let id ← add .empty
    p.anchor.forM (giveName id)
    enter
    leave id (← content handles position p bound)
    return id

/-- Reads what stands after the properties of a node. -/
def content (handles : Handles) (position : Position) (p : Properties) : Nat → NodeReader Node
  | 0 => refuse
  | bound + 1 => do
    match ← peek with
    | some (.scalar isPlain text) =>
      pass 1
      return scalarOf p isPlain text
    | some .openSequence =>
      pass 1
      return listOf p (← flowItems handles true bound)
    | some .openMapping =>
      pass 1
      return mapOf p (← flowEntries handles true bound)
    | t =>
      if t == some .item && position == .atKey then
        return listOf p (← sharedItems handles bound)
      else if t == some .blockSequence && position != .inFlow then
        pass 1
        return listOf p (← blockItems handles bound)
      else if t == some .blockMapping && position != .inFlow then
        pass 1
        return mapOf p (← blockEntries handles bound)
      else if p.anchor.isSome || p.isTagged then return scalarOf p true []
      else refuse

/-- Reads a node that may be left out, which it is if one of some tokens follows. -/
def optional (handles : Handles) (position : Position) (ends : List Token) :
    Nat → NodeReader Nat
  | 0 => refuse
  | bound + 1 => do if ← isNext ends then add .empty else node handles position bound

/-- Reads the value of a key, if its mark follows. -/
def valueOf (handles : Handles) (position : Position) (ends : List Token) :
    Nat → NodeReader Nat
  | 0 => refuse
  | bound + 1 => do
    if ← passIf .value then optional handles position ends bound else add .empty

/-- Reads the items of a block sequence up to its end. -/
def blockItems (handles : Handles) : Nat → NodeReader (List Nat)
  | 0 => refuse
  | bound + 1 => do
    if ← passIf .blockEnd then return []
    expect .item
    let v ← optional handles .inBlock [.item, .blockEnd] bound
    return v :: (← blockItems handles bound)

/-- Reads the items of a block sequence in the column of the key that it belongs to. -/
def sharedItems (handles : Handles) : Nat → NodeReader (List Nat)
  | 0 => refuse
  | bound + 1 => do
    if ← passIf .item then
      let v ← optional handles .inBlock [.item, .key, .value, .blockEnd] bound
      return v :: (← sharedItems handles bound)
    else return []

/-- Reads the entries of a block mapping up to its end. -/
def blockEntries (handles : Handles) : Nat → NodeReader (List (Nat × Nat))
  | 0 => refuse
  | bound + 1 => do
    if ← passIf .blockEnd then return []
    expect .key
    let k ← optional handles .atKey [.key, .value, .blockEnd] bound
    let v ← valueOf handles .atKey [.key, .value, .blockEnd] bound
    return (k, v) :: (← blockEntries handles bound)

/-- Reads the items of a flow sequence up to its end; before all but the first stands a comma.  A
key with its value is an item by itself. -/
def flowItems (handles : Handles) (isFirst : Bool) : Nat → NodeReader (List Nat)
  | 0 => refuse
  | bound + 1 => do
    if ← passIf .closeSequence then return []
    if !isFirst then expect .comma
    if ← passIf .closeSequence then return []
    let item ←
      if ← passIf .key then
        let k ← optional handles .inFlow [.value, .comma, .closeSequence] bound
        let v ← valueOf handles .inFlow [.comma, .closeSequence] bound
        add ⟨.map, .entries [(k, v)]⟩
      else node handles .inFlow bound
    return item :: (← flowItems handles false bound)

/-- Reads the entries of a flow mapping up to its end; before all but the first stands a comma. -/
def flowEntries (handles : Handles) (isFirst : Bool) : Nat → NodeReader (List (Nat × Nat))
  | 0 => refuse
  | bound + 1 => do
    if ← passIf .closeMapping then return []
    if !isFirst then expect .comma
    if ← passIf .closeMapping then return []
    let entry ←
      if ← passIf .key then
        let k ← optional handles .inFlow [.value, .comma, .closeMapping] bound
        let v ← valueOf handles .inFlow [.comma, .closeMapping] bound
        pure (k, v)
      else
        let k ← node handles .inFlow bound
        pure (k, ← add .empty)
    return entry :: (← flowEntries handles false bound)

end

/-! ### Documents -/

/-- Reads the directives before a document. -/
def directives : NodeReader (List Directive) := do
  let ts := (← get).tokens
  let said := ts.takeWhile fun t => t matches .directive _
  pass said.length
  return said.filterMap fun t =>
    match t with
    | .directive d => some d
    | _ => none

/-- Reads the node of a document that has a mark of its beginning. -/
def marked (bound : Nat) : NodeReader Nat := do
  let handles ← handlesOf (← directives)
  expect .documentStart
  match ← peek with
  | none | some (.directive _) | some .documentStart | some .documentEnd => add .empty
  | _ => node handles .inBlock bound

/-- Reads the node of the only document; there may be none. -/
def document (bound : Nat) : NodeReader (Option Nat) := do
  let n ←
    match ← peek with
    | none => return none
    | some (.directive _) | some .documentStart => marked bound
    | _ => node .common .inBlock bound
  modify fun a => { a with tokens := a.tokens.dropWhile (· == .documentEnd) }
  if (← peek).isSome then refuse
  return some n

end NodeReader

/-- The number of the node that a document is, and its nodes; an empty document is none. -/
def Nodes.ofTokens (ts : List Token) : Except Fault (Option Nat × Nodes) := do
  let (root, after) ← (NodeReader.document (4 * ts.length + 4)).run ⟨ts, [], #[], 0⟩
  return (root, after.nodes)

end SecurityMarking.Yaml
