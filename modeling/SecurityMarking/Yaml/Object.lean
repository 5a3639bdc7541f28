/-
Objects: what the nodes of a document say.

Each node says one object, however often it stands in the document.  An object is a
scalar or holds the objects of other nodes, which stand by the numbers of their nodes.
Only scalars can be keys; of equal keys the later value counts, and the first keeps the
place.

What is wrong with the nodes is looked for from the outermost inwards: in a map or a
list first, then in those that stand in it, in the order in which they are met.  So a
document is refused for the first fault that is least deep.

Each round begins all that was found in the one before, and a node is begun once, so
there are no more rounds than nodes.
-/
import SecurityMarking.Yaml.Merge
import SecurityMarking.Yaml.Spelling.Scalar
import SecurityMarking.Value

namespace SecurityMarking.Yaml

/-- What a node says; other objects stand by the numbers of their nodes. -/
inductive Object
  | scalar (s : Scalar)
  | list (ids : List Nat)
  | pairs (es : List (Nat × Nat))
  | map (es : List (Scalar × Nat))
  | set (members : List Scalar)

/-- The objects of a document by the numbers of their nodes; none for a node that has not been
begun. -/
abbrev Objects := Array (Option Object)

/-- The object of a node. -/
def Objects.object (os : Objects) (id : Nat) : Object := (os.getD id none).getD (.scalar .null)

/-- The text of a node.  That of a map is the text of its key `=`, which may be deeper in; the nodes
on the way there are different unless it has no end. -/
def Nodes.text (ns : Nodes) (id : Nat) : Nat → Except Fault Text
  | 0 => .error (.misuse .tooDeep)
  | bound + 1 =>
    match (ns.node id).content with
    | .text t => .ok t
    | .items _ => .error .malformed
    | .entries es =>
      match es.find? fun (k, _) => (ns.node k).tag == .stand with
      | some (_, v) => ns.text v bound
      | none => .error .malformed

/-- The scalar that a node says.  A date is looked for only in a scalar, and what is no number is
marked by the number of its node. -/
def Nodes.scalar (ns : Nodes) (id : Nat) : Except Fault Scalar := do
  let n := ns.node id
  if n.tag matches .merge | .stand | .unknown then throw .malformed
  let t ← ns.text id (ns.size + 1)
  if n.tag == .moment && !(n.content matches .text _) then throw (.misuse .momentNotText)
  n.tag.readScalar (id + 1) t

/-- How far the objects of a document are built. -/
structure Building where
  nodes : Nodes
  objects : Objects
  /-- The nodes that have been begun and hold others that have not, the last first. -/
  begun : List Nat
  /-- The number of entries in all maps. -/
  entryCount : Nat

/-- A step in building the objects of a document. -/
abbrev Builder := StateT Building (Except Fault)

namespace Builder

/-- Tells what a node says. -/
def tell (id : Nat) (o : Object) : Builder Unit :=
  modify fun b => { b with objects := b.objects.setIfInBounds id (some o) }

/-- Begins a node, unless that has been done: a scalar says what it says at once, and any other node
is empty at first. -/
def begin (id : Nat) : Builder Object := do
  if let some o := (← get).objects.getD id none then return o
  let tag := ((← get).nodes.node id).tag
  if tag matches .list | .map | .set | .pairs then
    let o : Object := .list []
    tell id o
    modify fun b => { b with begun := id :: b.begun }
    return o
  else
    let o := .scalar (← (← get).nodes.scalar id)
    tell id o
    return o

/-- Begins a node that is to be a key. -/
def beginKey (id : Nat) : Builder Scalar := do
  match ← begin id with
  | .scalar s => return s
  | _ => throw .malformed

/-- Begins the keys and the values of a map whose merges are done. -/
def beginEntries (id : Nat) : Builder (List (Scalar × Nat)) := do
  let nodes ← modifyGet fun b => (b.nodes, { b with nodes := #[] })
  let ((), nodes) ← (merge [] id ((← get).entryCount + 1)).run nodes
  modify fun b => { b with nodes := nodes }
  let entries ← ((← get).nodes.entries id).mapM fun (k, v) => do
    let key ← beginKey k
    let _ ← begin v
    return (key, v)
  return entries.foldl (fun es (k, v) => k.insertIn v es) []

/-- Begins the key and the value of a map that is to be a pair. -/
def beginPair (id : Nat) : Builder (Nat × Nat) := do
  match ((← get).nodes.node id).content with
  | .entries [(k, v)] =>
    let _ ← begin k
    let _ ← begin v
    return (k, v)
  | _ => throw .malformed

/-- Begins what stands in a node. -/
def fill (id : Nat) : Builder Unit := do
  let n := (← get).nodes.node id
  match n.tag, n.content with
  | .list, .items ids =>
    ids.forM fun i => do let _ ← begin i
    tell id (.list ids)
  | .pairs, .items ids => tell id (.pairs (← ids.mapM beginPair))
  | .map, .entries _ => tell id (.map (← beginEntries id))
  | .set, .entries _ => tell id (.set ((← beginEntries id).map (·.1)))
  | _, _ => throw .malformed

/-- Begins what stands in the nodes that have been begun, round by round. -/
def fillAll : Nat → Builder Unit
  | 0 => return
  | bound + 1 => do
    let round := (← get).begun
    if round.isEmpty then return
    modify fun b => { b with begun := [] }
    round.reverse.forM fill
    fillAll bound

end Builder

/-- The objects that the nodes of a document say, of those that stand in one. -/
def Objects.ofNodes (ns : Nodes) (root : Nat) : Except Fault Objects := do
  let building : Building := ⟨ns, .replicate ns.size none, [], ns.entryCount⟩
  let filled ← (do let _ ← Builder.begin root; Builder.fillAll (ns.size + 1)).run building
  return filled.2.objects

end SecurityMarking.Yaml
