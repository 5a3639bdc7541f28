/-
Merging maps into maps.

A key `<<` is none: its value is a map, or a list of maps, whose entries come before
those of the map that it stands in.  Of several maps the last comes first, so that for
a key that they share the first counts, as the map itself counts before them all.  A
map that is merged has its own merges done before.  As the merge of a map is taken out
before it is done, a map may be merged into itself.

A key `=` is a text once the merges of its map are done.

Each merge that is done leaves one less, as what is put in holds none, so a bound of the
number of entries in all maps, and one, is never reached.
-/
import SecurityMarking.Yaml.Node
import SecurityMarking.Yaml.Fault

namespace SecurityMarking.Yaml

/-- A change of the nodes of a document. -/
abbrev Rewriting := StateT Nodes (Except Fault)

namespace Nodes

/-- The numbers of the maps that a node merges into a map. -/
def sources (ns : Nodes) (id : Nat) : Except Fault (List Nat) :=
  match (ns.node id).content with
  | .text _ => .error .malformed
  | .entries _ => .ok [id]
  | .items ids =>
    let isMap (i : Nat) : Bool := (ns.node i).content matches .entries _
    if ids.all isMap then .ok ids else .error .malformed

/-- The value of the first merge among some entries, and the entries without it. -/
def firstMerge? (ns : Nodes) : List (Nat × Nat) → Option (Nat × List (Nat × Nat))
  | [] => none
  | (k, v) :: rest =>
    if (ns.node k).tag == .merge then some (v, rest)
    else (ns.firstMerge? rest).map fun (source, rest) => (source, (k, v) :: rest)

/-- The nodes where the keys `=` of some entries are texts. -/
def withTextKeys (ns : Nodes) (es : List (Nat × Nat)) : Nodes :=
  es.foldl (fun ns (k, _) => if (ns.node k).tag == .stand then ns.withTag k .text else ns) ns

/-- The number of entries in all maps. -/
def entryCount (ns : Nodes) : Nat :=
  ns.foldl (fun n node => match node.content with | .entries es => n + es.length | _ => n) 0

end Nodes

/-- Does the merges of a map, before whose entries others have been merged already. -/
def merge (merged : List (Nat × Nat)) (id : Nat) : Nat → Rewriting Unit
  | 0 => return
  | bound + 1 => do
    let es := (← get).entries id
    match (← get).firstMerge? es with
    | none => modify fun ns => (ns.withContent id (.entries (merged ++ es))).withTextKeys es
    | some (source, rest) =>
      modify fun ns => ns.withContent id (.entries rest)
      let parts ← (← (← get).sources source).mapM fun part => do
        merge [] part bound
        return (← get).entries part
      merge (merged ++ parts.reverse.flatten) id bound

end SecurityMarking.Yaml
