/-
Nodes: a document with its shape made plain.

A document is one node, and a node is a scalar, a list of nodes, or a map from nodes to
nodes.  Keys and values that are left out are empty scalars.  A node that has a name
may stand in several places, even inside itself, so nodes have numbers, and what a list
or a map holds are the numbers of nodes.
-/
import SecurityMarking.Yaml.Tag

namespace SecurityMarking.Yaml

/-- What a node is made of; other nodes stand by their numbers. -/
inductive Content
  | text (t : Text)
  | items (ids : List Nat)
  | entries (es : List (Nat × Nat))

/-- A part of a document. -/
structure Node where
  tag : Tag
  content : Content

/-- A node that is left out. -/
def Node.empty : Node := ⟨.null, .text []⟩

/-- The nodes of a document by their numbers. -/
abbrev Nodes := Array Node

namespace Nodes

/-- The node of a number. -/
def node (ns : Nodes) (id : Nat) : Node := ns.getD id .empty

/-- The entries of a node that is a map. -/
def entries (ns : Nodes) (id : Nat) : List (Nat × Nat) :=
  match (ns.node id).content with
  | .entries es => es
  | _ => []

/-- The nodes with other contents of one. -/
def withContent (ns : Nodes) (id : Nat) (content : Content) : Nodes :=
  ns.modify id fun n => { n with content := content }

/-- The nodes with another tag of one. -/
def withTag (ns : Nodes) (id : Nat) (tag : Tag) : Nodes :=
  ns.modify id fun n => { n with tag := tag }

end Nodes

end SecurityMarking.Yaml
