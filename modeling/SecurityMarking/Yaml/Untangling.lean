/-
From objects to values.

A value holds its parts, so an object that stands in several places becomes a part of
the value in each of them.  An object that stands inside itself, at any depth, is a knot
there, named by the number of its node, and where it is met again the name stands for
it.

Which objects are knots is told by the names in what they hold: if one of an object
around the place or of the object itself is left, then the object stands inside itself.
A value with no name left in it is the same wherever it stands, so it is built once.

The objects around a place are all different, so a bound of their number, and one, is
never reached.
-/
import SecurityMarking.Yaml.Object
import SecurityMarking.Arrangement

namespace SecurityMarking.Yaml

/-- A value and the names in it of objects around it. -/
structure Tangle where
  value : Value
  names : List Nat

/-- The values that have been built and have no names of objects around them. -/
abbrev Untangling := StateM (Array (Option Value))

namespace Object

/-- The kind of value that an object becomes. -/
def kind : Object → Kind
  | scalar s => s.kind
  | list _ | pairs _ => .list
  | map _ => .map
  | set _ => .set

end Object

/-- The value of a list or a map, given what it holds: a knot if that has names in it.  A value with
no name left is kept. -/
def tied (id : Nat) (v : Value) (names : List Nat) : Untangling Tangle := do
  let left := names.filter (· != id)
  let v := if names.isEmpty then v else .knot id v
  if left.isEmpty then modify fun built => built.setIfInBounds id (some v)
  return ⟨v, left⟩

/-- The value of the object of a node, given the nodes around it. -/
def Objects.tangle (os : Objects) (around : List Nat) (id : Nat) : Nat → Untangling Tangle
  | 0 => return ⟨.null, []⟩
  | bound + 1 => do
    if let some v := (← get).getD id none then return ⟨v, []⟩
    let o := os.object id
    if around.contains id then return ⟨.again id o.kind, [id]⟩
    match o with
    | .scalar s => return ⟨.scalar s, []⟩
    | .set members => return ⟨.set (Scalar.arranged members), []⟩
    | .list ids =>
      let parts ← ids.mapM fun i => os.tangle (id :: around) i bound
      tied id (.list (parts.map Tangle.value)) (parts.flatMap Tangle.names)
    | .pairs es =>
      let parts ← es.mapM fun (k, v) => do
        let first ← os.tangle (id :: around) k bound
        let second ← os.tangle (id :: around) v bound
        return ⟨.pair first.value second.value, first.names ++ second.names⟩
      tied id (.list (parts.map Tangle.value)) (parts.flatMap Tangle.names)
    | .map es =>
      let parts ← es.mapM fun (k, v) => do return (k, ← os.tangle (id :: around) v bound)
      tied id (.map (parts.map fun (k, part) => (k, part.value)))
        (parts.flatMap fun (_, part) => part.names)

/-- The value of the object of a node. -/
def Objects.value (os : Objects) (id : Nat) : Value :=
  (Id.run ((os.tangle [] id (os.size + 1)).run (.replicate os.size none))).1.value

end SecurityMarking.Yaml
