/-
Configuration data.

A vocabulary comes from a document that may hold anything anywhere, so what is read
from it is a value: a scalar, a pair of values, a set of scalars, a list, or a map from
scalars to values in the order in which its keys first appear.

A list or a map may stand inside itself, at any depth.  Then it is a knot: it has a
name, and inside it the name stands for all of it.  Each list and map on the way from
one to the other is a knot too, for it stands inside itself as well; a pair is none, as
it stands in one list only, which is.  To look into a knot is to untie it, which puts
the knot in all places of its name; what is found there is again a value by itself.

In messages a value has the two forms of scalars.  A knot that is met again inside
itself is shown by dots.
-/
import SecurityMarking.Scalar

namespace SecurityMarking

/-- A piece of configuration data. -/
inductive Value
  | scalar (s : Scalar)
  | pair (first second : Value)
  | set (members : List Scalar)
  | list (items : List Value)
  | map (entries : List (Scalar × Value))
  /-- A list or a map that stands inside itself, under a name. -/
  | knot (name : Nat) (whole : Value)
  /-- The knot around this place that has the name, and is of the kind. -/
  | again (name : Nat) (kind : Kind)

instance : Inhabited Value := ⟨.scalar .null⟩

/-- Several texts with a comma and a space between each two. -/
def commaSeparated (ts : List Text) : Text := (", " : Text).intercalate ts

/-- Several texts in parentheses; one alone is followed by a comma. -/
def quotedTuple : List Text → Text
  | [t] => '(' :: t ++ [',', ')']
  | ts => '(' :: commaSeparated ts ++ [')']

namespace Value

/-- The value that is a text. -/
abbrev text (t : Text) : Value := .scalar (.text t)

/-- The value that says nothing. -/
abbrev null : Value := .scalar .null

/-- A text that may be absent, as a value. -/
def ofText? : Option Text → Value
  | none => null
  | some t => text t

def kind : Value → Kind
  | scalar s => s.kind
  | pair _ _ => .pair
  | set _ => .set
  | list _ => .list
  | map _ => .map
  | knot _ v => v.kind
  | again _ kind => kind

/-- Whether a value says something: a set, a list or a map does if it has items. -/
def isFilled : Value → Bool
  | scalar s => s.isFilled
  | set members => !members.isEmpty
  | list items => !items.isEmpty
  | map entries => !entries.isEmpty
  | knot _ v => v.isFilled
  | pair _ _ | again _ _ => true

/-! ### Looking into values -/

mutual

/-- The value with another in all places of a name. -/
def replace (name : Nat) (w : Value) : Value → Value
  | scalar s => scalar s
  | pair x y => pair (replace name w x) (replace name w y)
  | set members => set members
  | list items => list (replaceInItems name w items)
  | map entries => map (replaceInEntries name w entries)
  | knot inner v => if inner = name then knot inner v else knot inner (replace name w v)
  | again inner kind => if inner = name then w else again inner kind

/-- Several values with another in all places of a name. -/
def replaceInItems (name : Nat) (w : Value) : List Value → List Value
  | [] => []
  | v :: vs => replace name w v :: replaceInItems name w vs

/-- The entries of a map with another value in all places of a name. -/
def replaceInEntries (name : Nat) (w : Value) : List (Scalar × Value) → List (Scalar × Value)
  | [] => []
  | (k, v) :: rest => (k, replace name w v) :: replaceInEntries name w rest

end

/-- The value with its parts in sight. -/
def untied : Value → Value
  | knot name v => replace name (knot name v) v
  | v => v

/-- The entries of a map. -/
def entries? (v : Value) : Option (List (Scalar × Value)) :=
  match v.untied with
  | map entries => some entries
  | _ => none

/-- The items of a value that has several: those of a list, a pair or a set, the keys of a map, the
characters of a text, and the numbers of bytes. -/
def items? (v : Value) : Option (List Value) :=
  match v.untied with
  | list items => some items
  | pair x y => some [x, y]
  | set members => some (members.map scalar)
  | map entries => some (entries.map fun e => scalar e.1)
  | scalar (.text t) => some (t.map fun c => text [c])
  | scalar (.bytes bs) => some (bs.map fun b => scalar (.number b.toNat))
  | _ => none

/-! ### Forms -/

/-- What stands for a list or a map inside itself. -/
def dots : Kind → Text
  | .map => "\x7b...\x7d"
  | _ => "[...]"

mutual

/-- The value with texts between quotes, inside the knots of some names. -/
def quotedInside (names : List Nat) : Value → Text
  | scalar s => s.quoted
  | pair x y => quotedTuple [x.quotedInside names, y.quotedInside names]
  | set [] => "set()"
  | set members => '\x7b' :: commaSeparated (members.map Scalar.quoted) ++ ['\x7d']
  | list items => '[' :: commaSeparated (quotedItemsInside names items) ++ [']']
  | map entries => '\x7b' :: commaSeparated (quotedEntriesInside names entries) ++ ['\x7d']
  | knot name v => if names.contains name then dots v.kind else v.quotedInside (name :: names)
  | again _ kind => dots kind

/-- The quoted forms of several values. -/
def quotedItemsInside (names : List Nat) : List Value → List Text
  | [] => []
  | v :: vs => v.quotedInside names :: quotedItemsInside names vs

/-- The quoted forms of the entries of a map. -/
def quotedEntriesInside (names : List Nat) : List (Scalar × Value) → List Text
  | [] => []
  | (k, v) :: rest =>
    (k.quoted ++ ':' :: ' ' :: v.quotedInside names) :: quotedEntriesInside names rest

end

/-- The value with texts between quotes. -/
def quoted (v : Value) : Text := v.quotedInside []

/-- The value as it stands in a sentence. -/
def shown : Value → Text
  | scalar s => s.shown
  | v => v.quoted

mutual

/-- Whether a value can be written. -/
def isWritable : Value → Bool
  | scalar s => s.isWritable
  | pair x y => x.isWritable && y.isWritable
  | set members => members.all Scalar.isWritable
  | list items => areWritable items
  | map entries => areEntriesWritable entries
  | knot _ v => v.isWritable
  | again _ _ => true

/-- Whether several values can be written. -/
def areWritable : List Value → Bool
  | [] => true
  | v :: vs => v.isWritable && areWritable vs

/-- Whether the entries of a map can be written. -/
def areEntriesWritable : List (Scalar × Value) → Bool
  | [] => true
  | (k, v) :: rest => k.isWritable && v.isWritable && areEntriesWritable rest

end

/-! ### Comparing -/

mutual

/-- Whether two values are equal; scalars are if they are the same key. -/
def same : Value → Value → Bool
  | scalar a, scalar b => a.same b
  | pair a b, pair c d => a.same c && b.same d
  | set xs, set ys => xs.length == ys.length && xs.all fun x => ys.any x.same
  | list xs, list ys => sameItems xs ys
  | map xs, map ys => sameEntries xs ys
  | knot a x, knot b y => a == b && x.same y
  | again a _, again b _ => a == b
  | _, _ => false

/-- Whether two lists of values are equal. -/
def sameItems : List Value → List Value → Bool
  | [], [] => true
  | x :: xs, y :: ys => x.same y && sameItems xs ys
  | _, _ => false

/-- Whether two maps have equal entries in the same order. -/
def sameEntries : List (Scalar × Value) → List (Scalar × Value) → Bool
  | [], [] => true
  | (k, x) :: xs, (l, y) :: ys => k.same l && x.same y && sameEntries xs ys
  | _, _ => false

end

/-- The kind in a value that keeps it from being a key: only scalars and pairs of keys are. -/
def keyFault? : Value → Option Kind
  | scalar _ => none
  | pair x y => x.keyFault?.or y.keyFault?
  | v => some v.kind

/-- A text is equal to itself only. -/
@[simp] theorem same_text (s t : Text) : same (.text s) (.text t) = decide (s = t) := by
  simp [same]

end Value

/-- A list of texts between brackets, each between quotes. -/
def quotedTexts (ts : List Text) : Text := (Value.list (ts.map .text)).quoted

end SecurityMarking
