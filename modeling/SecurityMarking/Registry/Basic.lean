/-
Registries: the controls of one vocabulary and how they are found.

Each control is found by its key, by its banner names and by its portion names,
and the three are kept apart: a portion name is not found as a banner name.  An
index holds the uses of names of one sort in the order in which they were
declared.  A registry is built control by control, and a name that is empty or
already in its index ends the building, so that in a registry each name leads to
one control.
-/
import SecurityMarking.Registry.PrefixMatch

namespace SecurityMarking

/-- The uses of names of one sort: each name with its control, in order of declaration. -/
abbrev Index := List (Value × Entry)

namespace Index

/-- The control that uses a name. -/
def find? (name : Value) (ix : Index) : Option Entry :=
  (List.find? (fun use => use.1.same name) ix).map (·.2)

/-- Adds a use of a name.  It has to say something, to be of a kind that can be a key and to be
new. -/
def add (registry : Scalar) (space : NameSpace) (e : Entry) (ix : Index) (name : Value) :
    Except Failure Index :=
  if name.isFilled then
    match name.keyFault? with
    | some kind => .error (.misuse (.notAKey kind))
    | none =>
      match ix.find? name with
      | some first =>
        .error (ConfigurationFault.sharedName registry space name first.key e.key).raised
      | none => .ok (ix ++ [(name, e)])
  else .error (ConfigurationFault.emptyName registry space e.key).raised

end Index

/-- The three indexes of a registry. -/
structure Indexes where
  keys : Index
  bannerNames : Index
  portionNames : Index

namespace Indexes

/-- The indexes of no controls. -/
def empty : Indexes := ⟨[], [], []⟩

/-- Adds the key and the names of a control, which has to have a name of each sort. -/
def add (registry : Scalar) (ixs : Indexes) (e : Entry) : Except Failure Indexes :=
  if e.bannerNames.isEmpty || e.portionNames.isEmpty then
    .error (ConfigurationFault.noNames registry e.key).raised
  else do
    let keys ← Index.add registry .key e ixs.keys e.key
    let bannerNames ← e.bannerNames.foldlM (Index.add registry .bannerName e) ixs.bannerNames
    let portionNames ← e.portionNames.foldlM (Index.add registry .portionName e) ixs.portionNames
    return ⟨keys, bannerNames, portionNames⟩

end Indexes

/-- The controls of one vocabulary. -/
structure Registry where
  name : Scalar
  /-- The controls in order of declaration. -/
  entries : List Entry
  indexes : Indexes

namespace Registry

/-- The registry of controls that can stand together. -/
def ofEntries (name : Scalar) (es : List Entry) : Except Failure Registry := do
  let indexes ← es.foldlM (Indexes.add name) .empty
  return ⟨name, es, indexes⟩

/-- The number of controls. -/
def size (r : Registry) : Nat := r.entries.length

/-- The keys of the controls in order of declaration. -/
def keys (r : Registry) : List Value := r.entries.map Entry.key

/-- The control with that banner name.  A missing or empty text names none. -/
def findByBannerName? (r : Registry) : Option Text → Option Entry
  | none => none
  | some t => if t.isEmpty then none else r.indexes.bannerNames.find? (.text t)

/-- The control with that portion name.  A missing or empty text names none. -/
def findByPortionName? (r : Registry) : Option Text → Option Entry
  | none => none
  | some t => if t.isEmpty then none else r.indexes.portionNames.find? (.text t)

/-- The control with that key, if the value is a key of one. -/
def find? (r : Registry) (key : Value) : Option Entry := r.indexes.keys.find? key

/-- The control with that key. -/
def get (r : Registry) (key : Value) : Except Failure Entry :=
  match r.find? key with
  | some e => .ok e
  | none => .error (.unknownControl (.scalar r.name) key)

/-- Whether a control has that key.  A value of a kind that cannot be a key cannot be asked for. -/
def contains (r : Registry) (key : Value) : Except Failure Bool :=
  match key.keyFault? with
  | some kind => .error (.misuse (.notAKey kind))
  | none => .ok (r.find? key).isSome

/-- The first control that has a name which begins the text. -/
def match? (r : Registry) (text : Option Text) : Except Failure (Option Entry) :=
  PrefixMatch.find? r.entries text

/-- A short description of the registry. -/
def expression (r : Registry) : Text :=
  Text.concat ["ControlRegistry(", r.name.quoted, ", ", Numeral.write r.size, " controls)"]

end Registry

end SecurityMarking
