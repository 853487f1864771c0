import SchemaTemplate.Schema.Settings

/-!
The operations on ordered maps as data, so that histories of them can be spoken of.
`OrderedMap.remove` looks the entry up and takes it out by its position, which is another pass over
the entries than `OrderedMap.get?` makes. `OrderedMap.attempt` answers an operation, and
`OrderedMap.after` carries out a history on a map without entries. An entry is the one that was
added latest under its key by `LatestAdd`, at a position of the history.
-/

set_option autoImplicit false
set_option relaxedAutoImplicit false

namespace SchemaTemplate.OrderedMap

/-- An operation on a map, with what it is called with. -/
inductive Edit (Key Value : Type)
  | add (key : Key) (value : Value)
  | remove (key : Key)
  deriving DecidableEq, Repr

/-- What an operation on a map answers. -/
inductive Answer (Value : Type)
  | added
  | refused (fault : SchemaFault)
  | removed (value : Option Value)
  deriving DecidableEq, Repr

variable {Key Value : Type} [DecidableEq Key]

/-- Takes out the entry at the first position under a key, and gives its value. -/
def remove (map : OrderedMap Key Value) (key : Key) : Option Value × OrderedMap Key Value :=
  match map.entries.findIdx? fun entry ↦ entry.1 = key with
  | none => (none, map)
  | some position =>
    ((map.entries[position]?).map Prod.snd, ⟨map.entries.eraseIdx position⟩)

variable [ToString Key]

/-- What an operation on a map answers, and the map that it leaves. -/
def attempt (map : OrderedMap Key Value) : Edit Key Value → Answer Value × OrderedMap Key Value
  | .add key value =>
    match map.define key value with
    | .ok next => (.added, next)
    | .error fault => (.refused fault, map)
  | .remove key =>
    let (value, next) := map.remove key
    (.removed value, next)

/-- The map that a history of operations leaves of one without entries. -/
def after (edits : List (Edit Key Value)) : OrderedMap Key Value :=
  edits.foldl (fun map edit ↦ (map.attempt edit).2) empty

/-- Whether a history adds an entry at a position, and is not refused. -/
def AddedAt (edits : List (Edit Key Value)) (entry : Key × Value) (position : Nat) : Prop :=
  edits[position]? = some (.add entry.1 entry.2) ∧
    ((after (edits.take position)).attempt (.add entry.1 entry.2)).1 = .added

/-- Whether a history adds an entry at a position, and nothing under its key later on. -/
structure LatestAdd (edits : List (Edit Key Value)) (entry : Key × Value) (position : Nat) :
    Prop where
  added : AddedAt edits entry position
  latest : ∀ later value, AddedAt edits (entry.1, value) later → later ≤ position

/-- Whether a history removes what is under a key behind a position. -/
def RemovedBehind (edits : List (Edit Key Value)) (key : Key) (position : Nat) : Prop :=
  ∃ later, position < later ∧ edits[later]? = some (.remove key)

end SchemaTemplate.OrderedMap
