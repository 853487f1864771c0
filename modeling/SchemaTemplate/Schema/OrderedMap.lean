/-!
Maps that remember the order in which their keys were added and refuse a second value for a key.
A map is its list of entries, so two maps are equal exactly when they list the same entries in the
same order. `OrderedMap.add` puts an entry last, `OrderedMap.erase` takes one out and leaves the
others in their order.
-/

set_option autoImplicit false
set_option relaxedAutoImplicit false

namespace SchemaTemplate

/-- A map as the list of its entries, the oldest first. -/
structure OrderedMap (Key Value : Type) where
  entries : List (Key × Value)
  deriving DecidableEq, Repr

namespace OrderedMap

variable {Key Value : Type}

/-- The map without entries. -/
def empty : OrderedMap Key Value := ⟨[]⟩

instance : EmptyCollection (OrderedMap Key Value) := ⟨empty⟩

instance : Inhabited (OrderedMap Key Value) := ⟨empty⟩

/-- The keys, the oldest first. -/
def keys (map : OrderedMap Key Value) : List Key := map.entries.map Prod.fst

/-- The entries, the oldest first. -/
def toList (map : OrderedMap Key Value) : List (Key × Value) := map.entries

/-- The number of entries. -/
def size (map : OrderedMap Key Value) : Nat := map.entries.length

/-- Whether the map has no entry. -/
def isEmpty (map : OrderedMap Key Value) : Bool := map.entries.isEmpty

/-- The key that was added first among those present. -/
def firstKey? (map : OrderedMap Key Value) : Option Key := map.entries.head?.map Prod.fst

variable [DecidableEq Key]

/-- Whether a key is present. -/
def contains (map : OrderedMap Key Value) (key : Key) : Bool :=
  map.entries.any fun entry ↦ entry.1 = key

/-- The value under a key. -/
def get? (map : OrderedMap Key Value) (key : Key) : Option Value :=
  (map.entries.find? fun entry ↦ entry.1 = key).map Prod.snd

/-- Adds an entry at the end, or fails with the key when it is present already. -/
def add (map : OrderedMap Key Value) (key : Key) (value : Value) :
    Except Key (OrderedMap Key Value) :=
  if map.contains key then .error key else .ok ⟨map.entries ++ [(key, value)]⟩

/-- A key is present exactly if it is listed. -/
theorem contains_iff (map : OrderedMap Key Value) (key : Key) :
    map.contains key = true ↔ key ∈ map.keys := by
  simp [contains, keys]

/-- Adding succeeds exactly for a new key, and then puts the entry last. -/
theorem add_eq_ok_iff (map next : OrderedMap Key Value) (key : Key) (value : Value) :
    map.add key value = .ok next ↔ key ∉ map.keys ∧ next = ⟨map.entries ++ [(key, value)]⟩ := by
  by_cases present : map.contains key = true
  · simp [add, present, (map.contains_iff key).1 present]
  · have absent : key ∉ map.keys := fun listed ↦ present ((map.contains_iff key).2 listed)
    simp [add, present, absent, eq_comm]

/-- Adding fails exactly for a key that is present, and names it. -/
theorem add_eq_error_iff (map : OrderedMap Key Value) (key repeated : Key) (value : Value) :
    map.add key value = .error repeated ↔ key ∈ map.keys ∧ repeated = key := by
  by_cases present : map.contains key = true
  · simp [add, present, (map.contains_iff key).1 present, eq_comm]
  · have absent : key ∉ map.keys := fun listed ↦ present ((map.contains_iff key).2 listed)
    simp [add, present, absent]

/-- Takes out the entry under a key, if there is one. -/
def erase (map : OrderedMap Key Value) (key : Key) : OrderedMap Key Value :=
  ⟨map.entries.eraseP fun entry ↦ entry.1 = key⟩

/-- Taking out an entry does not change what is found under other keys. -/
theorem get?_erase_of_ne (map : OrderedMap Key Value) {key other : Key} (different : other ≠ key) :
    (map.erase key).get? other = map.get? other := by
  obtain ⟨entries⟩ := map
  induction entries with
  | nil => rfl
  | cons entry entries ih =>
    simp only [erase, get?] at ih ⊢
    by_cases taken : entry.1 = key
    · simp [taken, different.symm]
    · rw [List.eraseP_cons_of_neg (by simpa using taken)]
      by_cases found : entry.1 = other <;> simp [found, ih]

/-- Adds entries one after the other, or fails with the first key that comes twice. -/
def ofList (entries : List (Key × Value)) : Except Key (OrderedMap Key Value) :=
  entries.foldlM (fun map entry ↦ map.add entry.1 entry.2) empty

end OrderedMap

end SchemaTemplate
