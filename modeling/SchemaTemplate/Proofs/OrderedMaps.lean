import Mathlib.Data.List.Nodup
import Mathlib.Data.List.Perm.Basic
import SchemaTemplate.Schema.Soundness

/-!
Looking up the entries of a map and taking them out. The key of an entry that is found is present,
and the map holds the entry and those that are left without it, in some order. Under distinct keys
every entry is found under its key, and taking out the entry under a key is leaving out all entries
under it.
-/

set_option autoImplicit false
set_option relaxedAutoImplicit false

namespace SchemaTemplate

/-! ### Entries in a list -/

/-- In a list of entries with distinct keys every entry is found under its key. -/
theorem lookup_of_mem {Key Value : Type} [BEq Key] [LawfulBEq Key] {entries : List (Key × Value)}
    (hdistinct : (entries.map Prod.fst).Nodup) {entry : Key × Value} (hmem : entry ∈ entries) :
    entries.lookup entry.1 = some entry.2 := by
  obtain ⟨before, after, rfl⟩ := List.append_of_mem hmem
  rw [List.map_append, List.map_cons] at hdistinct
  have hnew := notMem_of_nodup_append hdistinct
  rw [List.lookup_eq_some_iff]
  refine ⟨before, after, rfl, ?_⟩
  intro other hother
  rw [bne_iff_ne]
  rintro hsame
  exact hnew (hsame ▸ List.mem_map_of_mem hother)

/-- In a list of entries with distinct keys exactly the entries are found. -/
theorem lookup_eq_some_iff_mem {Key Value : Type} [BEq Key] [LawfulBEq Key]
    {entries : List (Key × Value)} (hdistinct : (entries.map Prod.fst).Nodup) {key : Key}
    {value : Value} : entries.lookup key = some value ↔ (key, value) ∈ entries := by
  constructor
  · intro hfound
    obtain ⟨before, after, rfl, -⟩ := List.lookup_eq_some_iff.1 hfound
    simp
  · exact fun hmem ↦ lookup_of_mem hdistinct hmem

namespace OrderedMap

variable {Key Value : Type} [DecidableEq Key] {map : OrderedMap Key Value}

/-! ### Taking entries out of a map -/

/-- A value is found exactly under the keys that are present. -/
theorem isSome_get?_iff (map : OrderedMap Key Value) (key : Key) :
    (map.get? key).isSome = true ↔ key ∈ map.keys := by
  simp [get?, keys]

/-- A map holds an entry that is found and those that are left when it is taken out. -/
theorem toList_perm_of_get? {key : Key} {value : Value} (hfound : map.get? key = some value) :
    map.toList.Perm ((key, value) :: (map.erase key).toList) := by
  obtain ⟨entries⟩ := map
  induction entries with
  | nil => cases hfound
  | cons entry entries ih =>
    simp only [get?, toList, erase] at hfound ih ⊢
    by_cases hsame : entry.1 = key
    · rw [List.find?_cons_of_pos (by simpa using hsame)] at hfound
      obtain rfl : entry = (key, value) := Prod.ext hsame (Option.some.inj hfound)
      rw [List.eraseP_cons_of_pos (by simp)]
    · rw [List.find?_cons_of_neg (by simpa using hsame)] at hfound
      rw [List.eraseP_cons_of_neg (by simpa using hsame)]
      exact ((ih hfound).cons entry).trans (.swap _ _ _)

/-- Assumes: entries under other keys. A map holds these and one more exactly if the one is found
and taking it out leaves the others. -/
theorem toList_perm_cons_iff {key : Key} {value : Value} {others : List (Key × Value)}
    (hother : key ∉ others.map Prod.fst) : map.toList.Perm ((key, value) :: others) ↔
      map.get? key = some value ∧ (map.erase key).toList.Perm others := by
  constructor
  · intro hperm
    have hpresent : (map.get? key).isSome = true := by
      rw [isSome_get?_iff]
      exact List.mem_map_of_mem (hperm.mem_iff.2 List.mem_cons_self)
    obtain ⟨found, hfound⟩ := Option.isSome_iff_exists.1 hpresent
    have hsplit := (toList_perm_of_get? hfound).symm.trans hperm
    obtain ⟨-, rfl⟩ | hlisted : (key = key ∧ found = value) ∨ (key, found) ∈ others := by
      simpa using hsplit.mem_iff.1 List.mem_cons_self
    · exact ⟨hfound, hsplit.cons_inv⟩
    · exact absurd (List.mem_map_of_mem hlisted) hother
  · rintro ⟨hfound, hleft⟩
    exact (toList_perm_of_get? hfound).trans (hleft.cons _)

/-- Assumes: a key that is found. Nothing is left without its entry exactly if it is the only
key. -/
theorem firstKey?_erase_eq_none_iff {key : Key} {value : Value}
    (hfound : map.get? key = some value) :
    (map.erase key).firstKey? = none ↔ map.keys = [key] := by
  have hsplit := toList_perm_of_get? hfound
  rw [firstKey?, Option.map_eq_none_iff, List.head?_eq_none_iff]
  constructor
  · intro hnone
    rw [toList, toList, hnone, List.perm_singleton] at hsplit
    rw [keys, hsplit, List.map_singleton]
  · intro honly
    have hlength := hsplit.length_eq
    rw [List.length_cons, toList, toList, ← List.length_map Prod.fst, ← keys, honly] at hlength
    exact List.length_eq_zero_iff.1 (Nat.succ.inj hlength).symm

/-! ### Maps with distinct keys -/

theorem get?_eq_lookup (map : OrderedMap Key Value) (key : Key) :
    map.get? key = map.entries.lookup key := by
  obtain ⟨entries⟩ := map
  induction entries with
  | nil => rfl
  | cons entry entries ih =>
    rw [get?] at ih ⊢
    by_cases hsame : entry.1 = key
    · rw [← hsame, List.lookup_cons_self]
      simp
    · have hdifferent : (key == entry.1) = false := by simpa using Ne.symm hsame
      rw [List.find?_cons_of_neg (by simpa using hsame), List.lookup_cons, hdifferent]
      exact ih

/-- Under distinct keys exactly the entries are found. -/
theorem get?_eq_some_iff (hdistinct : map.Distinct) {key : Key} {value : Value} :
    map.get? key = some value ↔ (key, value) ∈ map.toList := by
  rw [get?_eq_lookup]
  exact lookup_eq_some_iff_mem hdistinct

/-- Under distinct keys, entries are those of a map in some order exactly if they have the keys of
the map and are found in it. -/
theorem toList_perm_iff (hdistinct : map.Distinct) {entries : List (Key × Value)}
    (hkeys : (entries.map Prod.fst).Nodup) : map.toList.Perm entries ↔
      (∀ key, key ∈ map.keys ↔ key ∈ entries.map Prod.fst) ∧
        ∀ entry ∈ entries, entry ∈ map.toList := by
  constructor
  · exact fun hperm ↦
      ⟨fun key ↦ (hperm.map Prod.fst).mem_iff, fun entry hmem ↦ hperm.mem_iff.2 hmem⟩
  · rintro ⟨hsame, hfound⟩
    refine (List.perm_ext_iff_of_nodup (.of_map _ hdistinct) (.of_map _ hkeys)).2 fun entry ↦
      ⟨fun hmem ↦ ?_, hfound entry⟩
    obtain ⟨other, hother, hkey⟩ := List.mem_map.1 ((hsame entry.1).1 (List.mem_map_of_mem hmem))
    have hvalue := (get?_eq_some_iff hdistinct).2 (hfound other hother)
    rw [hkey, (get?_eq_some_iff hdistinct).2 hmem, Option.some.injEq] at hvalue
    obtain rfl : other = entry := Prod.ext hkey hvalue.symm
    exact hother

/-- Under distinct keys, taking out an entry is leaving out the entries under its key. -/
theorem entries_erase (hdistinct : map.Distinct) (key : Key) :
    (map.erase key).entries = map.entries.filter fun entry ↦ entry.1 ≠ key := by
  obtain ⟨entries⟩ := map
  induction entries with
  | nil => rfl
  | cons entry entries ih =>
    obtain ⟨hnew, hrest⟩ := List.nodup_cons.1 hdistinct
    by_cases htaken : entry.1 = key
    · have hothers : ∀ other ∈ entries, decide (other.1 ≠ key) = true := by
        rintro other hother
        rw [decide_eq_true_iff, ← htaken]
        rintro hsame
        exact hnew (hsame ▸ List.mem_map_of_mem hother)
      rw [erase, List.eraseP_cons_of_pos (by simpa using htaken),
        List.filter_cons_of_neg (by simpa using htaken), List.filter_eq_self.2 hothers]
    · rw [erase, List.eraseP_cons_of_neg (by simpa using htaken),
        List.filter_cons_of_pos (by simpa using htaken), ← ih hrest, erase]

/-- Under distinct keys, taking out several entries is leaving out the entries under their keys. -/
theorem entries_foldl_erase (hdistinct : map.Distinct) (keys : List Key) :
    (keys.foldl erase map).entries = map.entries.filter fun entry ↦ entry.1 ∉ keys := by
  induction keys generalizing map with
  | nil => simp
  | cons key keys ih =>
    have hleft : (map.erase key).Distinct :=
      hdistinct.sublist (List.eraseP_sublist.map Prod.fst)
    rw [List.foldl_cons, ih hleft, entries_erase hdistinct, List.filter_filter]
    refine List.filter_congr fun entry _ ↦ ?_
    simp [Bool.and_comm]

end OrderedMap

end SchemaTemplate
