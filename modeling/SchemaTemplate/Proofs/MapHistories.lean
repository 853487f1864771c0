import Mathlib.Data.List.Induction
import SchemaTemplate.Proofs.OrderedMaps
import SchemaTemplate.Schema.MapEdit

/-!
Maps and their histories. Searching, taking out by position and adding are passes of their own over
the entries, and they agree because no key comes twice, which every operation keeps. What a map
lists is then told by its history alone: the entries that were added and not removed since, in the
order in which they were added last (`entries_tell_history`).
-/

set_option autoImplicit false
set_option relaxedAutoImplicit false

namespace SchemaTemplate.OrderedMap

/-! ### Operations -/

/-- Taking out by position gives what is found, and takes out what is found. -/
theorem remove_eq {Key Value : Type} [DecidableEq Key] (map : OrderedMap Key Value) (key : Key) :
    map.remove key = (map.get? key, map.erase key) := by
  rw [remove, get?, erase, List.eraseP_eq_eraseIdx]
  cases hfirst : map.entries.findIdx? fun entry ↦ entry.1 = key with
  | none =>
    have hother := List.findIdx?_eq_none_iff.1 hfirst
    rw [List.find?_eq_none.2 fun entry hentry ↦ by simp [hother entry hentry]]
    rfl
  | some position =>
    obtain ⟨-, rfl⟩ := List.findIdx?_eq_some_iff_findIdx_eq.1 hfirst
    rw [List.find?_eq_getElem?_findIdx]

section

variable {Key Value : Type} [DecidableEq Key] [ToString Key] {map : OrderedMap Key Value}
variable {edits : List (Edit Key Value)} {edit : Edit Key Value} {entry : Key × Value}
variable {key : Key} {value : Value} {position : Nat}

theorem attempt_remove (map : OrderedMap Key Value) (key : Key) :
    map.attempt (.remove key) = (.removed (map.get? key), map.erase key) := by
  rw [attempt, remove_eq]

/-- Adding is refused exactly if the key is present, and otherwise puts the entry last. -/
theorem attempt_add (map : OrderedMap Key Value) (key : Key) (value : Value) :
    map.attempt (.add key value) =
      if key ∈ map.keys then (.refused (.duplicateProperty (toString key)), map)
      else (.added, ⟨map.toList ++ [(key, value)]⟩) := by
  by_cases hpresent : key ∈ map.keys
  · rw [attempt, define, (add_eq_error_iff map key key value).2 ⟨hpresent, rfl⟩, if_pos hpresent]
    rfl
  · rw [attempt, define, (add_eq_ok_iff map _ key value).2 ⟨hpresent, rfl⟩, if_neg hpresent]
    rfl

theorem attempt_add_eq_added_iff :
    (map.attempt (.add key value)).1 = .added ↔ key ∉ map.keys := by
  rw [attempt_add]
  split <;> simp_all

/-- An operation either leaves out entries or puts a new one last. -/
theorem toList_attempt (map : OrderedMap Key Value) (edit : Edit Key Value) :
    (map.attempt edit).2.toList.Sublist map.toList ∨
      ∃ entry : Key × Value, edit = .add entry.1 entry.2 ∧ entry.1 ∉ map.keys ∧
        (map.attempt edit).2.toList = map.toList ++ [entry] := by
  cases edit with
  | add key value =>
    rw [attempt_add]
    split
    · exact .inl (.refl _)
    · next hnew => exact .inr ⟨(key, value), rfl, hnew, rfl⟩
  | remove key =>
    rw [attempt_remove]
    exact .inl List.eraseP_sublist

theorem Distinct.attempt (hdistinct : map.Distinct) (edit : Edit Key Value) :
    (map.attempt edit).2.Distinct := by
  rcases toList_attempt map edit with hsublist | ⟨entry, -, hnew, hlast⟩
  · exact hdistinct.sublist (hsublist.map Prod.fst)
  · rw [Distinct, keys, ← toList, hlast]
    exact hdistinct.append hnew entry.2

/-- Under distinct keys, the entries behind an operation are those that it does not remove and the
one that it adds under a new key. -/
theorem mem_toList_attempt_iff (hdistinct : map.Distinct) :
    entry ∈ (map.attempt edit).2.toList ↔ (entry ∈ map.toList ∧ edit ≠ .remove entry.1) ∨
      (edit = .add entry.1 entry.2 ∧ entry.1 ∉ map.keys) := by
  cases edit with
  | add key value =>
    rw [attempt_add]
    split
    · next hpresent =>
      refine ⟨fun hmem ↦ .inl ⟨hmem, by simp⟩, ?_⟩
      rintro (⟨hmem, -⟩ | ⟨hadd, hnew⟩)
      · exact hmem
      · cases hadd
        exact absurd hpresent hnew
    · next hnew =>
      rw [toList, List.mem_append, List.mem_singleton]
      refine or_congr (by simp) ⟨?_, ?_⟩
      · rintro rfl
        exact ⟨rfl, hnew⟩
      · rintro ⟨hadd, -⟩
        cases hadd
        rfl
  | remove key =>
    rw [attempt_remove, toList, entries_erase hdistinct, List.mem_filter, toList]
    simp [eq_comm (a := key)]

/-! ### Histories -/

theorem after_concat (edits : List (Edit Key Value)) (edit : Edit Key Value) :
    after (edits ++ [edit]) = ((after edits).attempt edit).2 := by
  rw [after, List.foldl_append]
  rfl

theorem distinct_after (edits : List (Edit Key Value)) : (after edits).Distinct := by
  induction edits using List.reverseRecOn with
  | nil => exact List.nodup_nil
  | append_singleton edits edit ih =>
    rw [after_concat]
    exact ih.attempt edit

theorem AddedAt.lt_length (hadded : AddedAt edits entry position) : position < edits.length :=
  (List.getElem?_eq_some_iff.1 hadded.1).1

/-- One more operation adds an entry exactly where the history before it does, and at the end if it
adds it under a new key. -/
theorem addedAt_concat_iff : AddedAt (edits ++ [edit]) entry position ↔
    AddedAt edits entry position ∨
      (position = edits.length ∧ edit = .add entry.1 entry.2 ∧ entry.1 ∉ (after edits).keys) := by
  rw [AddedAt, AddedAt, attempt_add_eq_added_iff, attempt_add_eq_added_iff]
  rcases Nat.lt_trichotomy position edits.length with hbefore | rfl | hbehind
  · rw [List.getElem?_append_left hbefore, List.take_append_of_le_length (Nat.le_of_lt hbefore)]
    simp [Nat.ne_of_lt hbefore]
  · simp
  · rw [List.getElem?_eq_none (by simpa using Nat.succ_le_of_lt hbehind),
      List.getElem?_eq_none (Nat.le_of_lt hbehind)]
    simp [Nat.ne_of_gt hbehind]

omit [DecidableEq Key] [ToString Key] in
theorem removedBehind_concat_iff : RemovedBehind (edits ++ [edit]) key position ↔
    RemovedBehind edits key position ∨ (position < edits.length ∧ edit = .remove key) := by
  constructor
  · rintro ⟨later, hlater, hremove⟩
    rcases Nat.lt_trichotomy later edits.length with hbefore | rfl | hbehind
    · exact .inl ⟨later, hlater, by rwa [List.getElem?_append_left hbefore] at hremove⟩
    · exact .inr ⟨hlater, by simpa using hremove⟩
    · rw [List.getElem?_eq_none (by simpa using Nat.succ_le_of_lt hbehind)] at hremove
      cases hremove
  · rintro (⟨later, hlater, hremove⟩ | ⟨hlast, rfl⟩)
    · refine ⟨later, hlater, ?_⟩
      rwa [List.getElem?_append_left (List.getElem?_eq_some_iff.1 hremove).1]
    · exact ⟨edits.length, hlast, List.getElem?_concat_length⟩

/-- An entry that is present stays the latest one under its key. -/
theorem LatestAdd.concat (hlatest : LatestAdd edits entry position)
    (hpresent : entry.1 ∈ (after edits).keys) : LatestAdd (edits ++ [edit]) entry position := by
  refine ⟨addedAt_concat_iff.2 (.inl hlatest.added), fun later value hlater ↦ ?_⟩
  rcases addedAt_concat_iff.1 hlater with hbefore | ⟨-, -, hnew⟩
  · exact hlatest.latest later value hbefore
  · exact absurd hpresent hnew

/-- An entry that is added under a new key is the latest one under it. -/
theorem latestAdd_concat_length (hnew : entry.1 ∉ (after edits).keys) :
    LatestAdd (edits ++ [.add entry.1 entry.2]) entry edits.length := by
  refine ⟨addedAt_concat_iff.2 (.inr ⟨rfl, rfl, hnew⟩), fun later value hlater ↦ ?_⟩
  have hbound := hlater.lt_length
  rw [List.length_append, List.length_singleton] at hbound
  exact Nat.le_of_lt_succ hbound

/-- A map lists exactly the entries that were added and not removed since. -/
theorem mem_toList_after_iff (edits : List (Edit Key Value)) (entry : Key × Value) :
    entry ∈ (after edits).toList ↔
      ∃ position, LatestAdd edits entry position ∧ ¬ RemovedBehind edits entry.1 position := by
  induction edits using List.reverseRecOn with
  | nil =>
    refine ⟨fun hmem ↦ absurd hmem List.not_mem_nil, ?_⟩
    rintro ⟨position, hlatest, -⟩
    exact absurd hlatest.added.lt_length (Nat.not_lt_zero position)
  | append_singleton edits edit ih =>
    rw [after_concat, mem_toList_attempt_iff (distinct_after edits)]
    constructor
    · rintro (⟨hmem, hkept⟩ | ⟨rfl, hnew⟩)
      · obtain ⟨position, hlatest, hstays⟩ := ih.1 hmem
        refine ⟨position, hlatest.concat (List.mem_map_of_mem hmem), ?_⟩
        rw [removedBehind_concat_iff]
        rintro (hremoved | ⟨-, hremove⟩)
        · exact hstays hremoved
        · exact hkept hremove
      · refine ⟨edits.length, latestAdd_concat_length hnew, ?_⟩
        rw [removedBehind_concat_iff]
        rintro (⟨later, hlater, hremove⟩ | ⟨hlast, -⟩)
        · exact absurd (List.getElem?_eq_some_iff.1 hremove).1 (Nat.not_lt.2 (Nat.le_of_lt hlater))
        · exact absurd hlast (Nat.lt_irrefl _)
    · rintro ⟨position, hlatest, hstays⟩
      rw [removedBehind_concat_iff, not_or] at hstays
      rcases addedAt_concat_iff.1 hlatest.added with hbefore | ⟨-, hadd, hnew⟩
      · refine .inl ⟨ih.2 ⟨position, ⟨hbefore, fun later value hlater ↦ ?_⟩, hstays.1⟩, ?_⟩
        · exact hlatest.latest later value (addedAt_concat_iff.2 (.inl hlater))
        · exact fun hremove ↦ hstays.2 ⟨hbefore.lt_length, hremove⟩
      · exact .inr ⟨hadd, hnew⟩

/-- Whether a history adds an entry latest at an earlier position than another one. -/
def AddedEarlier (edits : List (Edit Key Value)) (older newer : Key × Value) : Prop :=
  ∃ first second, LatestAdd edits older first ∧ LatestAdd edits newer second ∧ first < second

/-- A map lists its entries in the order in which they were added last. -/
theorem pairwise_toList_after (edits : List (Edit Key Value)) :
    (after edits).toList.Pairwise (AddedEarlier edits) := by
  induction edits using List.reverseRecOn with
  | nil => exact .nil
  | append_singleton edits edit ih =>
    have hkept : (after edits).toList.Pairwise (AddedEarlier (edits ++ [edit])) := by
      refine ih.imp_of_mem ?_
      rintro older newer holder hnewer ⟨first, second, hfirst, hsecond, hlt⟩
      exact ⟨first, second, hfirst.concat (List.mem_map_of_mem holder),
        hsecond.concat (List.mem_map_of_mem hnewer), hlt⟩
    rw [after_concat]
    rcases toList_attempt (after edits) edit with hsublist | ⟨entry, rfl, hnew, hlast⟩
    · exact hkept.sublist hsublist
    · rw [hlast, List.pairwise_append]
      refine ⟨hkept, List.pairwise_singleton _ _, fun older holder newer hnewer ↦ ?_⟩
      obtain rfl := List.mem_singleton.1 hnewer
      obtain ⟨position, hlatest, -⟩ := (mem_toList_after_iff edits older).1 holder
      exact ⟨position, edits.length, hlatest.concat (List.mem_map_of_mem holder),
        latestAdd_concat_length hnew, hlatest.added.lt_length⟩

/-- Under distinct keys, removing an entry leaves those before and behind it. -/
theorem toList_attempt_remove (hdistinct : map.Distinct) {before behind : List (Key × Value)}
    (hsplit : map.toList = before ++ (key, value) :: behind) :
    (map.attempt (.remove key)).2.toList = before ++ behind := by
  obtain rfl : map = ⟨before ++ (key, value) :: behind⟩ := congrArg OrderedMap.mk hsplit
  rw [Distinct, keys, List.map_append, List.map_cons] at hdistinct
  have hnew : key ∉ before.map Prod.fst := notMem_of_nodup_append hdistinct
  rw [attempt_remove, toList, erase, List.eraseP_append_right _ fun other hother ↦ ?_]
  · rw [List.eraseP_cons_of_pos (by simp)]
  · rw [decide_eq_true_iff]
    rintro hsame
    exact hnew (hsame ▸ List.mem_map_of_mem hother)

/-- A map tells its history. Behind every sequence of additions and removals, with whatever keys, no
key comes twice, exactly the entries are found, and a key is present exactly if something is found
under it. Adding is refused exactly for a key that is present, which changes nothing, and otherwise
puts the entry last. Removing answers what is found, leaves the entries before and behind it in
their order, and changes nothing if nothing is found. So the map lists exactly the entries that were
added and not removed since, in the order of the latest additions under their keys, and it is equal
to another map exactly if they list the same entries in the same order. -/
theorem entries_tell_history (edits : List (Edit Key Value)) :
    let map := after edits
    map.Distinct ∧
      (∀ key value, map.get? key = some value ↔ (key, value) ∈ map.toList) ∧
      (∀ key, map.contains key = true ↔ (map.get? key).isSome = true) ∧
      (∀ key value, map.attempt (.add key value) =
        if map.contains key then (.refused (.duplicateProperty (toString key)), map)
        else (.added, ⟨map.toList ++ [(key, value)]⟩)) ∧
      (∀ key, (map.attempt (.remove key)).1 = .removed (map.get? key)) ∧
      (∀ key value before behind, map.toList = before ++ (key, value) :: behind →
        (map.attempt (.remove key)).2.toList = before ++ behind) ∧
      (∀ key, map.get? key = none → (map.attempt (.remove key)).2 = map) ∧
      (∀ entry, entry ∈ map.toList ↔
        ∃ position, LatestAdd edits entry position ∧ ¬ RemovedBehind edits entry.1 position) ∧
      map.toList.Pairwise (AddedEarlier edits) ∧
      ∀ other : OrderedMap Key Value, map = other ↔ map.toList = other.toList := by
  intro map
  have hdistinct : map.Distinct := distinct_after edits
  refine ⟨hdistinct, fun key value ↦ get?_eq_some_iff hdistinct, ?_, ?_, ?_, ?_, ?_,
    mem_toList_after_iff edits, pairwise_toList_after edits, ?_⟩
  · intro key
    rw [contains_iff, isSome_get?_iff]
  · intro key value
    simp only [attempt_add, contains_iff]
  · intro key
    rw [attempt_remove]
  · exact fun key value before behind hsplit ↦ toList_attempt_remove hdistinct hsplit
  · intro key hnone
    have hunlisted : ∀ entry ∈ map.entries, decide (entry.1 = key) ≠ true :=
      List.find?_eq_none.1 (Option.map_eq_none_iff.1 hnone)
    rw [attempt_remove, erase, List.eraseP_of_forall_not hunlisted]
  · exact fun other ↦ ⟨congrArg toList, congrArg OrderedMap.mk⟩

/-- A key that is removed and added again is listed last. -/
example : (after [.add "z" 1, .add "a" 2, .add "z" 3, .remove "z", .add "z" 4]).toList =
    [("a", 2), ("z", 4)] := by
  decide +kernel

end

end SchemaTemplate.OrderedMap
