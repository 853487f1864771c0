import SchemaTemplate.Proofs.JsonText
import SchemaTemplate.Proofs.Transition

/-!
Logical ids. The ids of each kind of resource are numbered, and a number is never given twice: ids
with different numbers differ, and so do ids of different kinds. Whatever statements a session
handles, the ids in the template have the numbers of the keyspaces and tables created so far, so the
next id of either kind is a new one (`Registry.Numbered`).
-/

set_option autoImplicit false
set_option relaxedAutoImplicit false

namespace SchemaTemplate.Registry

/-- The logical id of the keyspace with a number. -/
def keyspaceIdOf (number : Nat) : String := "Keyspace" ++ toString number

/-- The logical id of the table with a number. -/
def tableIdOf (number : Nat) : String := "Table" ++ toString number

theorem toString_inj {first second : Nat} (hequal : toString first = toString second) :
    first = second := by
  have hdigits := congrArg String.toList hequal
  simp only [Nat.toString_eq_repr, Nat.repr, String.toList_ofList] at hdigits
  exact Json.toDigits_inj hdigits

/-- Ids that begin with the same word differ if their numbers do. -/
theorem numbered_inj (word : String) {first second : Nat}
    (hequal : word ++ toString first = word ++ toString second) : first = second := by
  have htext := congrArg String.toList hequal
  rw [String.toList_append, String.toList_append] at htext
  exact toString_inj (String.toList_injective (List.append_cancel_left htext))

/-- The id of a keyspace is never that of a table, as they begin with different letters. -/
theorem keyspaceIdOf_ne_tableIdOf (first second : Nat) : keyspaceIdOf first ≠ tableIdOf second := by
  intro hequal
  have hhead := congrArg (fun text : String ↦ text.toList.head?) hequal
  simp [keyspaceIdOf, tableIdOf] at hhead

/-- Whether every id in the template is that of a keyspace or a table created so far. -/
def Numbered (registry : Registry) : Prop :=
  ∀ logicalId ∈ registry.template.logicalIds,
    (∃ number ≤ registry.keyspaces.length, logicalId = keyspaceIdOf number) ∨
      ∃ number ≤ registry.tables.length, logicalId = tableIdOf number

namespace Numbered

variable {registry : Registry}

theorem empty : Registry.empty.Numbered := nofun

theorem withKeyspace (hnumbered : registry.Numbered) (keyspace : Identifier) :
    (registry.withKeyspace keyspace).Numbered := by
  intro logicalId hmem
  have hlength : (registry.withKeyspace keyspace).keyspaces.length =
      registry.keyspaces.length + 1 := List.length_append
  have hids : (registry.withKeyspace keyspace).template.logicalIds =
      registry.template.logicalIds ++ [registry.nextKeyspaceId] := List.map_append
  rw [hids] at hmem
  rcases List.mem_append.1 hmem with hbefore | hlast
  · obtain ⟨number, hnumber, rfl⟩ | htable := hnumbered logicalId hbefore
    · exact .inl ⟨number, by omega, rfl⟩
    · exact .inr htable
  · obtain rfl := List.mem_singleton.1 hlast
    exact .inl ⟨_, by omega, rfl⟩

theorem withTable (hnumbered : registry.Numbered) (keyspace table : Identifier)
    (resource : TableResource) : (registry.withTable keyspace table resource).Numbered := by
  intro logicalId hmem
  have hlength : (registry.withTable keyspace table resource).tables.length =
      registry.tables.length + 1 := List.length_append
  have hids : (registry.withTable keyspace table resource).template.logicalIds =
      registry.template.logicalIds ++ [registry.nextTableId] := List.map_append
  rw [hids] at hmem
  rcases List.mem_append.1 hmem with hbefore | hlast
  · obtain hkeyspace | ⟨number, hnumber, rfl⟩ := hnumbered logicalId hbefore
    · exact .inl hkeyspace
    · exact .inr ⟨number, by omega, rfl⟩
  · obtain rfl := List.mem_singleton.1 hlast
    exact .inr ⟨_, by omega, rfl⟩

theorem transition {strictness : Strictness} {statement : Statement} {next : Registry}
    (hnumbered : registry.Numbered)
    (htransition : Mapping.Transition strictness registry statement next) : next.Numbered := by
  cases htransition with
  | keyspaceUsed | keyspaceSkipped | tableSkipped => exact hnumbered
  | keyspaceCreated creation => exact hnumbered.withKeyspace creation.keyspace
  | tableCreated creation keyspace resource =>
    exact hnumbered.withTable keyspace creation.table resource

/-- A statement keeps the ids numbered, whether it succeeds or fails. -/
theorem handle {session : Session} (hnumbered : session.registry.Numbered)
    (statement : Statement) : (session.handle statement).1.registry.Numbered := by
  rcases session.registry_handle statement with ⟨next, -, hnext, htransition⟩ | ⟨_, -, hsame⟩
  · rw [hnext]
    exact hnumbered.transition htransition
  · rwa [hsame]

theorem nextKeyspaceId_new (hnumbered : registry.Numbered) :
    registry.nextKeyspaceId ∉ registry.template.logicalIds := by
  intro hmem
  obtain ⟨number, hnumber, hid⟩ | ⟨number, -, hid⟩ := hnumbered _ hmem
  · have hnext : registry.keyspaces.length + 1 = number := numbered_inj "Keyspace" hid
    omega
  · exact keyspaceIdOf_ne_tableIdOf _ _ hid

theorem nextTableId_new (hnumbered : registry.Numbered) :
    registry.nextTableId ∉ registry.template.logicalIds := by
  intro hmem
  obtain ⟨number, -, hid⟩ | ⟨number, hnumber, hid⟩ := hnumbered _ hmem
  · exact keyspaceIdOf_ne_tableIdOf _ _ hid.symm
  · have hnext : registry.tables.length + 1 = number := numbered_inj "Table" hid
    omega

end Numbered

/-- Whatever a session has handled, the ids in its template are numbered. -/
theorem numbered_handleAll (strictness : Strictness) (statements : List Statement) :
    ((Session.new strictness).handleAll statements).registry.Numbered :=
  Session.registry_handleAll_induction Numbered .empty Numbered.transition strictness statements

end SchemaTemplate.Registry
