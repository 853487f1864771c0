import Mathlib.Data.List.Basic
import SchemaTemplate.Proofs.JsonText
import SchemaTemplate.Template.Basic

/-!
The text of a template determines its resources. The form of a value determines the value, because
each intrinsic function is told by the name of its one field; the form of a table determines the
table, although fields that say nothing are left out, because each field is found by its name. With
the texts of JSON values told apart, `Template.render_injective` follows.
-/

set_option autoImplicit false
set_option relaxedAutoImplicit false

namespace SchemaTemplate

/-! ### Values -/

namespace Expr

mutual

/-- Values with the same form are equal. -/
theorem toJson_inj : ∀ first second : Expr, toJson first = toJson second → first = second
  | literal first, second, hequal => by
    cases second <;> simp_all [toJson]
  | reference first, second, hequal => by
    cases second <;> simp_all [toJson]
  | join delimiter firsts, second, hequal => by
    cases second with
    | join other seconds =>
      obtain ⟨rfl, hitems⟩ : delimiter = other ∧ toJsons firsts = toJsons seconds := by
        simpa [toJson] using hequal
      rw [toJsons_inj firsts seconds hitems]
    | literal | reference | select | split | substitute => simp [toJson] at hequal
  | select index first, second, hequal => by
    cases second with
    | select other second =>
      obtain ⟨rfl, hlist⟩ : index = other ∧ toJson first = toJson second := by
        simpa [toJson, Int.ofNat_inj] using hequal
      rw [toJson_inj first second hlist]
    | literal | reference | join | split | substitute => simp [toJson] at hequal
  | split delimiter first, second, hequal => by
    cases second with
    | split other second =>
      obtain ⟨rfl, hsource⟩ : delimiter = other ∧ toJson first = toJson second := by
        simpa [toJson] using hequal
      rw [toJson_inj first second hsource]
    | literal | reference | join | select | substitute => simp [toJson] at hequal
  | substitute pattern firsts, second, hequal => by
    cases second with
    | substitute other seconds =>
      obtain ⟨rfl, hbindings⟩ : pattern = other ∧ toFields firsts = toFields seconds := by
        simpa [toJson] using hequal
      rw [toFields_inj firsts seconds hbindings]
    | literal | reference | join | select | split => simp [toJson] at hequal

/-- Lists of values with the same forms are equal. -/
theorem toJsons_inj : ∀ firsts seconds : List Expr, toJsons firsts = toJsons seconds →
    firsts = seconds
  | [], [], _ => rfl
  | [], _ :: _, hequal => nomatch hequal
  | _ :: _, [], hequal => nomatch hequal
  | first :: firsts, second :: seconds, hequal => by
    obtain ⟨hfirst, hrest⟩ := List.cons.inj hequal
    rw [toJson_inj first second hfirst, toJsons_inj firsts seconds hrest]

/-- Bindings with the same forms are equal. -/
theorem toFields_inj : ∀ firsts seconds : List (String × Expr),
    toFields firsts = toFields seconds → firsts = seconds
  | [], [], _ => rfl
  | [], (_, _) :: _, hequal => nomatch hequal
  | (_, _) :: _, [], hequal => nomatch hequal
  | (name, first) :: firsts, (other, second) :: seconds, hequal => by
    obtain ⟨hfirst, hrest⟩ := List.cons.inj hequal
    obtain ⟨rfl, hvalue⟩ := Prod.mk.inj hfirst
    rw [toJson_inj first second hvalue, toFields_inj firsts seconds hrest]

end

theorem toJson_injective : Function.Injective toJson := fun first second ↦ toJson_inj first second

end Expr

/-! ### Fields of an object -/

/-- A field under another name does not matter. -/
theorem lookup_cons_of_ne {name other : String} (hother : other ≠ name) (value : Json)
    (fields : List (String × Json)) :
    ((name, value) :: fields).lookup other = fields.lookup other := by
  have hdifferent : (other == name) = false := by simpa using hother
  rw [List.lookup_cons, hdifferent]

theorem lookup_optionalField_self (name : String) (value : Option Json) :
    (optionalField name value).lookup name = value := by
  cases value <;> simp [optionalField]

theorem lookup_optionalField_of_ne {name other : String} (hother : other ≠ name)
    (value : Option Json) : (optionalField name value).lookup other = none := by
  cases value with
  | none => rfl
  | some value => exact lookup_cons_of_ne hother value []

/-- A list under another name does not matter. -/
theorem lookup_listField_append_of_ne {name other : String} (hother : other ≠ name)
    (items : List Json) (fields : List (String × Json)) :
    (listField name items ++ fields).lookup other = fields.lookup other := by
  unfold listField
  split
  · rfl
  · rw [List.singleton_append, lookup_cons_of_ne hother]

/-- The items of a field that holds a list, none if the field was left out. -/
def itemsOf : Option Json → List Json
  | some (.list items) => items
  | _ => []

/-- Assumes: no other field under a name. The list under the name is found, even if it is empty and
left out. -/
theorem itemsOf_lookup_listField_append {name : String} {fields : List (String × Json)}
    (hnone : fields.lookup name = none) (items : List Json) :
    itemsOf ((listField name items ++ fields).lookup name) = items := by
  cases items with
  | nil => simp [listField, itemsOf, hnone]
  | cons item items => simp [listField, itemsOf]

/-! ### Columns and billing modes -/

theorem Column.toJson_injective : Function.Injective Column.toJson := by
  rintro ⟨name, type⟩ ⟨other, value⟩ hequal
  obtain ⟨rfl, htype⟩ : name = other ∧ type.toJson = value.toJson := by
    simpa [toJson] using hequal
  rw [Expr.toJson_injective htype]

theorem ClusteringColumn.toJson_injective : Function.Injective ClusteringColumn.toJson := by
  rintro ⟨first, order⟩ ⟨second, other⟩ hequal
  obtain ⟨hcolumn, hfield⟩ : first.toJson = second.toJson ∧
      optionalField "OrderBy" (order.map .text) = optionalField "OrderBy" (other.map .text) := by
    simpa [toJson] using hequal
  have horder := congrArg (List.lookup "OrderBy") hfield
  rw [lookup_optionalField_self, lookup_optionalField_self] at horder
  have htext : Function.Injective Json.text := fun _ _ hsame ↦ Json.text.inj hsame
  rw [Column.toJson_injective hcolumn, Option.map_injective htext horder]

theorem BillingKind.text_injective : Function.Injective BillingKind.text := by
  intro first second
  cases first <;> cases second <;> decide

theorem Throughput.toJson_injective : Function.Injective Throughput.toJson := by
  rintro ⟨readUnits, writeUnits⟩ ⟨otherRead, otherWrite⟩ hequal
  simpa [toJson] using hequal

theorem BillingMode.toJson_injective : Function.Injective BillingMode.toJson := by
  rintro ⟨first, throughput⟩ ⟨second, other⟩ hequal
  obtain ⟨hkind, hfield⟩ : first.text = second.text ∧
      optionalField "ProvisionedThroughput" (throughput.map Throughput.toJson) =
        optionalField "ProvisionedThroughput" (other.map Throughput.toJson) := by
    simpa [toJson] using hequal
  have hthroughput := congrArg (List.lookup "ProvisionedThroughput") hfield
  rw [lookup_optionalField_self, lookup_optionalField_self] at hthroughput
  rw [BillingKind.text_injective hkind,
    Option.map_injective Throughput.toJson_injective hthroughput]

/-! ### Tables -/

/-- Every part of a table is found in its form under a name of its own. -/
theorem TableResource.toJson_eq_object (table : TableResource) :
    ∃ fields, table.toJson = .object fields ∧
      fields.lookup "KeyspaceName" = some table.keyspaceName.toJson ∧
      fields.lookup "TableName" = some (.text table.tableName) ∧
      itemsOf (fields.lookup "PartitionKeyColumns") = table.partitionKey.map Column.toJson ∧
      itemsOf (fields.lookup "ClusteringKeyColumns") =
        table.clusteringKey.map ClusteringColumn.toJson ∧
      itemsOf (fields.lookup "RegularColumns") = table.regularColumns.map Column.toJson ∧
      fields.lookup "BillingMode" = table.billingMode.map BillingMode.toJson := by
  refine ⟨_, rfl, rfl, rfl, ?_, ?_, ?_, ?_⟩
  all_goals
    simp only [List.append_assoc, List.cons_append, List.nil_append]
    rw [lookup_cons_of_ne (by decide), lookup_cons_of_ne (by decide)]
  · apply itemsOf_lookup_listField_append
    rw [lookup_listField_append_of_ne (by decide), lookup_listField_append_of_ne (by decide),
      lookup_optionalField_of_ne (by decide)]
  · rw [lookup_listField_append_of_ne (by decide)]
    apply itemsOf_lookup_listField_append
    rw [lookup_listField_append_of_ne (by decide), lookup_optionalField_of_ne (by decide)]
  · rw [lookup_listField_append_of_ne (by decide), lookup_listField_append_of_ne (by decide)]
    apply itemsOf_lookup_listField_append
    rw [lookup_optionalField_of_ne (by decide)]
  · rw [lookup_listField_append_of_ne (by decide), lookup_listField_append_of_ne (by decide),
      lookup_listField_append_of_ne (by decide), lookup_optionalField_self]

theorem TableResource.toJson_injective : Function.Injective TableResource.toJson := by
  intro first second hequal
  obtain ⟨fields, hfirst, hkeyspace, htable, hpartition, hclustering, hothers, hbilling⟩ :=
    first.toJson_eq_object
  obtain ⟨others, hsecond, hkeyspace', htable', hpartition', hclustering', hothers', hbilling'⟩ :=
    second.toJson_eq_object
  obtain rfl : fields = others := Json.object.inj (hfirst.symm.trans (hequal.trans hsecond))
  rw [hkeyspace, Option.some.injEq] at hkeyspace'
  rw [htable, Option.some.injEq, Json.text.injEq] at htable'
  rw [hpartition] at hpartition'
  rw [hclustering] at hclustering'
  rw [hothers] at hothers'
  rw [hbilling] at hbilling'
  have hsameKeyspace := Expr.toJson_injective hkeyspace'
  have hcolumns := List.map_injective_iff.2 Column.toJson_injective
  have hsamePartition := hcolumns hpartition'
  have hsameClustering := List.map_injective_iff.2 ClusteringColumn.toJson_injective hclustering'
  have hsameOthers := hcolumns hothers'
  have hsameBilling := Option.map_injective BillingMode.toJson_injective hbilling'
  cases first
  cases second
  simp only [TableResource.mk.injEq]
  exact ⟨hsameKeyspace, htable', hsamePartition, hsameClustering, hsameOthers, hsameBilling⟩

/-! ### Resources and templates -/

theorem Resource.toJson_injective : Function.Injective Resource.toJson := by
  intro first second hequal
  cases first with
  | keyspace name =>
    cases second with
    | keyspace other =>
      have hname : name = other := by
        simpa [toJson, typeName, properties] using hequal
      rw [hname]
    | table => simp [toJson, typeName] at hequal
  | table definition =>
    cases second with
    | keyspace => simp [toJson, typeName] at hequal
    | table other =>
      have hform : definition.toJson = other.toJson := by
        simpa [toJson, typeName, properties] using hequal
      rw [TableResource.toJson_injective hform]

namespace Template

/-- Templates with the same form hold the same resources in the same order. -/
theorem toJson_injective : Function.Injective Template.toJson := by
  rintro ⟨⟨first⟩⟩ ⟨⟨second⟩⟩ hequal
  have hentry : Function.Injective
      fun entry : String × Resource ↦ (entry.1, entry.2.toJson) := by
    rintro ⟨id, resource⟩ ⟨other, definition⟩ hsame
    obtain ⟨hid, hform⟩ := Prod.mk.inj hsame
    exact Prod.ext hid (Resource.toJson_injective hform)
  have hfield := (List.cons.inj (Json.object.inj hequal)).1
  have hforms := Json.object.inj (Prod.mk.inj hfield).2
  have hentries : first = second := List.map_injective_iff.2 hentry hforms
  rw [hentries]

/-- Templates with the same text hold the same resources in the same order. -/
theorem render_injective : Function.Injective Template.render := by
  intro first second hequal
  have hforms : first.toJson = second.toJson :=
    Json.render_injective Json.Layout.blank_pretty hequal
  exact toJson_injective hforms

end Template

end SchemaTemplate
