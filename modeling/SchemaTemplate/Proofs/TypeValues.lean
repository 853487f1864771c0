import SchemaTemplate.Proofs.TableOutcome
import SchemaTemplate.Proofs.TypeText
import SchemaTemplate.Template.Value

/-!
What the value of a column type comes to. A composite type puts the texts of its elements, joined
with commas, in the place of a variable that has the same name at every depth. As each substitution
is worked out before the one around it and leaves no variable behind, the value comes to the text of
the type without the spaces behind the commas, and this text tells the type.
-/

set_option autoImplicit false
set_option relaxedAutoImplicit false

namespace SchemaTemplate

/-! ### Substitution -/

namespace Expr

/-- What stands in a pattern in front of the first dollar sign is kept. -/
theorem expand_append {bindings : List (String × String)} {front : List Char}
    (hplain : '$' ∉ front) (rest : List Char) :
    expand bindings none (front ++ rest) = (front ++ ·) <$> expand bindings none rest := by
  induction front with
  | nil => simp
  | cons character front ih =>
    rw [List.mem_cons, not_or] at hplain
    rw [List.cons_append, expand, ih hplain.2]
    · cases expand bindings none rest <;> rfl
    · rintro _ rfl
      exact absurd rfl hplain.1

end Expr

namespace Mapping

open Report

/-- In the pattern of a composite type the variable is replaced by the text of the elements. -/
theorem expand_compositePattern {kind : String} (hkind : '$' ∉ kind.toList) (elements : String) :
    Expr.expand [(elementsVariable, elements)] none
      (kind ++ "<$\x7b" ++ elementsVariable ++ "\x7d>").toList =
        some (kind ++ "<" ++ elements ++ ">").toList := by
  have hpattern : (kind ++ "<$\x7b" ++ elementsVariable ++ "\x7d>").toList =
      kind.toList ++ ("<$\x7b" ++ elementsVariable ++ "\x7d>").toList := by
    simp
  have hrest : Expr.expand [(elementsVariable, elements)] none
      ("<$\x7b" ++ elementsVariable ++ "\x7d>").toList = some ('<' :: elements.toList ++ ['>']) :=
    rfl
  rw [hpattern, Expr.expand_append hkind, hrest]
  simp

/-- The value of a composite type comes to the texts of its elements, between the angles behind its
kind. -/
theorem value?_compositeExpr {kind : String} (hkind : '$' ∉ kind.toList) {elements : List Expr}
    {texts : List String} (htexts : Expr.values? elements = some texts) :
    (compositeExpr kind elements).value? =
      some (kind ++ "<" ++ String.intercalate "," texts ++ ">") := by
  have hbindings : Expr.bindingValues? [(elementsVariable, .join "," elements)] =
      some [(elementsVariable, String.intercalate "," texts)] := by
    rw [Expr.bindingValues?, Expr.value?, htexts]
    rfl
  rw [compositeExpr, Expr.value?, hbindings]
  show String.ofList <$> Expr.expand _ none _ = _
  rw [expand_compositePattern hkind, Option.map_eq_map, Option.map_some, String.ofList_toList]

variable {keyspace : Identifier}

mutual

/-- Assumes: the value of a well-formed type. It comes to the text of the type, with nothing but
commas between the elements. -/
theorem value?_typeExpr : ∀ (type : ColumnType), type.WellFormed → ∀ value,
    (typeExpr keyspace type).outcome = .ok value → value.value? = some (type.textWith ",")
  | .simple name, _, value, hok => by
    rw [outcome_typeExpr_simple] at hok
    cases hok
    rfl
  | .composite kind elements, ⟨hkind, _, hwell⟩, value, hok => by
    obtain ⟨values, hvalues, rfl⟩ := (outcome_typeExpr_composite_eq_ok_iff _ _ _ _).1 hok
    have htexts := values?_typeExprs elements hwell values hvalues
    have hplain : ∀ kind ∈ ColumnType.compositeKinds, '$' ∉ kind.toList := by decide
    exact value?_compositeExpr (hplain kind hkind) htexts
  | .user typeKeyspace name, _, _, hok => absurd hok (outcome_typeExpr_user_ne_ok _ _ _ _)
  | .custom className, _, _, hok => absurd hok (outcome_typeExpr_custom_ne_ok _ _ _)

theorem values?_typeExprs : ∀ (elements : List ColumnType), ColumnType.AllWellFormed elements →
    ∀ values, (typeExprs keyspace elements).outcome = .ok values →
      Expr.values? values = some (ColumnType.textsWith "," elements)
  | [], _, values, hok => by
    rw [outcome_typeExprs_nil] at hok
    cases hok
    rfl
  | first :: rest, hwell, _, hok => by
    obtain ⟨value, values, hvalue, hvalues, rfl⟩ := (outcome_typeExprs_cons_eq_ok_iff _ _ _ _).1 hok
    rw [Expr.values?, value?_typeExpr first hwell.1 value hvalue,
      values?_typeExprs rest hwell.2 values hvalues]
    rfl

end

end Mapping

/-! ### Texts of types -/

namespace ColumnType

/-- A text with each comma and space in a row replaced by the comma, from the left on. -/
def withoutGaps : List Char → List Char
  | ',' :: ' ' :: rest => ',' :: withoutGaps rest
  | character :: rest => character :: withoutGaps rest
  | [] => []

theorem withoutGaps_append {front : List Char} (hcomma : ',' ∉ front) (rest : List Char) :
    withoutGaps (front ++ rest) = front ++ withoutGaps rest := by
  induction front with
  | nil => rfl
  | cons character front ih =>
    rw [List.mem_cons, not_or] at hcomma
    rw [List.cons_append, withoutGaps, ih hcomma.2, List.cons_append]
    rintro _ rfl
    exact absurd rfl hcomma.1

theorem comma_notMem_of_mem_names {name : String} (hname : name ∈ simpleNames ++ compositeKinds) :
    ',' ∉ name.toList := by
  intro hmem
  cases isAlpha_of_mem_names hname ',' hmem

mutual

/-- The text of a built-in type without the spaces behind the commas is the text with commas only,
whatever follows. -/
theorem withoutGaps_text : ∀ (type : ColumnType), type.WellFormed → type.BuiltIn →
    ∀ rest, withoutGaps ((type.textWith ", ").toList ++ rest) =
      (type.textWith ",").toList ++ withoutGaps rest
  | simple name, hwell, _, rest =>
    withoutGaps_append (comma_notMem_of_mem_names (List.mem_append_left _ hwell)) rest
  | composite kind elements, ⟨hkind, _, hwell⟩, hbuilt, rest => by
    have hcomma : ',' ∉ kind.toList ++ ['<'] := by
      have hnone := comma_notMem_of_mem_names (List.mem_append_right simpleNames hkind)
      simp [hnone]
    have hclosing : withoutGaps ('>' :: rest) = '>' :: withoutGaps rest := rfl
    have helements := withoutGaps_texts elements hwell hbuilt ('>' :: rest)
    rw [hclosing] at helements
    have hall := withoutGaps_append hcomma
      ([',', ' '].intercalate ((textsWith ", " elements).map String.toList) ++ '>' :: rest)
    rw [helements] at hall
    simpa [textWith] using hall

theorem withoutGaps_texts : ∀ (elements : List ColumnType), AllWellFormed elements →
    AllBuiltIn elements → ∀ rest,
      withoutGaps ([',', ' '].intercalate ((textsWith ", " elements).map String.toList) ++ rest) =
        [','].intercalate ((textsWith "," elements).map String.toList) ++ withoutGaps rest
  | [], _, _, rest => rfl
  | [element], hwell, hbuilt, rest => by
    have helement := withoutGaps_text element hwell.1 hbuilt.1 rest
    simpa [textsWith] using helement
  | first :: second :: more, hwell, hbuilt, rest => by
    have hmore := withoutGaps_texts (second :: more) hwell.2 hbuilt.2 rest
    have hfirst := withoutGaps_text first hwell.1 hbuilt.1 (',' :: ' ' ::
      ([',', ' '].intercalate ((textsWith ", " (second :: more)).map String.toList) ++ rest))
    rw [withoutGaps, hmore] at hfirst
    simpa [textsWith] using hfirst

end

/-- No dollar sign stands in the text of a built-in type. -/
theorem dollar_notMem_textWith {separator : String} (hseparates : SeparatesElements separator)
    {type : ColumnType} (hwell : type.WellFormed) (hbuilt : type.BuiltIn) :
    '$' ∉ (type.textWith separator).toList :=
  (scans_toList_textWith hseparates hwell hbuilt).notMem rfl (by decide)

end ColumnType

namespace Mapping

open Grammar Report

/-- The value of a declared column comes to the text of its type. Every type that is read and is
built in has a value in tables of every keyspace; the value comes to the name of a simple type and
to the kind of a composite type with the texts of its elements between angles, with commas between
them. That is the text of the type without the spaces behind its commas, and no variable is left in
it. It tells the type. -/
theorem typeExpr_comes_to_text {tokens rest : List Token} {type : ColumnType}
    (hread : columnType tokens = .ok (type, rest)) (hbuilt : type.BuiltIn) (keyspace : Identifier) :
    (∃ value, (typeExpr keyspace type).outcome = .ok value ∧
      value.value? = some (type.textWith ",")) ∧
    (type.textWith ",").toList = ColumnType.withoutGaps type.text.toList ∧
    '$' ∉ (type.textWith ",").toList ∧
    ∀ other : ColumnType, (∃ tokens rest, columnType tokens = .ok (other, rest)) → other.BuiltIn →
      ∀ keyspace' value value', (typeExpr keyspace type).outcome = .ok value →
        (typeExpr keyspace' other).outcome = .ok value' → value.value? = value'.value? →
          type = other := by
  have hwell := wellFormed_of_columnType hread
  refine ⟨?_, ?_, ColumnType.dollar_notMem_textWith (.inl rfl) hwell hbuilt, ?_⟩
  · obtain ⟨value, hvalue⟩ := (exists_outcome_typeExpr_iff keyspace type).2 hbuilt
    exact ⟨value, hvalue, value?_typeExpr type hwell value hvalue⟩
  · have hgaps := ColumnType.withoutGaps_text type hwell hbuilt []
    rw [List.append_nil, ColumnType.withoutGaps, List.append_nil] at hgaps
    exact hgaps.symm
  · rintro other ⟨_, _, hother⟩ hbuilt' keyspace' value value' hvalue hvalue' hsame
    have hwell' := wellFormed_of_columnType hother
    rw [value?_typeExpr type hwell value hvalue, value?_typeExpr other hwell' value' hvalue',
      Option.some.injEq] at hsame
    exact ColumnType.textWith_inj (.inl rfl) hwell hwell' hbuilt hbuilt' hsame

/-- A map to lists, in a mixture of cases. -/
def mapTypeTokens : List Token :=
  [.word "Map", .symbol .less, .word "text", .symbol .comma, .word "LIST", .symbol .less,
    .word "int", .symbol .shiftRight, .symbol .rightParenthesis]

/-- What `mapTypeTokens` begin with. -/
def mapType : ColumnType :=
  .composite "map" [.simple "text", .composite "list" [.simple "int"]]

theorem typeExpr_comes_to_text_mapType :
    columnType mapTypeTokens = .ok (mapType, [.symbol .rightParenthesis]) ∧
      ∃ value, (typeExpr ⟨"shop"⟩ mapType).outcome = .ok value ∧
        value.value? = some "map<text,list<int>>" := by
  have hread : columnType mapTypeTokens = .ok (mapType, [.symbol .rightParenthesis]) := rfl
  have hbuilt : mapType.BuiltIn := ⟨trivial, ⟨trivial, trivial⟩, trivial⟩
  have htext : mapType.textWith "," = "map<text,list<int>>" := by decide
  rw [← htext]
  exact ⟨hread, (typeExpr_comes_to_text hread hbuilt ⟨"shop"⟩).1⟩

end Mapping

end SchemaTemplate
