import SchemaTemplate.Proofs.TemplateText
import SchemaTemplate.Template.WellFormed

/-!
Templates are written as JSON texts. What stands behind a value does not matter for how it is
written (`Json.write_append`), so a written value can be cut into its parts and each of them judged
by the rules of the format; this takes a layout that adds nothing but white space. With the texts of
templates and values told apart, this is all that their readers need.
-/

set_option autoImplicit false
set_option relaxedAutoImplicit false

namespace SchemaTemplate

namespace Json

/-! ### Strings and numbers -/

/-- An escaped character stands for one character. -/
theorem isCharacter_escaped (character : Char) : IsCharacter (escaped character) := by
  have hdigit : ∀ value < 16, IsHexDigit (Nat.digitChar value) := by
    unfold IsHexDigit
    decide
  unfold escaped
  split_ifs with hquote hbackslash hfeed hreturn htab hback hform hcontrol
  iterate 7 exact .escape (by decide)
  · refine .code rfl ?_
    intro digit hmem
    simp only [controlDigits, List.mem_cons, List.not_mem_nil, or_false] at hmem
    rcases hmem with rfl | rfl | rfl | rfl
    · exact hdigit 0 (by decide)
    · exact hdigit 0 (by decide)
    · exact hdigit _ (by omega)
    · exact hdigit _ (by omega)
  · exact .plain (by omega) hquote hbackslash

theorem writeText_append (content : String) (rest : List Char) :
    writeText content rest = writeText content [] ++ rest := by
  simp [writeText]

theorem isString_writeText (content : String) : IsString (writeText content []) := by
  refine ⟨content.toList.map escaped, ?_, by rw [writeText, List.flatMap_def]⟩
  intro text hmem
  obtain ⟨character, -, rfl⟩ := List.mem_map.1 hmem
  exact isCharacter_escaped character

/-- The digits of a number that is not zero do not begin with a zero. -/
theorem head?_toDigits_ne_zero {value : Nat} (hpositive : 0 < value) :
    (Nat.toDigits 10 value).head? ≠ some '0' := by
  induction value using Nat.strongRecOn with
  | ind value ih =>
    rw [Nat.toDigits_eq_if (by decide)]
    split
    next hsmall =>
      have hdigit : ∀ digit < 10, 0 < digit → Nat.digitChar digit ≠ '0' := by decide
      simpa using hdigit value hsmall hpositive
    next hlarge =>
      rw [List.head?_append_of_ne_nil _ Nat.toDigits_ne_nil]
      exact ih (value / 10) (by omega) (by omega)

theorem isWhole_toDigits (value : Nat) : IsWhole (Nat.toDigits 10 value) := by
  rcases Nat.eq_zero_or_pos value with rfl | hpositive
  · exact .inl rfl
  · exact .inr ⟨⟨Nat.toDigits_ne_nil, isDigit_of_mem_decimalDigits⟩,
      head?_toDigits_ne_zero hpositive⟩

theorem isNumber_decimal (value : Int) : IsNumber (decimal value) := by
  cases value with
  | ofNat value =>
    exact ⟨[], by simp, _, [], [], isWhole_toDigits value, .inl rfl, .inl rfl, by simp [decimal]⟩
  | negSucc value =>
    exact ⟨['-'], by simp, _, [], [], isWhole_toDigits (value + 1), .inl rfl, .inl rfl,
      by simp [decimal]⟩

/-! ### Values -/

/-- White space is told alike by the rules of the format and by layouts. -/
theorem isBlank_of_isWhitespace {text : List Char}
    (hblank : ∀ character ∈ text, character.isWhitespace = true) : IsBlank text := by
  intro character hmem
  have hspace := hblank character hmem
  simp only [Char.isWhitespace, Bool.or_eq_true, decide_eq_true_eq] at hspace
  rcases hspace with ((rfl | rfl) | rfl) | rfl <;> simp

variable {layout : Layout}

mutual

/-- A value is written in the same way whatever stands behind it. -/
theorem write_append (depth : Nat) : ∀ (value : Json) (rest : List Char),
    write layout depth value rest = write layout depth value [] ++ rest
  | text content, rest => writeText_append content rest
  | number value, rest => by simp [write]
  | list [], rest => rfl
  | list (item :: items), rest => by
    simp only [write]
    rw [writeItems_append, writeItems_append (depth + 1) (item :: items) _ (_ ++ [']'])]
    simp
  | object [], rest => rfl
  | object ((name, value) :: fields), rest => by
    simp only [write]
    rw [writeFields_append,
      writeFields_append (depth + 1) ((name, value) :: fields) _ (_ ++ ['\x7d'])]
    simp

theorem writeItems_append (depth : Nat) : ∀ (items : List Json) (separator rest : List Char),
    writeItems layout depth separator items rest =
      writeItems layout depth separator items [] ++ rest
  | [], _, _ => rfl
  | item :: items, separator, rest => by
    rw [writeItems, writeItems, write_append depth item, writeItems_append depth items,
      write_append depth item (writeItems layout depth [','] items [])]
    simp

theorem writeFields_append (depth : Nat) :
    ∀ (fields : List (String × Json)) (separator rest : List Char),
    writeFields layout depth separator fields rest =
      writeFields layout depth separator fields [] ++ rest
  | [], _, _ => rfl
  | (name, value) :: fields, separator, rest => by
    rw [writeFields, writeFields, writeText_append, write_append depth value,
      writeFields_append depth fields, writeText_append name (':' :: _),
      write_append depth value (writeFields layout depth [','] fields [])]
    simp

end

theorem isBlank_nil : IsBlank [] := nofun

mutual

/-- Assumes: a layout that adds nothing but white space. A value is written as one. -/
theorem isValue_write (hblank : layout.Blank) (hcolon : IsBlank layout.afterColon) (depth : Nat) :
    ∀ value : Json, IsValue (write layout depth value [])
  | text content => .text (isString_writeText content)
  | number value => by
    rw [write, List.append_nil]
    exact .number (isNumber_decimal value)
  | list [] => .emptyList isBlank_nil
  | list (item :: items) => by
    have hitems := isItems_writeItems hblank hcolon (depth + 1) (item :: items) (by simp)
      (isBlank_of_isWhitespace (hblank depth))
    rw [write, writeItems_append, ← List.append_assoc]
    · exact .list hitems
    · exact nofun
  | object [] => .emptyObject isBlank_nil
  | object (field :: fields) => by
    have hfields := isFields_writeFields hblank hcolon (depth + 1) (field :: fields) (by simp)
      (isBlank_of_isWhitespace (hblank depth))
    rw [write, writeFields_append, ← List.append_assoc]
    · exact .object hfields
    · exact nofun

theorem isItems_writeItems (hblank : layout.Blank) (hcolon : IsBlank layout.afterColon)
    (depth : Nat) : ∀ items : List Json, items ≠ [] → ∀ {after : List Char}, IsBlank after →
      IsItems (writeItems layout depth [] items [] ++ after)
  | [], hsome, _, _ => absurd rfl hsome
  | [item], _, after, hafter => by
    have hitem := isValue_write hblank hcolon depth item
    have hlast := IsItems.last (isBlank_of_isWhitespace (hblank depth)) hitem hafter
    simpa [writeItems] using hlast
  | item :: next :: items, _, after, hafter => by
    have hitem := isValue_write hblank hcolon depth item
    have hrest := isItems_writeItems hblank hcolon depth (next :: items) (by simp) hafter
    have hlisted := IsItems.more (isBlank_of_isWhitespace (hblank depth)) hitem isBlank_nil hrest
    rw [writeItems, write_append]
    simpa [writeItems] using hlisted

theorem isFields_writeFields (hblank : layout.Blank) (hcolon : IsBlank layout.afterColon)
    (depth : Nat) : ∀ fields : List (String × Json), fields ≠ [] → ∀ {after : List Char},
      IsBlank after → IsFields (writeFields layout depth [] fields [] ++ after)
  | [], hsome, _, _ => absurd rfl hsome
  | [(name, value)], _, after, hafter => by
    have hfield := IsField.field (isBlank_of_isWhitespace (hblank depth)) (isString_writeText name)
      isBlank_nil hcolon (isValue_write hblank hcolon depth value) hafter
    rw [writeFields, writeText_append]
    simpa [writeFields] using IsFields.last hfield
  | (name, value) :: next :: fields, _, after, hafter => by
    have hfield := IsField.field (isBlank_of_isWhitespace (hblank depth)) (isString_writeText name)
      isBlank_nil hcolon (isValue_write hblank hcolon depth value) isBlank_nil
    have hrest := isFields_writeFields hblank hcolon depth (next :: fields) (by simp) hafter
    have hlisted := IsFields.more hfield hrest
    rw [writeFields, writeText_append, write_append]
    simpa [writeFields] using hlisted

end

/-- Assumes: a layout that adds nothing but white space. Values are written as JSON texts. -/
theorem wellFormed_render (hblank : layout.Blank) (hcolon : IsBlank layout.afterColon)
    (value : Json) : WellFormed (render layout value) := by
  refine ⟨[], _, [], isBlank_nil, isValue_write hblank hcolon 0 value, isBlank_nil, ?_⟩
  rw [render, String.toList_ofList, List.append_nil, List.nil_append]

theorem isBlank_afterColon_compact : IsBlank Layout.compact.afterColon := isBlank_nil

theorem isBlank_afterColon_pretty : IsBlank Layout.pretty.afterColon := by
  simp [IsBlank, Layout.pretty]

end Json

/-! ### Templates and values -/

/-- Values with the same text are equal, in every layout that adds nothing but white space. -/
theorem Expr.render_toJson_injective {layout : Json.Layout} (hblank : layout.Blank) :
    Function.Injective fun value : Expr ↦ value.toJson.render layout :=
  fun _ _ hequal ↦ toJson_injective (Json.render_injective hblank hequal)

/-- Rendering is unambiguous. The text of every template is a JSON text, and templates with the same
text hold the same resources under the same ids in the same order, down to every value in them and
to every field that was left out. Values, too, are written as JSON texts in both layouts, and values
with the same text are equal, however they are nested, whatever characters their texts are made of,
and even if the same variable is bound more than once. -/
theorem Template.rendering_unambiguous :
    (∀ template : Template, Json.WellFormed template.render) ∧
      Function.Injective Template.render ∧
      (∀ value : Expr, Json.WellFormed (value.toJson.render .compact)) ∧
      (Function.Injective fun value : Expr ↦ value.toJson.render .compact) ∧
      (∀ value : Expr, Json.WellFormed (value.toJson.render .pretty)) ∧
      Function.Injective fun value : Expr ↦ value.toJson.render .pretty := by
  have hcompact := Json.wellFormed_render Json.Layout.blank_compact Json.isBlank_afterColon_compact
  have hpretty := Json.wellFormed_render Json.Layout.blank_pretty Json.isBlank_afterColon_pretty
  refine ⟨fun template ↦ hpretty template.toJson, Template.render_injective,
    fun value ↦ hcompact value.toJson, ?_, fun value ↦ hpretty value.toJson, ?_⟩
  · exact Expr.render_toJson_injective Json.Layout.blank_compact
  · exact Expr.render_toJson_injective Json.Layout.blank_pretty

end SchemaTemplate
