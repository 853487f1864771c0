import Mathlib.Tactic.SplitIfs
import SchemaTemplate.Template.Json

/-!
The text of a JSON value determines the value. Each part of a text is told apart from what follows
it: an escaped character because it can be read back (`Json.unescape`), a text by its closing quote,
a number because no digit follows, a list or an object by what stands between and behind its items.
The main statement, `Json.render_injective`, holds for every layout that adds nothing but blanks.
-/

set_option autoImplicit false
set_option relaxedAutoImplicit false

namespace SchemaTemplate.Json

/-! ### Strings -/

/-- The value of a hexadecimal digit. -/
def hexValue (digit : Char) : Nat :=
  if digit.isDigit then digit.toNat - '0'.toNat else digit.toNat - 'a'.toNat + 10

theorem hexValue_digitChar : ∀ value < 16, hexValue (Nat.digitChar value) = value := by
  decide

/-- Reads back one character of a string, and says what follows it. -/
def unescape : List Char → Option (Char × List Char)
  | '\\' :: 'u' :: _ :: _ :: high :: low :: rest =>
    some (Char.ofNat (16 * hexValue high + hexValue low), rest)
  | '\\' :: 'n' :: rest => some ('\n', rest)
  | '\\' :: 'r' :: rest => some ('\r', rest)
  | '\\' :: 't' :: rest => some ('\t', rest)
  | '\\' :: 'b' :: rest => some (Char.ofNat 0x08, rest)
  | '\\' :: 'f' :: rest => some (Char.ofNat 0x0C, rest)
  | '\\' :: character :: rest => some (character, rest)
  | character :: rest => some (character, rest)
  | [] => none

/-- A character is read back as it was. -/
theorem unescape_escaped (character : Char) (rest : List Char) :
    unescape (escaped character ++ rest) = some (character, rest) := by
  unfold escaped
  split_ifs with hquote hbackslash hfeed hreturn htab hback hform hcontrol
  · rw [hquote]; rfl
  · rw [hbackslash]; rfl
  · rw [hfeed]; rfl
  · rw [hreturn]; rfl
  · rw [htab]; rfl
  · rw [hback]; rfl
  · rw [hform]; rfl
  · have hhigh := hexValue_digitChar (character.toNat / 16) (by omega)
    have hlow := hexValue_digitChar (character.toNat % 16) (by omega)
    have hvalue : 16 * (character.toNat / 16) + character.toNat % 16 = character.toNat := by omega
    simp only [controlDigits, List.cons_append, List.nil_append, unescape]
    rw [hhigh, hlow, hvalue, Char.ofNat_toNat]
  · rw [List.singleton_append, unescape.eq_def]
    split <;> simp_all

/-- Escaped characters are told apart in front of any texts. -/
theorem escaped_append_inj {first second : Char} {rest others : List Char}
    (hequal : escaped first ++ rest = escaped second ++ others) :
    first = second ∧ rest = others := by
  have hread := congrArg unescape hequal
  rw [unescape_escaped, unescape_escaped] at hread
  simpa using hread

/-- No escaped character begins with a quote. -/
theorem escaped_append_ne_quote (character : Char) (rest others : List Char) :
    escaped character ++ rest ≠ '"' :: others := by
  intro hequal
  have hread := congrArg unescape hequal
  rw [unescape_escaped] at hread
  obtain ⟨rfl, -⟩ : character = '"' ∧ rest = others := by
    simpa [unescape] using hread
  cases hequal

/-- Escaped texts are told apart by the quotes that close them. -/
theorem flatMap_escaped_append_inj {first second rest others : List Char}
    (hequal : first.flatMap escaped ++ '"' :: rest = second.flatMap escaped ++ '"' :: others) :
    first = second ∧ rest = others := by
  induction first generalizing second with
  | nil =>
    cases second with
    | nil => exact ⟨rfl, by simpa using hequal⟩
    | cons character second =>
      rw [List.flatMap_cons, List.append_assoc] at hequal
      exact absurd hequal.symm (escaped_append_ne_quote _ _ _)
  | cons character first ih =>
    cases second with
    | nil =>
      rw [List.flatMap_cons, List.append_assoc] at hequal
      exact absurd hequal (escaped_append_ne_quote _ _ _)
    | cons other second =>
      simp only [List.flatMap_cons, List.append_assoc] at hequal
      obtain ⟨rfl, htail⟩ := escaped_append_inj hequal
      obtain ⟨rfl, hrest⟩ := ih htail
      exact ⟨rfl, hrest⟩

/-- Texts in quotes are told apart in front of whatever follows. -/
theorem writeText_inj {first second : String} {rest others : List Char}
    (hequal : writeText first rest = writeText second others) : first = second ∧ rest = others := by
  obtain ⟨hcontent, hrest⟩ := flatMap_escaped_append_inj (List.cons.inj hequal).2
  exact ⟨String.toList_inj.1 hcontent, hrest⟩

/-! ### Numbers -/

/-- Whether no digit comes first in a text. -/
def NoDigit (text : List Char) : Prop := ∀ character ∈ text.head?, character.isDigit = false

/-- Assumes: two runs of digits, and no digit behind either. They are told apart. -/
theorem digits_append_inj {first second rest others : List Char}
    (hfirst : ∀ digit ∈ first, digit.isDigit = true)
    (hsecond : ∀ digit ∈ second, digit.isDigit = true) (hrest : NoDigit rest)
    (hothers : NoDigit others) (hequal : first ++ rest = second ++ others) :
    first = second ∧ rest = others := by
  induction first generalizing second with
  | nil =>
    cases second with
    | nil => exact ⟨rfl, hequal⟩
    | cons digit second =>
      have hfollows : rest = digit :: (second ++ others) := hequal
      have hdigit := hrest digit (by rw [hfollows]; rfl)
      exact absurd (hsecond digit List.mem_cons_self) (by simp [hdigit])
  | cons digit first ih =>
    cases second with
    | nil =>
      have hfollows : others = digit :: (first ++ rest) := hequal.symm
      have hdigit := hothers digit (by rw [hfollows]; rfl)
      exact absurd (hfirst digit List.mem_cons_self) (by simp [hdigit])
    | cons other second =>
      have hfirstTail : ∀ digit ∈ first, digit.isDigit = true :=
        fun _ hmem ↦ hfirst _ (List.mem_cons_of_mem _ hmem)
      have hsecondTail : ∀ digit ∈ second, digit.isDigit = true :=
        fun _ hmem ↦ hsecond _ (List.mem_cons_of_mem _ hmem)
      obtain ⟨rfl, htail⟩ := List.cons.inj hequal
      obtain ⟨rfl, hrests⟩ := ih hfirstTail hsecondTail htail
      exact ⟨rfl, hrests⟩

theorem toDigits_inj {first second : Nat}
    (hequal : Nat.toDigits 10 first = Nat.toDigits 10 second) : first = second := by
  have hvalue := congrArg (Nat.ofDigitChars 10 · 0) hequal
  simpa only [Nat.ofDigitChars_ten_toDigits] using hvalue

theorem isDigit_of_mem_decimalDigits {value : Nat} :
    ∀ digit ∈ Nat.toDigits 10 value, digit.isDigit = true :=
  fun _ hmem ↦ Nat.isDigit_of_mem_toDigits (by decide) (by decide) hmem

/-- A number begins with a sign or a digit. -/
theorem decimal_eq_cons (value : Int) :
    ∃ first tail, decimal value = first :: tail ∧ (first = '-' ∨ first.isDigit = true) := by
  cases value with
  | ofNat value =>
    cases hdigits : Nat.toDigits 10 value with
    | nil => exact absurd hdigits Nat.toDigits_ne_nil
    | cons digit digits =>
      exact ⟨digit, digits, hdigits,
        .inr (isDigit_of_mem_decimalDigits digit (hdigits ▸ List.mem_cons_self))⟩
  | negSucc value => exact ⟨'-', _, rfl, .inl rfl⟩

/-- Assumes: no digit behind two numbers. They are told apart. -/
theorem decimal_append_inj {first second : Int} {rest others : List Char} (hrest : NoDigit rest)
    (hothers : NoDigit others) (hequal : decimal first ++ rest = decimal second ++ others) :
    first = second ∧ rest = others := by
  have hsign : ∀ {value : Nat} {text tail : List Char},
      Nat.toDigits 10 value ++ text ≠ '-' :: tail := by
    intro value text tail hminus
    cases hdigits : Nat.toDigits 10 value with
    | nil => exact Nat.toDigits_ne_nil hdigits
    | cons digit digits =>
      rw [hdigits, List.cons_append, List.cons.injEq] at hminus
      have hdigit := isDigit_of_mem_decimalDigits digit (hdigits ▸ List.mem_cons_self)
      rw [hminus.1] at hdigit
      exact absurd hdigit (by decide)
  cases first with
  | ofNat first =>
    cases second with
    | ofNat second =>
      obtain ⟨hdigits, hrests⟩ := digits_append_inj isDigit_of_mem_decimalDigits
        isDigit_of_mem_decimalDigits hrest hothers hequal
      exact ⟨congrArg Int.ofNat (toDigits_inj hdigits), hrests⟩
    | negSucc second => exact absurd hequal hsign
  | negSucc first =>
    cases second with
    | ofNat second => exact absurd hequal.symm hsign
    | negSucc second =>
      obtain ⟨hdigits, hrests⟩ := digits_append_inj isDigit_of_mem_decimalDigits
        isDigit_of_mem_decimalDigits hrest hothers (List.cons.inj hequal).2
      have hvalue := Nat.succ.inj (toDigits_inj hdigits)
      exact ⟨congrArg Int.negSucc hvalue, hrests⟩

/-- A number begins with nothing but a sign or a digit. -/
theorem decimal_append_ne {value : Int} {first : Char} {rest tail : List Char} (hsign : first ≠ '-')
    (hdigit : first.isDigit = false) : decimal value ++ rest ≠ first :: tail := by
  obtain ⟨character, digits, htext, hfirst⟩ := decimal_eq_cons value
  intro hequal
  rw [htext, List.cons_append] at hequal
  obtain ⟨rfl, -⟩ := List.cons.inj hequal
  rcases hfirst with rfl | hnumeral
  · exact hsign rfl
  · rw [hdigit] at hnumeral
    cases hnumeral

/-! ### Values -/

/-- Whether a layout breaks lines with nothing but white space. -/
def Layout.Blank (layout : Layout) : Prop :=
  ∀ depth, ∀ character ∈ layout.lineBreak depth, character.isWhitespace = true

theorem Layout.blank_compact : Layout.compact.Blank := by
  intro depth character hmem
  cases hmem

theorem Layout.blank_pretty : Layout.pretty.Blank := by
  intro depth character hmem
  rcases List.mem_cons.1 hmem with rfl | hmem
  · decide
  · obtain ⟨-, rfl⟩ := List.mem_replicate.1 hmem
    decide

/-- White space is no digit. -/
theorem isDigit_of_isWhitespace {character : Char} (hblank : character.isWhitespace = true) :
    character.isDigit = false := by
  simp only [Char.isWhitespace, Bool.or_eq_true, decide_eq_true_eq] at hblank
  rcases hblank with ((rfl | rfl) | rfl) | rfl <;> decide

/-- Assumes: white space in front of a text that does not begin with a digit. Together they do not
either. -/
theorem noDigit_blank_append {blank text : List Char}
    (hblank : ∀ character ∈ blank, character.isWhitespace = true) (htext : NoDigit text) :
    NoDigit (blank ++ text) := by
  cases blank with
  | nil => exact htext
  | cons first blank =>
    intro character hmem
    obtain rfl : first = character := by simpa using hmem
    exact isDigit_of_isWhitespace (hblank first List.mem_cons_self)

/-- Assumes: white space in front of a text that begins otherwise than with a character, which is no
white space. Together they begin otherwise, too. -/
theorem blank_append_ne_cons {blank text tail : List Char} {first : Char}
    (hblank : ∀ character ∈ blank, character.isWhitespace = true)
    (hfirst : first.isWhitespace = false) (htext : ∀ rest, text ≠ first :: rest) :
    blank ++ text ≠ first :: tail := by
  cases blank with
  | nil => exact htext tail
  | cons character blank =>
    rintro ⟨⟩
    rw [hblank first List.mem_cons_self] at hfirst
    cases hfirst

/-- No value begins with the bracket that closes a list. -/
theorem write_ne_closing (layout : Layout) (depth : Nat) (value : Json) (rest tail : List Char) :
    write layout depth value rest ≠ ']' :: tail := by
  cases value with
  | text content => rintro ⟨⟩
  | number value =>
    rw [write]
    exact decimal_append_ne (by decide) (by decide)
  | list items => cases items <;> rintro ⟨⟩
  | object fields => cases fields <;> rintro ⟨⟩

/-- Assumes: a layout that breaks lines with white space. No list of items begins with the bracket
that closes it. -/
theorem writeItems_ne_closing {layout : Layout} (hblank : layout.Blank) {depth : Nat} {item : Json}
    {items : List Json} {rest tail : List Char} :
    writeItems layout depth [] (item :: items) rest ≠ ']' :: tail := by
  rw [writeItems, List.nil_append]
  exact blank_append_ne_cons (hblank depth) (by decide) (fun _ ↦ write_ne_closing _ _ _ _ _)

theorem writeFields_ne_closing {layout : Layout} (hblank : layout.Blank) {depth : Nat}
    {field : String × Json} {fields : List (String × Json)} {rest tail : List Char} :
    writeFields layout depth [] (field :: fields) rest ≠ '\x7d' :: tail := by
  rw [writeFields, List.nil_append]
  refine blank_append_ne_cons (hblank depth) (by decide) ?_
  rintro _ ⟨⟩

/-- Further items or fields and the bracket behind them begin with no digit. -/
theorem noDigit_writeItems {layout : Layout} {depth : Nat} {items : List Json} {rest : List Char}
    (hrest : NoDigit rest) : NoDigit (writeItems layout depth [','] items rest) := by
  cases items with
  | nil => exact hrest
  | cons => rintro _ ⟨⟩; decide

theorem noDigit_writeFields {layout : Layout} {depth : Nat} {fields : List (String × Json)}
    {rest : List Char} (hrest : NoDigit rest) :
    NoDigit (writeFields layout depth [','] fields rest) := by
  cases fields with
  | nil => exact hrest
  | cons => rintro _ ⟨⟩; decide

/-- Whether a text can stand behind the items of a list or the fields of an object. -/
structure Closing (text : List Char) : Prop where
  noDigit : NoDigit text
  noComma : ∀ tail, text ≠ ',' :: tail

/-- Assumes: a layout that breaks lines with white space. A closing bracket on its own line can
stand behind items and fields. -/
theorem closing_lineBreak {layout : Layout} (hblank : layout.Blank) (depth : Nat) (bracket : Char)
    (hdigit : bracket.isDigit = false) (hcomma : bracket ≠ ',') (rest : List Char) :
    Closing (layout.lineBreak depth ++ bracket :: rest) where
  noDigit := by
    refine noDigit_blank_append (hblank depth) ?_
    rintro _ ⟨⟩
    exact hdigit
  noComma tail := by
    refine blank_append_ne_cons (hblank depth) (by decide) ?_
    rintro _ ⟨⟩
    exact hcomma rfl

variable {layout : Layout}

mutual

/-- Assumes: a layout that breaks lines with white space, and no digit behind two values. They are
told apart. -/
theorem write_inj (hblank : layout.Blank) {depth : Nat} : ∀ (first second : Json)
    {rest others : List Char}, NoDigit rest → NoDigit others →
    write layout depth first rest = write layout depth second others →
    first = second ∧ rest = others
  | text first, second, rest, others, _, _, hequal => by
    cases second with
    | text second =>
      obtain ⟨rfl, hrest⟩ := writeText_inj hequal
      exact ⟨rfl, hrest⟩
    | number second =>
      exact absurd hequal.symm (decimal_append_ne (by decide) (by decide))
    | list items => cases items <;> cases hequal
    | object fields => cases fields <;> cases hequal
  | number first, second, rest, others, hrest, hothers, hequal => by
    cases second with
    | text second => exact absurd hequal (decimal_append_ne (by decide) (by decide))
    | number second =>
      obtain ⟨rfl, hrests⟩ := decimal_append_inj hrest hothers hequal
      exact ⟨rfl, hrests⟩
    | list items =>
      cases items <;> exact absurd hequal (decimal_append_ne (by decide) (by decide))
    | object fields =>
      cases fields <;> exact absurd hequal (decimal_append_ne (by decide) (by decide))
  | list firsts, second, rest, others, _, _, hequal => by
    cases second with
    | text second => cases firsts <;> cases hequal
    | number second =>
      cases firsts <;> exact absurd hequal.symm (decimal_append_ne (by decide) (by decide))
    | object fields => cases firsts <;> cases fields <;> cases hequal
    | list seconds =>
      cases firsts with
      | nil =>
        cases seconds with
        | nil => exact ⟨rfl, by simpa [write] using hequal⟩
        | cons => exact absurd (List.cons.inj hequal).2.symm (writeItems_ne_closing hblank)
      | cons first firsts =>
        cases seconds with
        | nil => exact absurd (List.cons.inj hequal).2 (writeItems_ne_closing hblank)
        | cons second seconds =>
          have hclosing := closing_lineBreak hblank depth ']' (by decide) (by decide)
          obtain ⟨hitems, hrests⟩ := writeItems_inj hblank (first :: firsts) (second :: seconds)
            (by simp) (hclosing rest) (hclosing others) (List.cons.inj hequal).2
          refine ⟨congrArg list hitems, ?_⟩
          simpa using List.append_cancel_left hrests
  | object firsts, second, rest, others, _, _, hequal => by
    cases second with
    | text second => cases firsts <;> cases hequal
    | number second =>
      cases firsts <;> exact absurd hequal.symm (decimal_append_ne (by decide) (by decide))
    | list items => cases firsts <;> cases items <;> cases hequal
    | object seconds =>
      cases firsts with
      | nil =>
        cases seconds with
        | nil => exact ⟨rfl, by simpa [write] using hequal⟩
        | cons => exact absurd (List.cons.inj hequal).2.symm (writeFields_ne_closing hblank)
      | cons first firsts =>
        cases seconds with
        | nil => exact absurd (List.cons.inj hequal).2 (writeFields_ne_closing hblank)
        | cons second seconds =>
          have hclosing := closing_lineBreak hblank depth '\x7d' (by decide) (by decide)
          obtain ⟨hfields, hrests⟩ := writeFields_inj hblank (first :: firsts) (second :: seconds)
            (by simp) (hclosing rest) (hclosing others) (List.cons.inj hequal).2
          refine ⟨congrArg object hfields, ?_⟩
          simpa using List.append_cancel_left hrests

/-- Assumes: a layout that breaks lines with white space, and two lists of items with a closing
bracket behind them. They are told apart, provided that the first items are marked as such. -/
theorem writeItems_inj (hblank : layout.Blank) {depth : Nat} {separator : List Char} :
    ∀ (firsts seconds : List Json) {rest others : List Char},
    (separator = [','] ∨ (firsts = [] ↔ seconds = [])) → Closing rest → Closing others →
    writeItems layout depth separator firsts rest =
      writeItems layout depth separator seconds others →
    firsts = seconds ∧ rest = others
  | [], [], _, _, _, _, _, hequal => ⟨rfl, hequal⟩
  | [], second :: seconds, rest, _, hmarked, hrest, _, hequal => by
    rcases hmarked with rfl | hboth
    · exact absurd hequal (hrest.noComma _)
    · simp at hboth
  | first :: firsts, [], _, others, hmarked, _, hothers, hequal => by
    rcases hmarked with rfl | hboth
    · exact absurd hequal.symm (hothers.noComma _)
    · simp at hboth
  | first :: firsts, second :: seconds, rest, others, _, hrest, hothers, hequal => by
    have hitem := List.append_cancel_left (List.append_cancel_left hequal)
    obtain ⟨rfl, htail⟩ := write_inj hblank first second (noDigit_writeItems hrest.noDigit)
      (noDigit_writeItems hothers.noDigit) hitem
    obtain ⟨rfl, hrests⟩ := writeItems_inj hblank firsts seconds (.inl rfl) hrest hothers htail
    exact ⟨rfl, hrests⟩

/-- Assumes: a layout that breaks lines with white space, and two lists of fields with a closing
bracket behind them. They are told apart, provided that the first fields are marked as such. -/
theorem writeFields_inj (hblank : layout.Blank) {depth : Nat} {separator : List Char} :
    ∀ (firsts seconds : List (String × Json)) {rest others : List Char},
    (separator = [','] ∨ (firsts = [] ↔ seconds = [])) → Closing rest → Closing others →
    writeFields layout depth separator firsts rest =
      writeFields layout depth separator seconds others →
    firsts = seconds ∧ rest = others
  | [], [], _, _, _, _, _, hequal => ⟨rfl, hequal⟩
  | [], (_, _) :: seconds, rest, _, hmarked, hrest, _, hequal => by
    rcases hmarked with rfl | hboth
    · exact absurd hequal (hrest.noComma _)
    · simp at hboth
  | (_, _) :: firsts, [], _, others, hmarked, _, hothers, hequal => by
    rcases hmarked with rfl | hboth
    · exact absurd hequal.symm (hothers.noComma _)
    · simp at hboth
  | (name, first) :: firsts, (other, second) :: seconds, rest, others, _, hrest, hothers,
      hequal => by
    have hfield := List.append_cancel_left (List.append_cancel_left hequal)
    obtain ⟨rfl, hvalue⟩ := writeText_inj hfield
    have hvalues := List.append_cancel_left (List.cons.inj hvalue).2
    obtain ⟨rfl, htail⟩ := write_inj hblank first second (noDigit_writeFields hrest.noDigit)
      (noDigit_writeFields hothers.noDigit) hvalues
    obtain ⟨rfl, hrests⟩ := writeFields_inj hblank firsts seconds (.inl rfl) hrest hothers htail
    exact ⟨rfl, hrests⟩

end

/-- Assumes: a layout that breaks lines with white space. Values with the same text are equal. -/
theorem render_injective (hblank : layout.Blank) {first second : Json}
    (hequal : render layout first = render layout second) : first = second := by
  have htexts : write layout 0 first [] = write layout 0 second [] := String.ofList_inj.1 hequal
  have hempty : NoDigit [] := by
    rintro _ ⟨⟩
  exact (write_inj hblank first second hempty hempty htexts).1

end SchemaTemplate.Json
