import SchemaTemplate.Proofs.Progress
import SchemaTemplate.Proofs.Recasing

/-!
The places of constants among tokens. A constant stands behind an equals sign or a colon, or in
front of a colon, and `Grammar.constantTexts` collects the texts of all constants at such places, in
their order, without reading anything else. What it finds in some tokens depends on those behind
them only by whether a colon comes next (`Grammar.exists_constantTexts_append`). Only properties
hold equals signs and colons, so what the other parts of a statement pass over holds no constants
(`Grammar.Parser.PassedOver`).
-/

set_option autoImplicit false
set_option relaxedAutoImplicit false

namespace SchemaTemplate.Grammar

open SchemaTemplate.Grammar.Parser

variable {tokens rest front behind : List Token} {token : Token}

/-! ### Constants at their places -/

/-- Whether a colon comes first. -/
def colonFirst (tokens : List Token) : Bool := tokens.head? = some (.symbol .colon)

/-- The texts of the constants behind an equals sign or a colon and in front of a colon. If tokens
are introduced, one of these marks stands in front of them. -/
def constantTexts : (introduced : Bool) → List Token → List String
  | _, [] => []
  | introduced, .symbol .minus :: .number digits _ :: rest =>
    (if introduced || colonFirst rest then ["-" ++ digits] else []) ++ constantTexts false rest
  | introduced, token :: rest =>
    (if introduced || colonFirst rest then (constantOf? token).toList else []) ++
      constantTexts (introducesConstant token) rest

/-- Whether a minus sign in front of some tokens is the sign of a number. -/
def NumberFirst (tokens : List Token) : Prop :=
  ∃ digits long rest, tokens = .number digits long :: rest

theorem constantTexts_cons (introduced : Bool)
    (hnumber : token = .symbol .minus → ¬ NumberFirst rest) :
    constantTexts introduced (token :: rest) =
      (if introduced || colonFirst rest then (constantOf? token).toList else []) ++
        constantTexts (introducesConstant token) rest := by
  rw [constantTexts]
  rintro digits long more rfl rfl
  exact hnumber rfl ⟨digits, long, more, rfl⟩

/-- A symbol other than a minus sign is no constant, and what is behind it is introduced or not. -/
theorem constantTexts_symbol {symbol : Symbol} (hminus : symbol ≠ .minus) (introduced : Bool)
    (rest : List Token) : constantTexts introduced (.symbol symbol :: rest) =
      constantTexts (introducesConstant (.symbol symbol)) rest := by
  rw [constantTexts_cons introduced (by simp [hminus])]
  simp [constantOf?]

/-- Behind an equals sign or a colon a constant is introduced. -/
theorem constantTexts_introducing {symbol : Symbol} (hsymbol : symbol ∈ introducing)
    (introduced : Bool) (rest : List Token) :
    constantTexts introduced (.symbol symbol :: rest) = constantTexts true rest := by
  have hall : ∀ symbol ∈ introducing,
      symbol ≠ .minus ∧ introducesConstant (.symbol symbol) = true := by decide
  rw [constantTexts_symbol (hall symbol hsymbol).1, (hall symbol hsymbol).2]

/-- Behind any other symbol none is. -/
theorem constantTexts_plain {symbol : Symbol} (hsymbol : symbol ∉ .minus :: introducing)
    (introduced : Bool) (rest : List Token) :
    constantTexts introduced (.symbol symbol :: rest) = constantTexts false rest := by
  obtain ⟨hminus, hequals, hcolon⟩ : symbol ≠ .minus ∧ symbol ≠ .equals ∧ symbol ≠ .colon := by
    simpa [introducing] using hsymbol
  rw [constantTexts_symbol hminus]
  simp [introducesConstant, hequals, hcolon]

/-! ### Apart from what is behind -/

/-- Whether what stands behind some tokens is introduced, as it is behind none if they are. -/
def introducedBehind (introduced : Bool) (front : List Token) : Bool :=
  front.foldl (fun _ token ↦ introducesConstant token) introduced

/-- The constants in front of tokens do not depend on them but for whether they begin with a colon.
They must not begin with a number, which would have the sign in front of it. -/
theorem exists_constantTexts_append (introduced colon : Bool) (front : List Token) :
    ∃ texts, ∀ behind, colonFirst behind = colon → ¬ NumberFirst behind →
      constantTexts introduced (front ++ behind) =
        texts ++ constantTexts (introducedBehind introduced front) behind := by
  -- What is behind decides whether a colon comes next only where nothing stands in between.
  have hcolon : ∀ rest : List Token, ∃ next, ∀ behind, colonFirst behind = colon →
      colonFirst (rest ++ behind) = next := by
    rintro (_ | ⟨first, rest⟩)
    · exact ⟨colon, fun behind hbehind ↦ hbehind⟩
    · exact ⟨colonFirst (first :: rest), fun behind _ ↦ rfl⟩
  fun_induction constantTexts introduced front with
  | case1 introduced => exact ⟨[], fun behind _ _ ↦ rfl⟩
  | case2 introduced digits long rest ih =>
    obtain ⟨texts, htexts⟩ := ih
    obtain ⟨next, hnext⟩ := hcolon rest
    refine ⟨(if introduced || next then ["-" ++ digits] else []) ++ texts,
      fun behind hbehind hnumber ↦ ?_⟩
    rw [List.cons_append, List.cons_append, constantTexts, hnext behind hbehind,
      htexts behind hbehind hnumber, List.append_assoc]
    rfl
  | case3 introduced token rest hpair ih =>
    obtain ⟨texts, htexts⟩ := ih
    obtain ⟨next, hnext⟩ := hcolon rest
    refine ⟨(if introduced || next then (constantOf? token).toList else []) ++ texts,
      fun behind hbehind hnumber ↦ ?_⟩
    -- A minus sign at the end of the front finds no number behind it.
    have hsign : token = .symbol .minus → ¬ NumberFirst (rest ++ behind) := by
      rintro rfl ⟨digits, long, left, hfirst⟩
      cases rest with
      | nil => exact hnumber ⟨digits, long, left, hfirst⟩
      | cons first rest =>
        obtain ⟨rfl, -⟩ := List.cons.inj hfirst
        exact hpair digits long rest rfl rfl
    rw [List.cons_append, constantTexts_cons introduced hsign, hnext behind hbehind,
      htexts behind hbehind hnumber, List.append_assoc]
    rfl

/-- In front of what begins with neither a colon nor a number, the constants are those that are
there without it. -/
theorem constantTexts_append (introduced : Bool) (front : List Token)
    (hcolon : colonFirst behind = false) (hnumber : ¬ NumberFirst behind) :
    constantTexts introduced (front ++ behind) =
      constantTexts introduced front ++
        constantTexts (introducedBehind introduced front) behind := by
  obtain ⟨texts, htexts⟩ := exists_constantTexts_append introduced false front
  have halone := htexts [] rfl nofun
  rw [List.append_nil, constantTexts, List.append_nil] at halone
  rw [htexts behind hcolon hnumber, halone]

theorem not_numberFirst_nil : ¬ NumberFirst [] := by simp [NumberFirst]

theorem not_numberFirst_symbol (symbol : Symbol) (rest : List Token) :
    ¬ NumberFirst (.symbol symbol :: rest) := nofun

/-! ### Tokens without marks -/

/-- Whether none of the tokens is an equals sign or a colon. -/
def Unmarked (tokens : List Token) : Prop := ∀ token ∈ tokens, introducesConstant token = false

theorem introducesConstant_of_plain (hplain : Plain token) : introducesConstant token = false := by
  have hequals := hplain .equals (by decide)
  have hcolon := hplain .colon (by decide)
  simp [introducesConstant, hequals, hcolon]

theorem introducesConstant_of_isWord {spelling : String} (hword : isWord spelling token = true) :
    introducesConstant token = false :=
  introducesConstant_of_plain (plain_of_isWord hword)

theorem introducesConstant_of_nameOf? {name : Identifier} (hname : nameOf? token = some name) :
    introducesConstant token = false := by
  cases token with
  | word | quotedWord => rfl
  | blank | string | number | symbol | other => cases hname

theorem unmarked_iff_countP : Unmarked tokens ↔ tokens.countP introducesConstant = 0 := by
  simp [Unmarked, List.countP_eq_zero]

theorem Unmarked.colonFirst (hunmarked : Unmarked tokens) : colonFirst tokens = false := by
  cases tokens with
  | nil => rfl
  | cons token rest =>
    rw [Grammar.colonFirst, decide_eq_false_iff_not]
    rintro ⟨⟩
    cases hunmarked _ List.mem_cons_self

theorem constantTexts_of_unmarked (hunmarked : Unmarked tokens) :
    constantTexts false tokens = [] := by
  generalize hintroduced : false = introduced
  fun_induction constantTexts introduced tokens with
  | case1 => rfl
  | case2 introduced digits long rest ih =>
    have hrest : Unmarked rest := fun token hmem ↦ hunmarked token (by simp [hmem])
    subst hintroduced
    rw [hrest.colonFirst, ih hrest rfl]
    rfl
  | case3 introduced token rest hpair ih =>
    have hrest : Unmarked rest := fun token hmem ↦ hunmarked token (by simp [hmem])
    subst hintroduced
    rw [hrest.colonFirst, ih hrest (hunmarked token List.mem_cons_self).symm]
    rfl

theorem introducedBehind_of_unmarked (hunmarked : Unmarked tokens) :
    introducedBehind false tokens = false := by
  induction tokens with
  | nil => rfl
  | cons token rest ih =>
    rw [introducedBehind, List.foldl_cons, hunmarked token List.mem_cons_self]
    exact ih fun other hmem ↦ hunmarked other (List.mem_cons_of_mem token hmem)

/-- Tokens without marks hold no constants. -/
theorem constantTexts_append_of_unmarked (hunmarked : Unmarked front)
    (hcolon : colonFirst behind = false) (hnumber : ¬ NumberFirst behind) :
    constantTexts false (front ++ behind) = constantTexts false behind := by
  rw [constantTexts_append false front hcolon hnumber, constantTexts_of_unmarked hunmarked,
    introducedBehind_of_unmarked hunmarked, List.nil_append]

namespace Parser

/-! ### Tokens that are passed over -/

/-- Whether rest is behind tokens that are used up without any equals sign or colon. -/
structure PassedOver (tokens rest : List Token) : Prop where
  behind : LeftBehind tokens rest
  marks : tokens.countP introducesConstant = rest.countP introducesConstant

theorem PassedOver.refl (tokens : List Token) : PassedOver tokens tokens :=
  ⟨⟨[], .refl tokens⟩, rfl⟩

theorem PassedOver.trans {first second third : List Token} (hfirst : PassedOver first second)
    (hsecond : PassedOver second third) : PassedOver first third where
  behind := hfirst.behind.trans hsecond.behind
  marks := hfirst.marks.trans hsecond.marks

theorem passedOver_cons (hplain : introducesConstant token = false) (rest : List Token) :
    PassedOver (token :: rest) rest where
  behind := leftBehind_cons token rest
  marks := by rw [List.countP_cons_of_neg (by simp [hplain])]

theorem leftover_passedOver : Leftover PassedOver where
  refl := .refl
  trans := .trans
  use hplain rest := passedOver_cons (introducesConstant_of_plain hplain) rest
  cut rest := ⟨leftover_leftBehind.cut rest, rfl⟩

/-- Assumes: a parser that is put together from those that read no constants. It passes over what it
uses up. -/
theorem PassedOver.of_ok {Value : Type} {parser : Parser Value}
    (hrespects : ∀ {Alike}, RespectedInClauses Alike → Respects Alike parser) {value : Value}
    (hok : parser tokens = .ok (value, rest)) : PassedOver tokens rest :=
  (leftover_passedOver.leaves fun origin ↦
    hrespects (leftover_passedOver.respectedInClauses origin)).of_ok hok

/-- What is passed over has no marks, and it is in front of what is left if that does not begin with
a closing angle, which could be the second of two without a gap. -/
theorem PassedOver.exists_unmarked (hpassed : PassedOver tokens rest)
    (hangle : rest.head? ≠ some (.symbol .greater)) :
    ∃ used, tokens = used ++ rest ∧ Unmarked used := by
  obtain ⟨⟨consumed, huses⟩, hmarks⟩ := hpassed
  cases huses with
  | whole used rest =>
    refine ⟨used, rfl, unmarked_iff_countP.2 ?_⟩
    rw [List.countP_append] at hmarks
    omega
  | cut => exact absurd rfl hangle

end Parser

end SchemaTemplate.Grammar
