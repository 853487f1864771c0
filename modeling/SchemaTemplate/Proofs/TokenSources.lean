import SchemaTemplate.Token.Lexeme

/-!
What tokens are written with. `Token.spelling?` gives the characters that write a token, for all
kinds of tokens that statements are made of, and whatever is scanned is written with these
(`Token.spelled_scan`). The lexemes of a script follow each other without a gap, so each begins
where those before it end (`Lexeme.start_eq_of_ofText`).
-/

set_option autoImplicit false
set_option relaxedAutoImplicit false

namespace SchemaTemplate

namespace Token

/-- A character of a text between quote marks, where quote marks are doubled. -/
def doubled (quote character : Char) : List Char :=
  if character = quote then [quote, quote] else [character]

/-- A text between quote marks, with each quote mark in it doubled. -/
def quotedSource (quote : Char) (content : List Char) : List Char :=
  quote :: content.flatMap (doubled quote) ++ [quote]

/-- The characters that a token is written with, if it tells them. -/
def spelling? : Token → Option (List Char)
  | word text => some text.toList
  | quotedWord text => some (quotedSource '"' text.toList)
  | string text => some (quotedSource '\'' text.toList)
  | number digits long => some (digits.toList ++ if long then ['L'] else [])
  | symbol punctuation => some punctuation.text.toList
  | blank | other _ => none

/-- Whether the characters that are scanned as a token are those that it is written with. -/
def Spelled (first : Char) (rest : List Char) (token : Token) (extra : Nat) : Prop :=
  ∀ characters ∈ token.spelling?, first :: rest.take extra = characters

variable {first : Char} {rest : List Char} {token : Token} {extra : Nat}

theorem spelled_of_other {shown : String} (hother : token = .other shown) :
    Spelled first rest token extra := by
  subst hother
  exact nofun

/-! ### Words -/

theorem take_length_takeWhile (condition : Char → Bool) (text : List Char) :
    text.take (text.takeWhile condition).length = text.takeWhile condition :=
  (List.prefix_iff_eq_take.1 (List.takeWhile_prefix condition)).symm

/-- A word is written with the characters that it has, of which some may be looked at apart. -/
theorem spelled_wordFrom (first : Char) (lead more : List Char) :
    Spelled first (lead ++ more) (wordFrom (first :: lead) more).1
      (wordFrom (first :: lead) more).2 := by
  rintro characters ⟨⟩
  rw [wordFrom, List.length_cons, Nat.add_sub_cancel, List.take_length_add_append,
    take_length_takeWhile, String.toList_ofList]
  rfl

theorem spelled_numberSign (rest : List Char) :
    Spelled '#' rest (numberSign rest).1 (numberSign rest).2 := by
  unfold numberSign
  split
  any_goals exact spelled_of_other rfl
  exact spelled_wordFrom '#' [_] _

theorem spelled_atSign (rest : List Char) : Spelled '@' rest (atSign rest).1 (atSign rest).2 := by
  unfold atSign
  split
  any_goals exact spelled_of_other rfl
  · exact spelled_wordFrom '@' ['@', _] _
  · exact spelled_wordFrom '@' [_] _

theorem spelled_plain (first : Char) (rest : List Char) :
    Spelled first rest (plain first rest).1 (plain first rest).2 := by
  unfold plain
  split
  next hnumber =>
    subst hnumber
    exact spelled_numberSign rest
  split
  next hat =>
    subst hat
    exact spelled_atSign rest
  split
  · exact spelled_of_other rfl
  split
  · exact spelled_wordFrom first [] rest
  split
  · exact nofun
  · exact spelled_of_other rfl

/-! ### Literals -/

/-- A body that only a quote mark closes is written with its content, in which each quote mark is
doubled, and the closing mark. -/
theorem readBodyAfter_doublingPiece {quote : Char} {unclosed : LexicalFault}
    {content text : List Char} {extent : Nat} {body : Body}
    (hread : readBodyAfter (doublingPiece quote) unclosed content extent text = .ok body) :
    ∃ more behind, body.content = content.reverse ++ more ∧
      text = more.flatMap (doubled quote) ++ quote :: behind ∧
      body.extent = extent + (more.flatMap (doubled quote)).length + 1 := by
  fun_induction readBodyAfter (doublingPiece quote) unclosed content extent text with
  | case1 => cases hread
  | case2 content extent character rest extra hpiece =>
    unfold doublingPiece at hpiece
    split at hpiece
    next hquote =>
      split at hpiece <;> cases hpiece
      cases hread
      exact ⟨[], rest, by simp, by rw [hquote]; rfl, rfl⟩
    next => cases hpiece
  | case3 content extent character rest text extra hpiece ih =>
    unfold doublingPiece at hpiece
    split at hpiece
    next hquote =>
      split at hpiece <;> cases hpiece
      next hdoubled =>
        obtain ⟨behind, rfl⟩ := List.head?_eq_some_iff.1 hdoubled
        obtain ⟨more, left, hcontent, htext, hextent⟩ := ih hread
        refine ⟨quote :: more, left, by simpa using hcontent, ?_, ?_⟩
        · rw [List.drop_one, List.tail_cons] at htext
          simp [doubled, hquote, htext]
        · rw [hextent, List.flatMap_cons, List.length_append, doubled, if_pos rfl,
            List.length_cons, List.length_singleton]
          omega
    next hother =>
      cases hpiece
      obtain ⟨more, left, hcontent, htext, hextent⟩ := ih hread
      refine ⟨character :: more, left, by simpa using hcontent, ?_, ?_⟩
      · rw [List.drop_zero] at htext
        simp [doubled, hother, htext]
      · rw [hextent, List.flatMap_cons, List.length_append, doubled, if_neg hother,
          List.length_singleton]
        omega
  | case4 => cases hread

theorem blamedAt_eq_ok_iff {offset : Nat} {scanned : Scanned} {result : Token × Nat} :
    blamedAt offset scanned = .ok result ↔ scanned = .ok result := by
  cases scanned with
  | ok => exact Iff.rfl
  | error => exact iff_of_false nofun nofun

/-- A literal between single quote marks of a kind is written with its content between them. -/
theorem spelled_literal {quote : Char} {unclosed : LexicalFault} {kind : String → Token}
    (hkind : ∀ text, (kind text).spelling? = some (quotedSource quote text.toList))
    (hscan : literal 1 (doublingPiece quote) unclosed rest kind = .ok (token, extra)) :
    Spelled quote rest token extra := by
  unfold literal at hscan
  split at hscan <;> cases hscan
  next body hread =>
    obtain ⟨more, behind, hcontent, rfl, hextent⟩ := readBodyAfter_doublingPiece hread
    rw [List.reverse_nil, List.nil_append] at hcontent
    intro characters hspelling
    rw [hkind, hcontent, String.toList_ofList] at hspelling
    obtain rfl := Option.mem_some_iff.1 hspelling
    rw [hextent, quotedSource, List.append_cons, List.take_left' (by simp), List.cons_append]

/-! ### Numbers -/

theorem exists_digitsAt_append (text : List Char) : ∃ behind, text = digitsAt text ++ behind := by
  obtain ⟨behind, hbehind⟩ := List.takeWhile_prefix (l := text) Char.isDigit
  exact ⟨behind, hbehind.symm⟩

theorem exists_mantissaAt_append (text : List Char) :
    ∃ behind, text = mantissaAt text ++ behind := by
  obtain ⟨behind, hbehind⟩ := exists_digitsAt_append text
  have hdrop : (digitsAt text ++ behind).drop (digitsAt text).length = behind := List.drop_left
  rw [← hbehind] at hdrop
  simp only [mantissaAt]
  split
  next rest hpoint =>
    obtain ⟨more, hmore⟩ := exists_digitsAt_append rest
    refine ⟨more, ?_⟩
    rw [List.append_assoc, List.cons_append, ← hmore, ← hpoint, hdrop]
    exact hbehind
  next => exact ⟨behind, hbehind⟩

theorem exists_exponentAt_append (text : List Char) :
    ∃ behind, text = exponentAt text ++ behind := by
  unfold exponentAt
  split
  · exact ⟨[], rfl⟩
  next mark rest =>
    have hsigned : ∀ sign more, rest = sign ++ more → ∃ behind, mark :: rest =
        (if ((mark = 'e' || mark = 'E') && !(digitsAt (rest.drop sign.length)).isEmpty) = true
          then mark :: (sign ++ digitsAt (rest.drop sign.length)) else []) ++ behind := by
      rintro sign more rfl
      rw [List.drop_left]
      split
      · obtain ⟨behind, hbehind⟩ := exists_digitsAt_append more
        refine ⟨behind, ?_⟩
        rw [List.cons_append, List.append_assoc, ← hbehind]
      · exact ⟨_, rfl⟩
    dsimp only
    split
    · exact hsigned ['+'] _ rfl
    · exact hsigned ['-'] _ rfl
    · exact hsigned [] rest rfl

theorem mantissaAt_ne_nil (hfirst : first.isDigit = true ∨ first = '.') (rest : List Char) :
    mantissaAt (first :: rest) ≠ [] := by
  have hdigits : first.isDigit = true →
      digitsAt (first :: rest) = first :: rest.takeWhile Char.isDigit :=
    fun hdigit ↦ List.takeWhile_cons_of_pos hdigit
  simp only [mantissaAt]
  split
  · simp
  next hpoint =>
    obtain hdigit | rfl := hfirst
    · rw [hdigits hdigit]
      exact List.cons_ne_nil _ _
    · exact absurd rfl (hpoint rest)

/-- A number is written with its digits, the point and the exponent among them, and perhaps the mark
of a long number. -/
theorem spelled_number {written more : List Char} (hwritten : written ≠ [])
    (htext : first :: rest = written ++ more) :
    Spelled first rest (.number (String.ofList written) (more.head? = some 'L'))
      (written.length + (if more.head? = some 'L' then 1 else 0) - 1) := by
  rintro characters ⟨⟩
  have hpositive := List.length_pos_iff.2 hwritten
  rw [← List.take_succ_cons, htext, String.toList_ofList]
  by_cases hlong : more.head? = some 'L'
  · obtain ⟨behind, rfl⟩ := List.head?_eq_some_iff.1 hlong
    simp only [hlong, if_true, decide_true]
    rw [List.append_cons, List.take_left' (by simp)]
  · simp only [hlong, if_false, decide_false, Bool.false_eq_true]
    rw [List.take_left' (by omega), List.append_nil]

theorem spelled_numberAt (hfirst : first.isDigit = true ∨ first = '.') (rest : List Char) :
    Spelled first rest (numberAt (first :: rest)).1 ((numberAt (first :: rest)).2 - 1) := by
  unfold numberAt
  split
  · exact spelled_of_other rfl
  have hnonempty := mantissaAt_ne_nil hfirst rest
  obtain ⟨behind, hbehind⟩ := exists_mantissaAt_append (first :: rest)
  generalize mantissaAt (first :: rest) = mantissa at hnonempty hbehind
  obtain ⟨more, hmore⟩ := exists_exponentAt_append behind
  dsimp only
  split
  next hpoint =>
    rw [hpoint] at hbehind
    cases hbehind
    rintro characters ⟨⟩
    rfl
  next =>
    rw [hbehind, List.drop_left]
    have hwritten : mantissa ++ exponentAt behind ≠ [] := by simp [hnonempty]
    have htext : first :: rest = mantissa ++ exponentAt behind ++ more := by
      rw [List.append_assoc, ← hmore, hbehind]
    rw [← hbehind, htext, List.drop_left]
    have hspelled := spelled_number hwritten htext
    simpa using hspelled

/-! ### Operators and tokens that are only shown -/

theorem spelled_ofOperator {spelling : String}
    (hoperator : operatorAt? (first :: rest) = some spelling) :
    Spelled first rest (ofOperator spelling) (spelling.length - 1) := by
  unfold operatorAt? at hoperator
  unfold ofOperator
  split
  next punctuation hfound =>
    have htext : punctuation.text = spelling := by simpa using List.find?_some hfound
    have hbegins := List.find?_some hoperator
    obtain ⟨behind, hbehind⟩ := List.isPrefixOf_iff_prefix.1 hbegins
    have hpositive : 0 < spelling.length := by
      have hall : ∀ spelling ∈ operatorSpellings, 0 < spelling.length := by decide
      exact hall spelling (List.mem_of_find?_eq_some hoperator)
    rintro characters ⟨⟩
    rw [← List.take_succ_cons, ← hbehind, htext]
    rw [List.take_left' (by rw [String.length_toList]; omega)]
  next => exact spelled_of_other rfl

/-- Whether a token that is scanned is one that is only shown. -/
def OnlyShown (scanned : Scanned) : Prop :=
  ∀ token extra, scanned = .ok (token, extra) → token.spelling? = none

theorem onlyShown_blamedAt {scanned : Scanned} (hshown : OnlyShown scanned) (offset : Nat) :
    OnlyShown (blamedAt offset scanned) :=
  fun token extra hscan ↦ hshown token extra (blamedAt_eq_ok_iff.1 hscan)

theorem onlyShown_literal {opening : Nat} {piece : Char → List Char → Piece}
    {unclosed : LexicalFault} {text : List Char} {kind : String → Token}
    (hkind : ∀ text, (kind text).spelling? = none) :
    OnlyShown (literal opening piece unclosed text kind) := by
  intro token extra hscan
  unfold literal at hscan
  split at hscan <;> cases hscan
  exact hkind _

theorem onlyShown_rawString (quote : Char) (text : List Char) :
    OnlyShown (rawString quote text) := by
  unfold rawString
  dsimp only
  split
  · exact onlyShown_blamedAt (onlyShown_literal fun _ ↦ rfl) 4
  · rintro _ _ ⟨⟩
    rfl
  · exact onlyShown_blamedAt (onlyShown_literal fun _ ↦ rfl) 2

theorem onlyShown_markedLiteral? {letter : Char} {scanned : Scanned}
    (hliteral : markedLiteral? letter rest = some scanned) : OnlyShown scanned := by
  unfold markedLiteral? at hliteral
  split at hliteral <;> cases hliteral
  any_goals exact onlyShown_rawString _ _
  any_goals exact onlyShown_blamedAt (onlyShown_literal fun _ ↦ rfl) _
  exact onlyShown_literal fun _ ↦ rfl

theorem onlyShown_dollar (rest : List Char) : OnlyShown (dollar rest) := by
  unfold dollar
  dsimp only
  split
  · exact onlyShown_literal fun _ ↦ rfl
  · rintro _ _ ⟨⟩
    rfl

theorem onlyShown_comment? {scanned : Scanned} (hcomment : comment? first rest = some scanned) :
    OnlyShown scanned := by
  unfold comment? at hcomment
  split at hcomment
  · cases hcomment
    rintro _ _ ⟨⟩
    rfl
  · split at hcomment <;> cases hcomment
    · rintro _ _ ⟨⟩
      rfl
    · exact nofun
  · cases hcomment

theorem spelled_of_onlyShown {scanned : Scanned} (hshown : OnlyShown scanned)
    (hscan : scanned = .ok (token, extra)) : Spelled first rest token extra := by
  rw [Spelled, hshown token extra hscan]
  exact nofun

/-! ### Any token -/

/-- A token of the kinds that statements are made of is written with its spelling. -/
theorem spelled_scan (hscan : scan first rest = .ok (token, extra)) :
    Spelled first rest token extra := by
  unfold scan at hscan
  split at hscan
  · cases hscan
    exact nofun
  split at hscan
  next scanned hliteral => exact spelled_of_onlyShown (onlyShown_markedLiteral? hliteral) hscan
  split at hscan
  next hquote =>
    subst hquote
    exact spelled_literal (fun _ ↦ rfl) (blamedAt_eq_ok_iff.1 hscan)
  split at hscan
  next hquote =>
    subst hquote
    exact spelled_literal (fun _ ↦ rfl) (blamedAt_eq_ok_iff.1 hscan)
  split at hscan
  · exact spelled_of_onlyShown (onlyShown_blamedAt (onlyShown_literal fun _ ↦ rfl) 0) hscan
  split at hscan
  next hnumber =>
    cases hscan
    exact spelled_numberAt (by simpa using hnumber) rest
  split at hscan
  next scanned hcomment => exact spelled_of_onlyShown (onlyShown_comment? hcomment) hscan
  split at hscan
  next spelling hoperator =>
    cases hscan
    exact spelled_ofOperator hoperator
  split at hscan
  · exact spelled_of_onlyShown (onlyShown_dollar rest) hscan
  · have hplain := spelled_plain first rest
    rwa [Except.ok.inj hscan] at hplain

end Token

namespace Lexeme

/-! ### Lexemes of a script -/

/-- Whether a lexeme is written with the spelling of its token. -/
def Spelled (lexeme : Lexeme) : Prop :=
  ∀ characters ∈ lexeme.token.spelling?, lexeme.source = characters

/-- Whether lexemes follow each other without a gap, the first of them from a place on. -/
def Follow : Position → List Lexeme → Prop
  | _, [] => True
  | position, lexeme :: lexemes => lexeme.start = position ∧ Follow lexeme.stop lexemes

theorem exists_follow_of_ofTextAfter {done lexemes : List Lexeme} {position : Position}
    {text : List Char} (hsplit : ofTextAfter done position text = .ok lexemes) :
    ∃ more, lexemes = done.reverse ++ more ∧ Follow position more ∧
      ∀ lexeme ∈ more, lexeme.Spelled := by
  fun_induction ofTextAfter done position text with
  | case1 done position =>
    cases hsplit
    exact ⟨[], by simp, trivial, List.forall_mem_nil _⟩
  | case2 => cases hsplit
  | case3 done position first rest token extra hscan lexeme ih =>
    obtain ⟨more, rfl, hfollow, hspelled⟩ := ih hsplit
    exact ⟨lexeme :: more, by simp, ⟨rfl, hfollow⟩,
      List.forall_mem_cons.2 ⟨Token.spelled_scan hscan, hspelled⟩⟩

/-- Every lexeme of a script is written with the spelling of its token, if the token tells one. -/
theorem spelled_of_ofText {script : String} {lexemes : List Lexeme}
    (hsplit : ofText script = .ok lexemes) : ∀ lexeme ∈ lexemes, lexeme.Spelled := by
  obtain ⟨more, rfl, -, hspelled⟩ := exists_follow_of_ofTextAfter hsplit
  exact hspelled

theorem Follow.start_eq {position : Position} {front back : List Lexeme} {lexeme : Lexeme}
    (hfollow : Follow position (front ++ lexeme :: back)) :
    lexeme.start = position.past (front.flatMap source) := by
  induction front generalizing position with
  | nil => exact hfollow.1
  | cons first front ih =>
    rw [ih hfollow.2, List.flatMap_cons, Position.past_append, stop, hfollow.1]

/-- Every lexeme of a script begins where those before it end. -/
theorem start_eq_of_ofText {script : String} {front back : List Lexeme} {lexeme : Lexeme}
    (hsplit : ofText script = .ok (front ++ lexeme :: back)) :
    lexeme.start = Position.start.past (front.flatMap source) := by
  obtain ⟨more, hmore, hfollow, -⟩ := exists_follow_of_ofTextAfter hsplit
  rw [List.reverse_nil, List.nil_append] at hmore
  rw [← hmore] at hfollow
  exact hfollow.start_eq

end Lexeme

end SchemaTemplate
