import SchemaTemplate.Proofs.Progress
import SchemaTemplate.Proofs.Recasing
import SchemaTemplate.Proofs.TokenSources

/-!
The places of syntax errors. A parser stops in front of a token that it did not use up, at the end
of its statement, or between two closing angles without a gap (`Script.StopsAt`), and everything in
front of that is used up. The place of the error is where the token begins, or where the statement
ends, so it is that of the first character that was not used up, unless one angle of two was: then
it is one column short of it.
-/

set_option autoImplicit false
set_option relaxedAutoImplicit false

namespace SchemaTemplate

namespace Script

open Grammar Grammar.Parser

variable {lexemes front stretch back : List Lexeme}

/-! ### Stretches within a script -/

/-- Whether a stretch is what stands in a script between two semicolons, or between one of them and
an end of the script. -/
structure Delimited (lexemes front stretch back : List Lexeme) : Prop where
  whole : lexemes = front ++ stretch ++ back
  undivided : Undivided stretch
  opened : front = [] ∨ ∃ before semicolon, front = before ++ [semicolon] ∧ Ends semicolon
  closed : back = [] ∨ ∃ semicolon behind, back = semicolon :: behind ∧ Ends semicolon

/-- Behind the first stretch stands a semicolon or the end. -/
theorem exists_back_of_divided (first : List Lexeme) {others : List (Lexeme × List Lexeme)}
    (hends : ∀ other ∈ others, Ends other.1) : ∃ back, divided first others = first ++ back ∧
      (back = [] ∨ ∃ semicolon behind, back = semicolon :: behind ∧ Ends semicolon) := by
  cases others with
  | nil => exact ⟨[], rfl, .inl rfl⟩
  | cons other others =>
    exact ⟨_, divided_cons first other others,
      .inr ⟨other.1, _, rfl, hends other List.mem_cons_self⟩⟩

theorem exists_delimited_of_divided {first : List Lexeme} {others : List (Lexeme × List Lexeme)}
    (hfirst : Undivided first) (hothers : ∀ other ∈ others, Ends other.1 ∧ Undivided other.2)
    (hmem : stretch ∈ first :: others.map Prod.snd) :
    ∃ front back, Delimited (divided first others) front stretch back := by
  rw [List.mem_cons, List.mem_map] at hmem
  obtain rfl | ⟨other, hother, rfl⟩ := hmem
  · obtain ⟨back, hback, hclosed⟩ :=
      exists_back_of_divided stretch fun other hmem ↦ (hothers other hmem).1
    exact ⟨[], back, hback, hfirst, .inl rfl, hclosed⟩
  · obtain ⟨before, behind, rfl⟩ := List.append_of_mem hother
    obtain ⟨hends, hwhole⟩ := hothers other hother
    have hlater : ∀ later ∈ behind, Ends later.1 := fun later hmem ↦
      (hothers later (List.mem_append_right _ (List.mem_cons_of_mem _ hmem))).1
    obtain ⟨back, hback, hclosed⟩ := exists_back_of_divided other.2 hlater
    refine ⟨divided first before ++ [other.1], back, ?_, hwhole, .inr ⟨_, other.1, rfl, hends⟩,
      hclosed⟩
    rw [divided_append_cons, hback]
    simp

theorem exists_delimited_of_mem (hmem : stretch ∈ statementLexemes lexemes) :
    ∃ front back, Delimited lexemes front stretch back := by
  obtain ⟨first, others, rfl, hfirst, hothers⟩ := exists_divided lexemes
  rw [statementLexemes_divided hfirst hothers] at hmem
  exact exists_delimited_of_divided hfirst hothers (List.mem_filter.1 hmem).1

/-! ### Where reading stops -/

/-- Where the reading of a stretch of lexemes stops: the tokens that are left, the lexemes in front
of them, and the characters behind these that are used up although their token is not. -/
inductive StopsAt (stretch : List Lexeme) :
    (left : List Token) → (used : List Lexeme) → (half : List Char) → Prop
  | ended : StopsAt stretch [] stretch []
  | before {used behind : List Lexeme} {lexeme : Lexeme}
    (hsplit : stretch = used ++ lexeme :: behind) (hvisible : lexeme.token.isBlank = false) :
    StopsAt stretch (lexeme.token :: tokensIn behind) used []
  | within {used behind : List Lexeme} {lexeme : Lexeme}
    (hsplit : stretch = used ++ lexeme :: behind) (hangles : lexeme.token = .symbol .shiftRight)
    (hsource : lexeme.source = ['>', '>']) :
    StopsAt stretch (.symbol .greater :: tokensIn behind) used ['>']

/-- If nothing is left, all lexemes are used up. -/
theorem StopsAt.used_eq {used : List Lexeme} {half : List Char}
    (hstops : StopsAt stretch [] used half) : used = stretch := by
  cases hstops
  rfl

/-- A token of a stretch comes from a lexeme, with the other tokens from those around it. -/
theorem exists_lexeme_of_tokensIn {before behind : List Token} {token : Token}
    (htokens : tokensIn stretch = before ++ token :: behind) :
    ∃ used lexeme rest, stretch = used ++ lexeme :: rest ∧ lexeme.token = token ∧
      lexeme.token.isBlank = false ∧ tokensIn rest = behind := by
  obtain ⟨_, others, hsplit, -, hothers⟩ := List.map_eq_append_iff.1 htokens
  obtain ⟨lexeme, _, rfl, htoken, hbehind⟩ := List.map_eq_cons_iff.1 hothers
  obtain ⟨used, _, rfl, -, hothers⟩ := List.filter_eq_append_iff.1 hsplit
  obtain ⟨blanks, rest, rfl, -, hvisible, rfl⟩ := List.filter_eq_cons_iff.1 hothers
  refine ⟨used ++ blanks, lexeme, rest, by simp, htoken, by simpa using hvisible, hbehind⟩

theorem exists_stopsAt {consumed left : List Token}
    (hspelled : ∀ lexeme ∈ stretch, lexeme.Spelled)
    (huses : UsesUp (tokensIn stretch) consumed left) : ∃ used half, StopsAt stretch left used half
      := by
  generalize htokens : tokensIn stretch = tokens at huses
  cases huses with
  | whole consumed left =>
    cases left with
    | nil => exact ⟨stretch, [], .ended⟩
    | cons token behind =>
      obtain ⟨used, lexeme, rest, hsplit, rfl, hvisible, rfl⟩ := exists_lexeme_of_tokensIn htokens
      exact ⟨used, [], .before hsplit hvisible⟩
  | cut consumed behind =>
    obtain ⟨used, lexeme, rest, rfl, hangles, -, rfl⟩ := exists_lexeme_of_tokensIn htokens
    have hsource := hspelled lexeme (by simp) ['>', '>'] (by rw [hangles]; rfl)
    exact ⟨used, ['>'], .within rfl hangles hsource⟩

/-! ### Places -/

theorem stop_eq_of_ofText {script : String} (hnonempty : stretch ≠ [])
    (hsplit : Lexeme.ofText script = .ok (front ++ stretch ++ back)) :
    stop stretch = Position.start.past ((front ++ stretch).flatMap Lexeme.source) := by
  obtain ⟨before, last, rfl⟩ := (List.eq_nil_or_concat' stretch).resolve_left hnonempty
  have hlast : Lexeme.ofText script = .ok ((front ++ before) ++ last :: back) := by
    rw [hsplit]
    simp
  rw [stop, List.getLast?_concat, Option.map_some, Option.getD_some, Lexeme.stop,
    Lexeme.start_eq_of_ofText hlast, ← Position.past_append]
  simp

/-- The place that is reported is that of the first lexeme that is not used up, or that behind the
stretch if there is none. -/
theorem placeBefore_eq_of_stopsAt {script : String} {left : List Token} {used : List Lexeme}
    {half : List Char} (hnonempty : stretch ≠ [])
    (hsplit : Lexeme.ofText script = .ok (front ++ stretch ++ back))
    (hstops : StopsAt stretch left used half) : placeBefore stretch left.length =
      Position.start.past ((front ++ used).flatMap Lexeme.source) := by
  -- In front of a lexeme that is left as many tokens are used up as are in front of it.
  have hbefore : ∀ (lexeme : Lexeme) (behind : List Lexeme), stretch = used ++ lexeme :: behind →
      lexeme.token.isBlank = false → left.length = (tokensIn behind).length + 1 →
        placeBefore stretch left.length =
          Position.start.past ((front ++ used).flatMap Lexeme.source) := by
    rintro lexeme behind rfl hvisible hleft
    have hlexeme : Lexeme.ofText script = .ok ((front ++ used) ++ lexeme :: (behind ++ back)) := by
      rw [hsplit]
      simp
    have hsignificant : significant (used ++ lexeme :: behind) =
        significant used ++ lexeme :: significant behind := by
      simp [significant, hvisible]
    have hnumber : (tokensIn (used ++ lexeme :: behind)).length - left.length =
        (significant used).length := by
      rw [hleft, length_tokensIn, hsignificant, length_tokensIn]
      simp
    rw [placeBefore_eq_placeOf, hnumber, placeOf, hsignificant]
    simp [Lexeme.start_eq_of_ofText hlexeme]
  cases hstops with
  | ended =>
    rw [placeBefore_eq_placeOf, placeOf, List.length_nil, Nat.sub_zero, length_tokensIn,
      List.getElem?_eq_none (Nat.le_refl _)]
    exact stop_eq_of_ofText hnonempty hsplit
  | before hstretch hvisible => exact hbefore _ _ hstretch hvisible rfl
  | within hstretch hangles => exact hbefore _ _ hstretch (by rw [hangles]; rfl) rfl

/-! ### Syntax errors -/

/-- How a syntax error in a script came about: the statement that could not be read, with what
stands in front of it and behind it, what was wanted in front of which tokens, and where reading
stopped. -/
structure SyntaxError (lexemes : List Lexeme) where
  front : List Lexeme
  stretch : List Lexeme
  back : List Lexeme
  delimited : Delimited lexemes front stretch back
  wanted : Expectation
  left : List Token
  rejected : statementOf (tokensIn stretch) = .error (.unexpected wanted left)
  /-- The lexemes of the statement in front of what is left, with the blanks between them. -/
  used : List Lexeme
  /-- The characters behind these that are used up although their token is not. -/
  half : List Char
  stops : StopsAt stretch left used half

namespace SyntaxError

/-- The place where the lexemes that are used up end. -/
def reached (error : SyntaxError lexemes) : Position :=
  Position.start.past ((error.front ++ error.used).flatMap Lexeme.source)

/-- The place of the first character that is not used up. -/
def firstLeft (error : SyntaxError lexemes) : Position :=
  Position.start.past ((error.front ++ error.used).flatMap Lexeme.source ++ error.half)

theorem firstLeft_eq (error : SyntaxError lexemes) :
    error.firstLeft = ⟨error.reached.line, error.reached.column + error.half.length⟩ := by
  rw [firstLeft, Position.past_append, ← reached]
  obtain ⟨front, stretch, back, -, wanted, left, -, used, half, hstops⟩ := error
  cases hstops with
  | ended | before => rfl
  | within => rfl

theorem reached_eq_firstLeft_iff (error : SyntaxError lexemes) :
    error.reached = error.firstLeft ↔ error.half = [] := by
  rw [firstLeft_eq]
  constructor
  · intro hsame
    have hcolumn := congrArg Position.column hsame
    rw [← List.length_eq_zero_iff]
    exact Nat.left_eq_add.1 hcolumn
  · intro hwhole
    rw [hwhole]
    rfl

theorem reached_of_left_nil {script : String} (hsplit : Lexeme.ofText script = .ok lexemes)
    (error : SyntaxError lexemes) (hnone : error.left = []) :
    (error.back = [] ∧ error.reached = Position.start.past script.toList) ∨
      ∃ semicolon behind, error.back = semicolon :: behind ∧ Ends semicolon ∧
        error.reached = semicolon.start := by
  have hused : error.used = error.stretch := by
    have hstops := error.stops
    rw [hnone] at hstops
    exact hstops.used_eq
  have hwhole := error.delimited.whole
  obtain hend | ⟨semicolon, behind, hbehind, hends⟩ := error.delimited.closed
  · rw [hend, List.append_nil, ← hused] at hwhole
    exact .inl ⟨hend, by rw [reached, ← hwhole, Lexeme.ofText_sources hsplit]⟩
  · rw [hwhole, hbehind, ← hused] at hsplit
    exact .inr ⟨semicolon, behind, hbehind, hends, (Lexeme.start_eq_of_ofText hsplit).symm⟩

end SyntaxError

theorem rejection_of_malformed {position : Position} {detail : String}
    (hfail : (readStatement stretch).outcome = .error (.malformed position detail)) :
    ∃ wanted left, statementOf (tokensIn stretch) = .error (.unexpected wanted left) ∧
      position = placeBefore stretch left.length ∧ detail = wanted.complaint left := by
  cases hend : statementOf (tokensIn stretch) with
  | error rejection =>
    rw [outcome_readStatement_of_error hend] at hfail
    cases rejection with
    | unexpected wanted left =>
      cases hfail
      exact ⟨wanted, left, rfl, rfl, rfl⟩
    | faulty => cases hfail
  | ok statement =>
    cases hcheck : statement.check with
    | error fault =>
      rw [outcome_readStatement_of_fault hend hcheck] at hfail
      cases hfail
    | ok =>
      rw [outcome_readStatement_eq_ok_iff.2 ⟨hend, hcheck⟩] at hfail
      cases hfail

theorem exists_usesUp_of_rejection {tokens left : List Token} {wanted : Expectation}
    (hrejected : statementOf tokens = .error (.unexpected wanted left)) :
    ∃ consumed, UsesUp tokens consumed left := by
  refine advances_statement tokens left ?_
  have hrun : statementOf tokens = (statement tokens).map Prod.fst := rfl
  rw [hrun] at hrejected
  cases hend : statement tokens with
  | ok =>
    rw [hend] at hrejected
    cases hrejected
  | error rejection =>
    rw [hend] at hrejected
    cases hrejected
    rfl

/-- Syntax errors point at what is left. If a script is split into lexemes and is malformed at a
place, then one of its statements was rejected, and the place is where the lexemes that were used up
end: in front of the first that is left, blanks not counted, or at the semicolon behind the
statement or the end of the script if none is left. This is the place of the first character that
was not used up exactly if reading did not stop between two closing angles without a gap. There the
place is that of the first angle, which was used up, one column short of the second. -/
theorem places_of_syntax_errors {script : String} {lexemes : List Lexeme} {position : Position}
    {detail : String} (hsplit : Lexeme.ofText script = .ok lexemes)
    (hfail : (read script).outcome = .error (.malformed position detail)) :
    ∃ error : SyntaxError lexemes, detail = error.wanted.complaint error.left ∧
      position = error.reached ∧ (position = error.firstLeft ↔ error.half = []) ∧
      error.firstLeft = ⟨position.line, position.column + error.half.length⟩ ∧
      (error.left = [] →
        (error.back = [] ∧ position = Position.start.past script.toList) ∨
          ∃ semicolon behind, error.back = semicolon :: behind ∧ Ends semicolon ∧
            position = semicolon.start) := by
  have hlexemes : (readLexemes lexemes).outcome = .error (.malformed position detail) := by
    rw [← hfail, read, Report.outcome_bind_of_ok hsplit]
  obtain ⟨before, stretch, behind, hstretches, -, hstretch⟩ :=
    (readInTurn_readLexemes lexemes).fails _ |>.1 hlexemes
  have hmem : stretch ∈ statementLexemes lexemes := by
    rw [hstretches]
    simp
  obtain ⟨front, back, hdelimited⟩ := exists_delimited_of_mem hmem
  obtain ⟨wanted, left, hrejected, rfl, rfl⟩ := rejection_of_malformed hstretch
  obtain ⟨consumed, hconsumed⟩ := exists_usesUp_of_rejection hrejected
  have hspelled : ∀ lexeme ∈ stretch, lexeme.Spelled := by
    intro lexeme hlexeme
    refine Lexeme.spelled_of_ofText hsplit lexeme ?_
    rw [hdelimited.whole]
    simp [hlexeme]
  obtain ⟨used, half, hstops⟩ := exists_stopsAt hspelled hconsumed
  have hnonempty : stretch ≠ [] := by
    rintro rfl
    cases (List.mem_filter.1 hmem).2
  let error : SyntaxError lexemes :=
    { front, stretch, back, delimited := hdelimited, wanted, left, rejected := hrejected, used,
      half, stops := hstops }
  have hplace : placeBefore stretch left.length = error.reached :=
    placeBefore_eq_of_stopsAt hnonempty (hdelimited.whole ▸ hsplit) hstops
  rw [hplace]
  exact ⟨error, rfl, rfl, error.reached_eq_firstLeft_iff, error.firstLeft_eq,
    error.reached_of_left_nil hsplit⟩

/-- A selection of a keyspace without its name, in front of another one. -/
def namelessScript : String := "use ;use shop"

def namelessLexemes : List Lexeme :=
  [⟨.word "use", ['u', 's', 'e'], ⟨1, 1⟩⟩, ⟨.blank, [' '], ⟨1, 4⟩⟩,
    ⟨.symbol .semicolon, [';'], ⟨1, 5⟩⟩, ⟨.word "use", ['u', 's', 'e'], ⟨1, 6⟩⟩,
    ⟨.blank, [' '], ⟨1, 9⟩⟩, ⟨.word "shop", ['s', 'h', 'o', 'p'], ⟨1, 10⟩⟩]

theorem places_of_syntax_errors_namelessScript :
    Lexeme.ofText namelessScript = .ok namelessLexemes ∧
      ∃ detail, (read namelessScript).outcome = .error (.malformed ⟨1, 5⟩ detail) ∧
        ∃ error : SyntaxError namelessLexemes, detail = error.wanted.complaint error.left ∧
          (⟨1, 5⟩ : Position) = error.reached ∧
          (⟨1, 5⟩ = error.firstLeft ↔ error.half = []) := by
  have hsplit : Lexeme.ofText namelessScript = .ok namelessLexemes := by decide +kernel
  have hfail : (read namelessScript).outcome =
      .error (.malformed ⟨1, 5⟩ "expected identifier but reached end of statement") := by
    decide +kernel
  obtain ⟨error, hdetail, hplace, hiff, -⟩ := places_of_syntax_errors hsplit hfail
  exact ⟨hsplit, _, hfail, error, hdetail, hplace, hiff⟩

/-- A table with one closing angle too many behind the type of its column. -/
def overclosedScript : String := "CREATE TABLE t (a list<int>> PRIMARY KEY)"

/-- The lexemes of `overclosedScript` in front of the two angles. -/
def usedLexemes : List Lexeme :=
  [⟨.word "CREATE", ['C', 'R', 'E', 'A', 'T', 'E'], ⟨1, 1⟩⟩, ⟨.blank, [' '], ⟨1, 7⟩⟩,
    ⟨.word "TABLE", ['T', 'A', 'B', 'L', 'E'], ⟨1, 8⟩⟩, ⟨.blank, [' '], ⟨1, 13⟩⟩,
    ⟨.word "t", ['t'], ⟨1, 14⟩⟩, ⟨.blank, [' '], ⟨1, 15⟩⟩,
    ⟨.symbol .leftParenthesis, ['('], ⟨1, 16⟩⟩, ⟨.word "a", ['a'], ⟨1, 17⟩⟩,
    ⟨.blank, [' '], ⟨1, 18⟩⟩, ⟨.word "list", ['l', 'i', 's', 't'], ⟨1, 19⟩⟩,
    ⟨.symbol .less, ['<'], ⟨1, 23⟩⟩, ⟨.word "int", ['i', 'n', 't'], ⟨1, 24⟩⟩]

/-- The lexemes of `overclosedScript` from the two angles on. -/
def leftLexemes : List Lexeme :=
  [⟨.symbol .shiftRight, ['>', '>'], ⟨1, 27⟩⟩, ⟨.blank, [' '], ⟨1, 29⟩⟩,
    ⟨.word "PRIMARY", ['P', 'R', 'I', 'M', 'A', 'R', 'Y'], ⟨1, 30⟩⟩, ⟨.blank, [' '], ⟨1, 37⟩⟩,
    ⟨.word "KEY", ['K', 'E', 'Y'], ⟨1, 38⟩⟩, ⟨.symbol .rightParenthesis, [')'], ⟨1, 41⟩⟩]

/-- The error in `overclosedScript`: the first of the two angles closes the type, and the second is
left where the definition should go on. -/
def overclosedError : SyntaxError (usedLexemes ++ leftLexemes) where
  front := []
  stretch := usedLexemes ++ leftLexemes
  back := []
  delimited := ⟨by simp, by simp [Undivided, Ends, usedLexemes, leftLexemes], .inl rfl, .inl rfl⟩
  wanted := .symbol .rightParenthesis
  left := [.symbol .greater, .word "PRIMARY", .word "KEY", .symbol .rightParenthesis]
  rejected := rfl
  used := usedLexemes
  half := ['>']
  stops := .within rfl rfl rfl

/-- The second angle is the first character that is not used up, but the error is placed at the
first angle. -/
theorem place_of_angle_used_up :
    Lexeme.ofText overclosedScript = .ok (usedLexemes ++ leftLexemes) ∧
      (read overclosedScript).outcome =
        .error (.malformed ⟨1, 27⟩ (overclosedError.wanted.complaint overclosedError.left)) ∧
      overclosedError.firstLeft = ⟨1, 28⟩ := by
  refine ⟨by decide +kernel, by decide +kernel, rfl⟩

end Script

end SchemaTemplate
