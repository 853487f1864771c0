import SchemaTemplate.Proofs.ScriptSoundness

/-!
Scripts compose statement by statement. Two scripts with a semicolon between them are read one
behind the other: a failure of the first is the failure of both, with its place, and otherwise the
statements of the second follow those of the first. So a script of any number of stretches is read
stretch by stretch up to the first that cannot be read, and stretches of blanks do not count.
-/

set_option autoImplicit false
set_option relaxedAutoImplicit false

namespace SchemaTemplate

namespace Report

variable {Item Result : Type}

/-- Going through items fails exactly with the failure of the first item that fails. -/
theorem outcome_mapM_eq_error_iff {step : Item → Report Result} {items : List Item}
    {failure : Failure} : (items.mapM step).outcome = .error failure ↔
      ∃ before item after, items = before ++ item :: after ∧
        (∀ earlier ∈ before, ∃ result, (step earlier).outcome = .ok result) ∧
        (step item).outcome = .error failure := by
  induction items with
  | nil => exact iff_of_false nofun fun ⟨before, _, _, hitems, _⟩ ↦ by simp at hitems
  | cons first items ih =>
    rw [List.mapM_cons]
    cases hfirst : (step first).outcome with
    | error earliest =>
      rw [outcome_bind_of_error hfirst, Except.error.injEq]
      constructor
      · rintro rfl
        exact ⟨[], first, items, rfl, nofun, hfirst⟩
      · rintro ⟨_ | ⟨other, before⟩, item, after, hitems, hbefore, hitem⟩ <;> cases hitems
        · exact Except.error.inj (hfirst.symm.trans hitem)
        · obtain ⟨result, hresult⟩ := hbefore first List.mem_cons_self
          cases hfirst.symm.trans hresult
    | ok result =>
      have hmore : (items.mapM step >>= fun more ↦ pure (result :: more)).outcome = .error failure ↔
          (items.mapM step).outcome = .error failure := by
        rw [outcome_bind]
        cases (items.mapM step).outcome <;> simp [bind, Except.bind]
      rw [outcome_bind_of_ok hfirst, hmore, ih]
      constructor
      · rintro ⟨before, item, after, rfl, hbefore, hitem⟩
        refine ⟨first :: before, item, after, rfl, ?_, hitem⟩
        exact List.forall_mem_cons.2 ⟨⟨result, hfirst⟩, hbefore⟩
      · rintro ⟨_ | ⟨other, before⟩, item, after, hitems, hbefore, hitem⟩ <;> cases hitems
        · cases hfirst.symm.trans hitem
        · exact ⟨before, item, after, rfl, (List.forall_mem_cons.1 hbefore).2, hitem⟩

end Report

namespace Script

/-! ### Stretches -/

/-- Whether a lexeme ends the statement in front of it. -/
def Ends (lexeme : Lexeme) : Prop := lexeme.token = .symbol .semicolon

/-- Whether none of the lexemes ends a statement. -/
def Undivided (stretch : List Lexeme) : Prop := ∀ lexeme ∈ stretch, ¬ Ends lexeme

/-- Whether lexemes are whitespace and comments only. -/
def Blank (lexemes : List Lexeme) : Prop := ∀ lexeme ∈ lexemes, lexeme.token.isBlank = true

theorem Blank.undivided {lexemes : List Lexeme} (hblank : Blank lexemes) : Undivided lexemes := by
  intro lexeme hmem hends
  have hbad := hblank lexeme hmem
  rw [hends] at hbad
  cases hbad

theorem significant_eq_nil_iff {lexemes : List Lexeme} :
    significant lexemes = [] ↔ Blank lexemes := by
  simp [significant, Blank]

/-- The statements of two scripts with a semicolon between them have the lexemes that they have
alone. -/
theorem statementLexemes_append_cons (front back : List Lexeme) {semicolon : Lexeme}
    (hends : Ends semicolon) : statementLexemes (front ++ semicolon :: back) =
      statementLexemes front ++ statementLexemes back := by
  have hsplit : splitStatements (front ++ semicolon :: back) =
      splitStatements front ++ splitStatements back :=
    List.splitOnP_append_cons front back (decide_eq_true hends)
  rw [statementLexemes, hsplit, List.filter_append]
  rfl

/-- Lexemes without a semicolon are one statement, or none if they are blank. -/
theorem statementLexemes_of_undivided {stretch : List Lexeme} (hwhole : Undivided stretch) :
    statementLexemes stretch = [stretch].filter fun stretch ↦ !(significant stretch).isEmpty := by
  have hsplit : splitStatements stretch = [stretch] :=
    List.splitOnP_eq_singleton fun lexeme hmem ↦ decide_eq_false (hwhole lexeme hmem)
  rw [statementLexemes, hsplit]

@[simp] theorem statementLexemes_of_blank {blanks : List Lexeme} (hblank : Blank blanks) :
    statementLexemes blanks = [] := by
  rw [statementLexemes_of_undivided hblank.undivided,
    List.filter_cons_of_neg (by simp [significant_eq_nil_iff.2 hblank]), List.filter_nil]

/-! ### Reading in turn -/

/-- Two scripts with a semicolon between them are read one behind the other. -/
theorem readLexemes_append_cons (front back : List Lexeme) {semicolon : Lexeme}
    (hends : Ends semicolon) : readLexemes (front ++ semicolon :: back) = do
      let first ← readLexemes front
      let second ← readLexemes back
      return first ++ second := by
  rw [readLexemes, statementLexemes_append_cons front back hends, List.mapM_append]
  rfl

/-- Stretches of lexemes with a semicolon in front of each but the first. -/
def divided (first : List Lexeme) (others : List (Lexeme × List Lexeme)) : List Lexeme :=
  first ++ others.flatMap fun (semicolon, stretch) ↦ semicolon :: stretch

theorem divided_append_cons (first : List Lexeme) (before behind : List (Lexeme × List Lexeme))
    (other : Lexeme × List Lexeme) : divided first (before ++ other :: behind) =
      divided first before ++ other.1 :: divided other.2 behind := by
  simp [divided]

theorem divided_cons (first : List Lexeme) (other : Lexeme × List Lexeme)
    (others : List (Lexeme × List Lexeme)) :
    divided first (other :: others) = first ++ other.1 :: divided other.2 others := by
  simp [divided]

/-- The statements of stretches with semicolons between them are those that are not blank. -/
theorem statementLexemes_divided {first : List Lexeme} {others : List (Lexeme × List Lexeme)}
    (hfirst : Undivided first) (hothers : ∀ other ∈ others, Ends other.1 ∧ Undivided other.2) :
    statementLexemes (divided first others) =
      (first :: others.map Prod.snd).filter fun stretch ↦ !(significant stretch).isEmpty := by
  induction others generalizing first with
  | nil =>
    rw [divided, List.flatMap_nil, List.append_nil]
    exact statementLexemes_of_undivided hfirst
  | cons other others ih =>
    obtain ⟨⟨hends, hwhole⟩, hrest⟩ := List.forall_mem_cons.1 hothers
    rw [divided_cons, statementLexemes_append_cons _ _ hends, ih hwhole hrest,
      statementLexemes_of_undivided hfirst, ← List.filter_append]
    rfl

/-- All lexemes are stretches with semicolons between them. -/
theorem exists_divided (lexemes : List Lexeme) : ∃ first others,
    lexemes = divided first others ∧ Undivided first ∧
      ∀ other ∈ others, Ends other.1 ∧ Undivided other.2 := by
  induction lexemes with
  | nil => exact ⟨[], [], rfl, nofun, nofun⟩
  | cons lexeme lexemes ih =>
    obtain ⟨first, others, rfl, hfirst, hothers⟩ := ih
    by_cases hends : Ends lexeme
    · refine ⟨[], (lexeme, first) :: others, by simp [divided], nofun, ?_⟩
      exact List.forall_mem_cons.2 ⟨⟨hends, hfirst⟩, hothers⟩
    · exact ⟨lexeme :: first, others, rfl, List.forall_mem_cons.2 ⟨hends, hfirst⟩, hothers⟩

/-- Whether stretches of lexemes are read in turn: each yields one statement, in their order, or the
first that cannot be read gives its failure. -/
structure ReadInTurn (stretches : List (List Lexeme)) (report : Report (List Statement)) :
    Prop where
  succeeds : ∀ statements, report.outcome = .ok statements ↔
    List.Forall₂ (fun stretch statement ↦ (readStatement stretch).outcome = .ok statement)
      stretches statements
  fails : ∀ failure, report.outcome = .error failure ↔
    ∃ before stretch after, stretches = before ++ stretch :: after ∧
      (∀ earlier ∈ before, ∃ statement, (readStatement earlier).outcome = .ok statement) ∧
      (readStatement stretch).outcome = .error failure

theorem readInTurn_readLexemes (lexemes : List Lexeme) :
    ReadInTurn (statementLexemes lexemes) (readLexemes lexemes) :=
  ⟨fun _ ↦ Report.outcome_mapM_eq_ok_iff, fun _ ↦ Report.outcome_mapM_eq_error_iff⟩

/-- Scripts compose statement by statement. Two scripts with a semicolon between them fail as the
first does, at the same place and with the same message, if it does, then as the second does, and
otherwise their statements are those of the first followed by those of the second. So a semicolon
behind nothing but blanks changes neither the outcome nor the log, whether it leads, trails or
follows another. All lexemes are stretches with semicolons between them, and they are read as those
of the stretches that are not blank, in turn: each is one statement, or the first that is none
decides. -/
theorem reading_composes (front back : List Lexeme) (semicolon : Lexeme)
    (hends : Ends semicolon) :
    (∀ failure, (readLexemes front).outcome = .error failure →
      (readLexemes (front ++ semicolon :: back)).outcome = .error failure) ∧
    (∀ first failure, (readLexemes front).outcome = .ok first →
      (readLexemes back).outcome = .error failure →
      (readLexemes (front ++ semicolon :: back)).outcome = .error failure) ∧
    (∀ first second, (readLexemes front).outcome = .ok first →
      (readLexemes back).outcome = .ok second →
      (readLexemes (front ++ semicolon :: back)).outcome = .ok (first ++ second)) ∧
    (∀ blanks, Blank blanks →
      readLexemes (blanks ++ semicolon :: back) = readLexemes back ∧
      readLexemes (front ++ semicolon :: blanks) = readLexemes front ∧
      ∀ other, Ends other → readLexemes (front ++ semicolon :: (blanks ++ other :: back)) =
        readLexemes (front ++ semicolon :: back)) ∧
    (∀ lexemes, ∃ first others, lexemes = divided first others ∧ Undivided first ∧
      ∀ other ∈ others, Ends other.1 ∧ Undivided other.2) ∧
    ∀ first others, Undivided first → (∀ other ∈ others, Ends other.1 ∧ Undivided other.2) →
      ReadInTurn ((first :: others.map Prod.snd).filter fun stretch ↦
        !(significant stretch).isEmpty) (readLexemes (divided first others)) := by
  refine ⟨?_, ?_, ?_, ?_, exists_divided, ?_⟩
  · intro failure hfront
    rw [readLexemes_append_cons front back hends, Report.outcome_bind_of_error hfront]
  · intro first failure hfront hback
    rw [readLexemes_append_cons front back hends, Report.outcome_bind_of_ok hfront,
      Report.outcome_bind_of_error hback]
  · intro first second hfront hback
    rw [readLexemes_append_cons front back hends, Report.outcome_bind_of_ok hfront,
      Report.outcome_bind_of_ok hback, Report.outcome_pure]
  · intro blanks hblank
    have hnone := statementLexemes_of_blank hblank
    refine ⟨?_, ?_, ?_⟩
    · rw [readLexemes, statementLexemes_append_cons _ _ hends, hnone, List.nil_append]
      rfl
    · rw [readLexemes, statementLexemes_append_cons _ _ hends, hnone, List.append_nil]
      rfl
    · intro other hother
      rw [readLexemes, statementLexemes_append_cons _ _ hends,
        statementLexemes_append_cons _ _ hother, hnone, List.nil_append,
        ← statementLexemes_append_cons _ _ hends]
      rfl
  · intro first others hfirst hothers
    rw [← statementLexemes_divided hfirst hothers]
    exact readInTurn_readLexemes _

/-- The selection of a keyspace. -/
def useLexemes : List Lexeme := spaced [.word "use", .quotedWord "shop"]

/-- A semicolon on the second line. -/
def laterSemicolon : Lexeme := ⟨.symbol .semicolon, [';'], ⟨2, 1⟩⟩

/-- A selection without its keyspace, with a blank behind it. -/
def brokenLexemes : List Lexeme :=
  [⟨.word "use", "use".toList, ⟨2, 2⟩⟩, ⟨.blank, [' '], ⟨2, 5⟩⟩]

theorem reading_composes_brokenLexemes :
    Ends laterSemicolon ∧
      (readLexemes (useLexemes ++ laterSemicolon :: brokenLexemes)).outcome =
        (readLexemes brokenLexemes).outcome ∧
      ∃ message, (readLexemes brokenLexemes).outcome = .error (.malformed ⟨2, 6⟩ message) := by
  have hends : Ends laterSemicolon := rfl
  have hcomposes := reading_composes useLexemes brokenLexemes laterSemicolon hends
  exact ⟨hends, hcomposes.2.1 [.use ⟨"shop"⟩] _ rfl rfl, _, rfl⟩

end Script

end SchemaTemplate
