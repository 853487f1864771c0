import SchemaTemplate.Failure

/-!
Reports. Every step of a conversion gives account of what it did: it has an outcome, a value or a
failure, and it leaves entries for the log and warnings on the way. Steps are put together with what
they leave one behind the other, up to the first failure. A warning is logged in any case; where
warnings are tolerated it is recorded, and where they are not it is the failure of its step.
-/

set_option autoImplicit false
set_option relaxedAutoImplicit false

namespace SchemaTemplate

/-- The importance of a log entry. -/
inductive Level
  | debug
  | info
  | warn
  | error
  deriving DecidableEq, Repr

/-- A line of the log. -/
structure Entry where
  level : Level
  message : String
  deriving DecidableEq, Repr

/-- Whether warnings are tolerated. -/
inductive Strictness
  | lenient
  | strict
  deriving DecidableEq, Repr

/-- Decides whether two outcomes are equal. -/
instance decidableEqOutcome {Fault Value : Type} [DecidableEq Fault] [DecidableEq Value] :
    DecidableEq (Except Fault Value)
  | .ok first, .ok second => decidable_of_iff (first = second) (by simp)
  | .error first, .error second => decidable_of_iff (first = second) (by simp)
  | .ok _, .error _ => .isFalse nofun
  | .error _, .ok _ => .isFalse nofun

/-- What a step of a conversion yields. -/
structure Report (Value : Type) where
  entries : List Entry
  /-- The warnings given and tolerated. -/
  warnings : List String
  outcome : Except Failure Value
  deriving DecidableEq

namespace Report

variable {Value Result : Type}

/-- Continues a successful report. -/
def andThen (report : Report Value) (next : Value → Report Result) : Report Result :=
  match report.outcome with
  | .ok value =>
    let more := next value
    ⟨report.entries ++ more.entries, report.warnings ++ more.warnings, more.outcome⟩
  | .error failure => ⟨report.entries, report.warnings, .error failure⟩

instance : Monad Report where
  pure value := ⟨[], [], .ok value⟩
  bind := andThen

/-- The outcome of a continued report is that of its continuation. -/
@[simp] theorem outcome_bind (report : Report Value) (next : Value → Report Result) :
    (report >>= next).outcome = report.outcome >>= fun value ↦ (next value).outcome := by
  change (report.andThen next).outcome = _
  cases h : report.outcome <;> simp [andThen, h, bind, Except.bind]

@[simp] theorem outcome_pure (value : Value) : (pure value : Report Value).outcome = .ok value :=
  rfl

/-- A report may be continued step by step or by all further steps at once. -/
theorem andThen_assoc {Last : Type} (report : Report Value) (next : Value → Report Result)
    (last : Result → Report Last) :
    (report.andThen next).andThen last = report.andThen fun value ↦ (next value).andThen last := by
  obtain ⟨entries, warnings, outcome⟩ := report
  cases outcome with
  | error failure => rfl
  | ok value =>
    simp only [andThen]
    cases (next value).outcome <;> simp

instance : LawfulMonad Report :=
  LawfulMonad.mk' Report
    (fun report ↦ by
      change report.andThen (fun value ↦ ⟨[], [], .ok value⟩) = report
      obtain ⟨entries, warnings, outcome⟩ := report
      cases outcome <;> simp [andThen])
    (fun value next ↦ by
      change (Report.mk [] [] (.ok value)).andThen next = next value
      simp [andThen])
    andThen_assoc

/-- A continued report succeeds exactly if it succeeds and then its continuation does. -/
theorem outcome_bind_eq_ok_iff (report : Report Value) (next : Value → Report Result)
    (result : Result) : (report >>= next).outcome = .ok result ↔
      ∃ value, report.outcome = .ok value ∧ (next value).outcome = .ok result := by
  rw [outcome_bind]
  cases report.outcome <;> simp [bind, Except.bind]

/-- Behind a success the outcome is that of the continuation. -/
theorem outcome_bind_of_ok {report : Report Value} {value : Value}
    (hvalue : report.outcome = .ok value) (next : Value → Report Result) :
    (report >>= next).outcome = (next value).outcome := by
  rw [outcome_bind, hvalue]
  rfl

/-- Behind a failure the outcome is that failure. -/
theorem outcome_bind_of_error {report : Report Value} {failure : Failure}
    (hfailure : report.outcome = .error failure) (next : Value → Report Result) :
    (report >>= next).outcome = .error failure := by
  rw [outcome_bind, hfailure]
  rfl

/-- Behind a success the warnings of the continuation follow. -/
theorem warnings_bind_of_ok {report : Report Value} {value : Value}
    (hvalue : report.outcome = .ok value) (next : Value → Report Result) :
    (report >>= next).warnings = report.warnings ++ (next value).warnings := by
  change (report.andThen next).warnings = _
  simp [andThen, hvalue]

/-- Behind a failure no warnings follow. -/
theorem warnings_bind_of_error {report : Report Value} {failure : Failure}
    (hfailure : report.outcome = .error failure) (next : Value → Report Result) :
    (report >>= next).warnings = report.warnings := by
  change (report.andThen next).warnings = _
  simp [andThen, hfailure]

@[simp] theorem warnings_pure (value : Value) : (pure value : Report Value).warnings = [] := rfl

/-- Changing the value of a report leaves its warnings. -/
@[simp] theorem warnings_map (change : Value → Result) (report : Report Value) :
    (change <$> report).warnings = report.warnings := by
  rw [map_eq_pure_bind]
  cases h : report.outcome with
  | ok value => rw [warnings_bind_of_ok h, warnings_pure, List.append_nil]
  | error failure => rw [warnings_bind_of_error h]

/-- A continued report gives no warning exactly if none of its parts that are reached does. -/
@[simp] theorem warnings_bind_eq_nil_iff (report : Report Value) (next : Value → Report Result) :
    (report >>= next).warnings = [] ↔
      report.warnings = [] ∧
        ∀ value, report.outcome = .ok value → (next value).warnings = [] := by
  cases h : report.outcome with
  | ok value => simp [warnings_bind_of_ok h]
  | error failure => simp [warnings_bind_of_error h]

/-- Goes on with an outcome that leaves no entries. -/
def ofOutcome (outcome : Except Failure Value) : Report Value := ⟨[], [], outcome⟩

/-- Ends with a failure. -/
def fail (failure : Failure) : Report Value := ofOutcome (.error failure)

/-- Leaves an entry. -/
def log (level : Level) (message : String) : Report Unit := ⟨[⟨level, message⟩], [], .ok ()⟩

@[simp] theorem outcome_ofOutcome (outcome : Except Failure Value) :
    (ofOutcome outcome).outcome = outcome := rfl

@[simp] theorem warnings_ofOutcome (outcome : Except Failure Value) :
    (ofOutcome outcome).warnings = [] := rfl

@[simp] theorem outcome_fail (failure : Failure) :
    (fail failure : Report Value).outcome = .error failure := rfl

@[simp] theorem warnings_fail (failure : Failure) : (fail failure : Report Value).warnings = [] :=
  rfl

@[simp] theorem outcome_log (level : Level) (message : String) :
    (log level message).outcome = .ok () := rfl

@[simp] theorem warnings_log (level : Level) (message : String) :
    (log level message).warnings = [] := rfl

/-- Gives a warning, which is recorded if warnings are tolerated and otherwise is a failure. -/
def warn (strictness : Strictness) (message : String) : Report Unit :=
  match strictness with
  | .lenient => ⟨[⟨.warn, message⟩], [message], .ok ()⟩
  | .strict => ⟨[⟨.warn, message⟩], [], .error (.strictWarning message)⟩

end Report

end SchemaTemplate
