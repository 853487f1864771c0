import Mathlib.Data.List.Forall2
import SchemaTemplate.Report

/-!
Reports that are put together from others. A report over a list of items succeeds exactly if it does
item by item; `Report.FailsOnly` says in which ways a report can fail, and it is known of a whole
report if it is known of its parts.
-/

set_option autoImplicit false
set_option relaxedAutoImplicit false

namespace SchemaTemplate

/-- Assumes: two related lists. Every item of the second has a partner in the first. -/
theorem exists_mem_related_of_mem {First Second : Type} {Related : First → Second → Prop}
    {firsts : List First} {seconds : List Second} (hrelated : List.Forall₂ Related firsts seconds)
    {second : Second} (hmem : second ∈ seconds) : ∃ first ∈ firsts, Related first second := by
  induction hrelated with
  | nil => cases hmem
  | cons hfirst _ ih =>
    rcases List.mem_cons.1 hmem with rfl | hmem
    · exact ⟨_, List.mem_cons_self, hfirst⟩
    · obtain ⟨first, hlisted, hpartner⟩ := ih hmem
      exact ⟨first, List.mem_cons_of_mem _ hlisted, hpartner⟩

theorem exists_related_of_mem {First Second : Type} {Related : First → Second → Prop}
    {firsts : List First} {seconds : List Second} (hrelated : List.Forall₂ Related firsts seconds)
    {second : Second} (hmem : second ∈ seconds) : ∃ first, Related first second := by
  obtain ⟨first, -, hpartner⟩ := exists_mem_related_of_mem hrelated hmem
  exact ⟨first, hpartner⟩

namespace Report

variable {Item Value Result : Type}

/-- Items are gone through with success exactly if each of them is. -/
theorem outcome_mapM_eq_ok_iff {step : Item → Report Result} {items : List Item}
    {results : List Result} : (items.mapM step).outcome = .ok results ↔
      List.Forall₂ (fun item result ↦ (step item).outcome = .ok result) items results := by
  induction items generalizing results with
  | nil =>
    rw [List.mapM_nil, outcome_pure, List.forall₂_nil_left_iff]
    simp [eq_comm]
  | cons item items ih =>
    rw [List.mapM_cons, outcome_bind_eq_ok_iff]
    simp only [outcome_bind_eq_ok_iff, outcome_pure, ih, Except.ok.injEq]
    constructor
    · rintro ⟨result, hresult, more, hmore, rfl⟩
      exact .cons hresult hmore
    · rintro (_ | ⟨hresult, hmore⟩)
      exact ⟨_, hresult, _, hmore, rfl⟩

/-- Items can be gone through exactly if each of them can. -/
theorem exists_outcome_mapM_iff {step : Item → Report Result} {items : List Item} :
    (∃ results, (items.mapM step).outcome = .ok results) ↔
      ∀ item ∈ items, ∃ result, (step item).outcome = .ok result := by
  simp only [outcome_mapM_eq_ok_iff]
  induction items with
  | nil => exact iff_of_true ⟨[], .nil⟩ nofun
  | cons item items ih =>
    rw [List.forall_mem_cons, ← ih]
    constructor
    · rintro ⟨_, _ | ⟨hresult, hmore⟩⟩
      exact ⟨⟨_, hresult⟩, _, hmore⟩
    · rintro ⟨⟨result, hresult⟩, more, hmore⟩
      exact ⟨result :: more, .cons hresult hmore⟩

/-- Items that are only judged are gone through exactly if each of them is. -/
theorem outcome_forM_eq_ok_iff {step : Item → Report Unit} {items : List Item} :
    (items.forM step).outcome = .ok () ↔ ∀ item ∈ items, (step item).outcome = .ok () := by
  induction items with
  | nil => exact iff_of_true rfl nofun
  | cons item items ih =>
    change (step item >>= fun _ ↦ items.forM step).outcome = .ok () ↔ _
    rw [outcome_bind_eq_ok_iff, List.forall_mem_cons, ← ih]
    exact ⟨fun ⟨_, hfirst, hrest⟩ ↦ ⟨hfirst, hrest⟩, fun ⟨hfirst, hrest⟩ ↦ ⟨(), hfirst, hrest⟩⟩

/-- Assumes: items of which each is passed. Their warnings follow one another. -/
theorem warnings_forM_of_ok {step : Item → Report Unit} {items : List Item}
    (hok : ∀ item ∈ items, (step item).outcome = .ok ()) :
    (items.forM step).warnings = items.flatMap fun item ↦ (step item).warnings := by
  induction items with
  | nil => rfl
  | cons item items ih =>
    obtain ⟨hfirst, hrest⟩ := List.forall_mem_cons.1 hok
    change (step item >>= fun _ ↦ items.forM step).warnings = _
    rw [warnings_bind_of_ok hfirst, ih hrest, List.flatMap_cons]

/-- Whether a report, if it fails, fails in one of the expected ways. -/
def FailsOnly (Expected : Failure → Prop) (report : Report Value) : Prop :=
  ∀ failure, report.outcome = .error failure → Expected failure

namespace FailsOnly

variable {Expected : Failure → Prop} {report : Report Value}

theorem of_outcome_eq_ok {value : Value} (hok : report.outcome = .ok value) :
    report.FailsOnly Expected := by
  intro failure herror
  rw [hok] at herror
  cases herror

theorem of_outcome_eq_error {failure : Failure} (herror : report.outcome = .error failure)
    (hexpected : Expected failure) : report.FailsOnly Expected := by
  intro other hother
  rw [herror] at hother
  cases hother
  exact hexpected

theorem pure (value : Value) : (pure value : Report Value).FailsOnly Expected :=
  of_outcome_eq_ok rfl

theorem log (level : Level) (message : String) : (log level message).FailsOnly Expected :=
  of_outcome_eq_ok rfl

theorem bind (hreport : report.FailsOnly Expected) {next : Value → Report Result}
    (hnext : ∀ value, report.outcome = .ok value → (next value).FailsOnly Expected) :
    (report >>= next).FailsOnly Expected := by
  intro failure herror
  cases houtcome : report.outcome with
  | ok value =>
    rw [outcome_bind_of_ok houtcome] at herror
    exact hnext value houtcome failure herror
  | error earlier =>
    rw [outcome_bind_of_error houtcome] at herror
    cases herror
    exact hreport _ houtcome

theorem map (hreport : report.FailsOnly Expected) (change : Value → Result) :
    (change <$> report).FailsOnly Expected := by
  rw [map_eq_pure_bind]
  exact hreport.bind fun value _ ↦ pure (change value)

theorem mapM {step : Item → Report Result} {items : List Item}
    (hstep : ∀ item ∈ items, (step item).FailsOnly Expected) :
    (items.mapM step).FailsOnly Expected := by
  induction items with
  | nil => exact pure []
  | cons item items ih =>
    obtain ⟨hfirst, hrest⟩ := List.forall_mem_cons.1 hstep
    rw [List.mapM_cons]
    exact hfirst.bind fun _ _ ↦ (ih hrest).bind fun _ _ ↦ pure _

theorem forM {step : Item → Report Unit} {items : List Item}
    (hstep : ∀ item ∈ items, (step item).FailsOnly Expected) :
    (items.forM step).FailsOnly Expected := by
  induction items with
  | nil => exact pure ()
  | cons item items ih =>
    obtain ⟨hfirst, hrest⟩ := List.forall_mem_cons.1 hstep
    exact hfirst.bind fun _ _ ↦ ih hrest

theorem foldlM {step : Value → Item → Report Value}
    (hstep : ∀ value item, (step value item).FailsOnly Expected) (start : Value)
    (items : List Item) : (items.foldlM step start).FailsOnly Expected := by
  induction items generalizing start with
  | nil => exact pure start
  | cons item items ih =>
    rw [List.foldlM_cons]
    exact (hstep start item).bind fun value _ ↦ ih value

end FailsOnly

end Report

end SchemaTemplate
