import Mathlib
import PropertySettings.Proofs.ConsoleJournal
import PropertySettings.Proofs.Setups

/-!
# What a reset leaves

A reset takes the handlers away. Threshold and propagation stay as they were left by the last setup
that **named** a level, even one that failed afterwards, at its format or at its log file
(`Workspace.levels_afterAll`). Without handlers, records of warnings and errors are written plainly
to the standard error stream, but only those that the threshold lets through
(`Journal.deliversLines_of_handlers_nil`).

So the journal is not what it was before any setup, unless no setup named a level; and records are
written as they were before just if the threshold lets warnings through
(`Workspace.reset_keeps_threshold`).
-/

namespace PropertySettings

/-- The least level at which records are written where there are no handlers. -/
def Level.orAtLeastWarning : Level → Level
  | .error => .error
  | .critical => .critical
  | .notSet | .debug | .info | .warning => .warning

theorem Level.orAtLeastWarning_le_iff {threshold level : Level} :
    threshold.orAtLeastWarning ≤ level ↔ threshold.orWarning ≤ level ∧ .warning ≤ level := by
  cases threshold <;> cases level <;> decide

theorem Level.orAtLeastWarning_eq_warning_iff {threshold : Level} :
    threshold.orAtLeastWarning = .warning ↔ threshold ≤ .warning := by
  cases threshold <;> decide

namespace Journal

/-- Without handlers, records are written plainly to the standard error stream. -/
theorem deliversLines_of_handlers_nil {journal : Journal} (h : journal.handlers = []) :
    journal.DeliversLines .stderr journal.threshold.orAtLeastWarning := by
  intro record
  rw [deliver, lines, List.filter_singleton]
  by_cases hle : journal.threshold.orAtLeastWarning ≤ record.level
  · obtain ⟨hadmits, hwarning⟩ := Level.orAtLeastWarning_le_iff.mp hle
    have hadmits : journal.Admits record := hadmits
    simp [h, hadmits, hle, Handler.chunk?, Handler.chunk_of_plain, Handler.lastResort, hwarning,
      line]
  · by_cases hadmits : journal.Admits record
    · have hwarning : ¬ Level.warning ≤ record.level := fun hwarning =>
        hle (Level.orAtLeastWarning_le_iff.mpr ⟨hadmits, hwarning⟩)
      simp [h, hadmits, hle, Handler.chunk?, Handler.lastResort, hwarning]
    · simp [hadmits, hle]

/-- All warnings are written just if nothing above them is asked for. -/
theorem lines_eq_lines_warning_iff {threshold : Level} :
    (∀ records, lines .stderr threshold.orAtLeastWarning records = lines .stderr .warning records) ↔
      threshold ≤ .warning := by
  rw [← Level.orAtLeastWarning_eq_warning_iff]
  refine ⟨fun h => ?_, fun h records => by rw [h]⟩
  -- one warning tells the thresholds apart
  have hone := h [Record.warning [] [] []]
  revert hone
  cases threshold <;> decide

end Journal

namespace Workspace

/-! ### Levels that setups name -/

/-- The level that an action names, whether or not it succeeds. -/
def Action.level? : Action → Option Level
  | .setUp setup => Level.ofName? setup.level
  | .log _ | .reset => none

/-- The level that is named last in a history. -/
def lastLevel? (history : List Action) : Option Level :=
  (history.filterMap Action.level?).getLast?

theorem lastLevel?_concat (history : List Action) (action : Action) :
    lastLevel? (history ++ [action]) = action.level?.or (lastLevel? history) := by
  rw [lastLevel?, List.filterMap_append, List.getLast?_append, lastLevel?]
  cases h : action.level? <;> simp [h]

/-- A level that an action names is the threshold afterwards, and propagation has ended. -/
theorem levels_after (w : Workspace) (action : Action) :
    (w.after action).journal.threshold = action.level?.getD w.journal.threshold ∧
      (w.after action).journal.propagates = (action.level?.isNone && w.journal.propagates) := by
  cases action with
  | log records =>
    have hjournal : (w.after (.log records)).journal = w.journal := w.journal_logAll records
    rw [hjournal]
    exact ⟨rfl, rfl⟩
  | setUp setup =>
    obtain ⟨journal, files, fault, hsets, hperform⟩ := w.exists_setsUp setup
    rw [after, hperform, Action.level?]
    cases hsets with
    | levelRefused hlevel | formatRefused hlevel | fileRefused hlevel | withoutFile hlevel
    | withFile hlevel => simp [hlevel]
  | reset => exact ⟨rfl, rfl⟩

theorem levels_afterAll (w : Workspace) (history : List Action) :
    (w.afterAll history).journal.threshold = (lastLevel? history).getD w.journal.threshold ∧
      (w.afterAll history).journal.propagates
        = ((lastLevel? history).isNone && w.journal.propagates) := by
  -- on the history from its end, since the last setup counts
  induction history using List.reverseRecOn with
  | nil => exact ⟨rfl, rfl⟩
  | append_singleton history action ih =>
    obtain ⟨hthreshold, hpropagates⟩ := levels_after (w.afterAll history) action
    have hafter : w.afterAll (history ++ [action]) = (w.afterAll history).after action :=
      w.afterAll_append history [action]
    rw [hafter, hthreshold, hpropagates, ih.1, ih.2, lastLevel?_concat]
    cases action.level? <;> exact ⟨rfl, rfl⟩

/-- **A reset keeps the threshold.** After any history and a reset there are no handlers and no setup
counts as done, but the threshold is the level that was named last, and propagation has ended if one
was named; so the journal is as before any setup just if none was. Records that follow are lines on
the standard error stream, from warnings upwards, as far as the threshold lets them through. They are
the same as those that a journal writes before any setup just if the threshold is not above
warnings. -/
theorem reset_keeps_threshold (files : FileTree) (history : List Action) :
    let w := (start files).afterAll (history ++ [.reset])
    let threshold := (lastLevel? history).getD .notSet
    w.journal = ⟨false, threshold, [], (lastLevel? history).isNone⟩ ∧
    (w.journal = .fresh ↔ lastLevel? history = none) ∧
    (∀ records, w.logAll records
      = { w with written := w.written ++ Journal.lines .stderr threshold.orAtLeastWarning records }) ∧
    ((∀ records, (w.logAll records).written
        = w.written ++ ((start w.files).logAll records).written) ↔ threshold ≤ .warning) := by
  intro w threshold
  have hw : w = ((start files).afterAll history).reset := afterAll_append _ history [.reset]
  obtain ⟨hthreshold, hpropagates⟩ := (start files).levels_afterAll history
  have hjournal : w.journal = ⟨false, threshold, [], (lastLevel? history).isNone⟩ := by
    rw [hw]
    exact congrArg₂ (Journal.mk false · [] ·) hthreshold (hpropagates.trans (Bool.and_true _))
  have hnil : w.journal.handlers = [] := by rw [hjournal]
  have hdelivers : w.journal.DeliversLines .stderr threshold.orAtLeastWarning := by
    have hlines := Journal.deliversLines_of_handlers_nil hnil
    have hkept : w.journal.threshold = threshold := by rw [hjournal]
    rwa [hkept] at hlines
  have hfresh : (start w.files).journal.DeliversLines .stderr .warning :=
    Journal.deliversLines_of_handlers_nil rfl
  refine ⟨hjournal, ?_, logAll_of_deliversLines hdelivers, ?_⟩
  · rw [hjournal]
    cases hlast : lastLevel? history <;> simp [threshold, hlast, Journal.fresh]
  · simp only [logAll_of_deliversLines hdelivers, logAll_of_deliversLines hfresh,
      List.append_cancel_left_eq]
    exact Journal.lines_eq_lines_warning_iff

/-- After a setup for errors and a reset, a warning is not written, although it would have been
before the setup. -/
theorem reset_silences_warning :
    let setup : Journal.Setup := { Journal.Setup.default with level := "ERROR".toList }
    let w := (start ∅).afterAll [.setUp setup, .reset]
    let warning := Record.warning "a".toList "b".toList []
    (w.journal.threshold ≠ Journal.fresh.threshold ∧
      w.journal.propagates ≠ Journal.fresh.propagates) ∧
    (w.log warning).textOn .stderr = [] ∧
    ((start ∅).log warning).textOn .stderr = "[A] b\n".toList := by
  decide +kernel

end Workspace

end PropertySettings
