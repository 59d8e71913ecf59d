import Mathlib
import PropertySettings.Proofs.Setups

/-!
# The order of handlers

A journal is always **orderly**, also after setups that failed half-way: it has at most a handler for
a stream and one for a file, in this order, each of them with the threshold of the journal; and one
that has handlers, or that a setup has succeeded for, keeps its records from the surroundings.
Setups and resets leave nothing of the handlers that they find, and a setup that fails leaves a
handler of its own just if it was the log file that could not be opened
(`Workspace.handlers_stay_in_order`).
-/

namespace PropertySettings

/-- The order in which a journal is kept. -/
structure Journal.Orderly (journal : Journal) : Prop where
  /-- There is at most a handler for a stream and, behind it, one for a file. -/
  kinds : journal.handlers.map (·.sink.isFile) <+: [false, true]
  levels : ∀ handler ∈ journal.handlers, handler.level = journal.threshold
  propagates_of_handlers : journal.handlers ≠ [] → journal.propagates = false
  propagates_of_configured : journal.configured = true → journal.propagates = false
  configured_of_both : journal.handlers.length = 2 → journal.configured = true

namespace Journal

variable {journal after : Journal} {files opened : FileTree} {setup : Setup}
  {fault : Option SetupFault}

theorem orderly_fresh : fresh.Orderly := by
  constructor <;> simp [fresh]

theorem orderly_reset (journal : Journal) : journal.reset.Orderly := by
  constructor <;> simp [reset]

/-- However a setup ends, the journal is orderly. -/
theorem Orderly.setsUp (h : journal.Orderly) (hsets : SetsUp journal files setup after opened fault) :
    after.Orderly := by
  cases hsets with
  | levelRefused =>
    -- but for the handlers, all is as it was
    exact ⟨by simp, by simp, by simp, h.propagates_of_configured, by simp⟩
  | formatRefused => constructor <;> simp
  | fileRefused => constructor <;> simp [Setup.streamHandler, Sink.isFile]
  | withoutFile => constructor <;> simp [Setup.streamHandler, Sink.isFile]
  | withFile => constructor <;> simp [Setup.streamHandler, fileHandler, Sink.isFile]

/-- Once records are kept from the surroundings, no setup changes that. -/
theorem SetsUp.propagates (hsets : SetsUp journal files setup after opened fault)
    (h : journal.propagates = false) : after.propagates = false := by
  cases hsets with
  | levelRefused => exact h
  | _ => rfl

end Journal

namespace Workspace

/-- The action puts other handlers in the place of those that it finds, or none. -/
def Action.Replaces : Action → Prop
  | .setUp _ | .reset => True
  | .log _ => False

theorem orderly_after (w : Workspace) (action : Action) (h : w.journal.Orderly) :
    (w.after action).journal.Orderly := by
  cases action with
  | setUp setup =>
    obtain ⟨journal, files, fault, hsets, hperform⟩ := w.exists_setsUp setup
    rw [after, hperform]
    exact h.setsUp hsets
  | log records => exact (w.journal_logAll records).symm ▸ h
  | reset => exact Journal.orderly_reset w.journal

theorem propagates_after (w : Workspace) (action : Action) (h : w.journal.propagates = false) :
    (w.after action).journal.propagates = false := by
  cases action with
  | setUp setup =>
    obtain ⟨journal, files, fault, hsets, hperform⟩ := w.exists_setsUp setup
    rw [after, hperform]
    exact hsets.propagates h
  | log records => exact (congrArg Journal.propagates (w.journal_logAll records)).trans h
  | reset => exact h

/-- What stands before a setup or a reset in the list of handlers is of no effect on what follows. -/
theorem after_eq_of_replaces (w : Workspace) {action : Action} (h : action.Replaces)
    (others : List Handler) :
    ({ w with journal.handlers := others } : Workspace).after action = w.after action := by
  cases action with
  | setUp setup => rfl
  | log records => exact h.elim
  | reset => rfl

/-- A setup that fails leaves a handler if it fails at the log file, and otherwise none. -/
theorem handlers_of_fault {w : Workspace} {setup : Journal.Setup} {fault : Journal.SetupFault}
    (h : (w.perform (.setUp setup)).2 = some fault) :
    (fault.OfLogFile → ∃ handler, (w.after (.setUp setup)).journal.handlers = [handler] ∧
      handler.sink = .stream setup.stream) ∧
    (¬ fault.OfLogFile → (w.after (.setUp setup)).journal.handlers = []) := by
  obtain ⟨journal, files, outcome, hsets, hperform⟩ := w.exists_setsUp setup
  rw [hperform] at h
  rw [after, hperform]
  cases hsets with
  | levelRefused hlevel hfault =>
    obtain rfl := Option.some.inj h
    exact ⟨fun hfile => absurd hfile hfault, fun _ => rfl⟩
  | formatRefused =>
    obtain rfl := Option.some.inj h
    exact ⟨False.elim, fun _ => rfl⟩
  | fileRefused hlevel hlayout hname hfault =>
    obtain rfl := Option.some.inj h
    exact ⟨fun _ => ⟨_, rfl, rfl⟩, fun hnot => absurd hfault hnot⟩
  | withoutFile | withFile => exact absurd h (by simp)

/-- **Handlers stay in order.** After any history the journal is orderly, and what keeps records
from the surroundings is never taken back. What comes next finds a journal whose handlers have no
effect on a setup or a reset: whatever others stood in their place, the same ones are attached
afterwards, none by a reset, and by a setup that fails one for its stream if the log file could not
be opened, and otherwise none. -/
theorem handlers_stay_in_order (files : FileTree) (history : List Action) :
    let w := (start files).afterAll history
    w.journal.Orderly ∧
    (∀ later, w.journal.propagates = false → (w.afterAll later).journal.propagates = false) ∧
    (∀ action : Action, action.Replaces → ∀ others : List Handler,
      ({ w with journal.handlers := others } : Workspace).after action = w.after action) ∧
    (w.after .reset).journal.handlers = [] ∧
    ∀ setup fault, (w.perform (.setUp setup)).2 = some fault →
      (fault.OfLogFile → ∃ handler, (w.after (.setUp setup)).journal.handlers = [handler] ∧
        handler.sink = .stream setup.stream) ∧
      (¬ fault.OfLogFile → (w.after (.setUp setup)).journal.handlers = []) := by
  intro w
  have horderly : w.journal.Orderly :=
    invariant_afterAll (p := fun w => w.journal.Orderly) orderly_after Journal.orderly_fresh history
  exact ⟨horderly,
    fun later h => invariant_afterAll (p := fun w => w.journal.propagates = false)
      propagates_after h later,
    fun _ hreplaces => w.after_eq_of_replaces hreplaces, rfl, fun _ _ => handlers_of_fault⟩

/-- A setup with a log file, and then one whose log file would lie below that file. -/
theorem handlers_after_refused_log_file :
    let opened : Journal.Setup := { Journal.Setup.default with logFile := some "l".toList }
    let refused : Journal.Setup := { Journal.Setup.default with logFile := some "l/x".toList }
    let history : List Action := [.setUp opened, .log [Record.warning "a".toList "b".toList []]]
    ((start ∅).afterAll history).journal.handlers.length = 2 ∧
      (((start ∅).afterAll history).perform (.setUp refused)).2
        = some (.fileRefused .notDirectory "/l/x".toList) ∧
      ∃ handler, (((start ∅).afterAll history).after (.setUp refused)).journal.handlers = [handler] ∧
        handler.sink = .stream refused.stream := by
  intro opened refused history
  have hfault : (((start ∅).afterAll history).perform (.setUp refused)).2
      = some (.fileRefused .notDirectory "/l/x".toList) := by decide +kernel
  obtain ⟨-, -, -, -, hfaults⟩ := handlers_stay_in_order ∅ history
  exact ⟨by decide +kernel, hfault, (hfaults refused _ hfault).1 trivial⟩

end Workspace

end PropertySettings
