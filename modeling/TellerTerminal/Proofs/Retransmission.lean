import TellerTerminal.Proofs.Host
import TellerTerminal.Proofs.Store

/-!
# Messages that arrive twice

A message that is received once more, before anything else happens, is answered as before and
leaves everything as the first receipt has left it.  For a load that is because nothing of an
earlier load survives a later one.  A terminal that goes in service enters the same initial state
again, and the keys of that state are active already; if its mask is invalid, those that were
active before the first receipt still are.
-/

namespace TellerTerminal.Terminal

theorem install_install (terminal : Terminal) (first second : StateTable) :
    (terminal.install first).install second = terminal.install second :=
  rfl

/-- To enter a state once more changes nothing, also where the state has no keys of its own. -/
theorem entered_entered (terminal : Terminal) (entry : StateEntry) :
    (terminal.entered entry).entered entry = terminal.entered entry := by
  have hactive : entry.keyRule?.getD (terminal.entered entry).active =
      entry.keyRule?.getD terminal.active := by
    cases hrule : entry.keyRule? with
    -- An invalid mask keeps what the first entry kept.
    | none => simp [entered, arrive, active, hrule]
    | some keys => rfl
  rw [entered, hactive]
  rfl

theorem goInService_of_some {terminal : Terminal} {entry : StateEntry}
    (hinitial : terminal.entryOfInitial? = some entry) :
    terminal.goInService = { terminal.entered entry with status := .inService } := by
  rw [goInService_eq, hinitial]
  rfl

theorem goInService_of_none {terminal : Terminal} (hinitial : terminal.entryOfInitial? = none) :
    terminal.goInService = { terminal with status := .inService } := by
  rw [goInService_eq, hinitial]
  rfl

/-- The initial state depends on configuration and table, which going in service leaves alone. -/
theorem goInService_goInService (terminal : Terminal) :
    terminal.goInService.goInService = terminal.goInService := by
  cases hinitial : terminal.entryOfInitial? with
  | none =>
      have hagain : entryOfInitial? { terminal with status := .inService } = none := hinitial
      rw [goInService_of_none hinitial, goInService_of_none hagain]
  | some entry =>
      have hagain : entryOfInitial? { terminal.entered entry with status := .inService } =
          some entry := hinitial
      calc terminal.goInService.goInService
          = goInService { terminal.entered entry with status := .inService } := by
            rw [goInService_of_some hinitial]
        _ = { (terminal.entered entry).entered entry with status := .inService } :=
            goInService_of_some hagain
        _ = terminal.goInService := by rw [entered_entered, goInService_of_some hinitial]

variable {message : HostMessage}

theorem receive_of_goOutOfService (hcommand : message.command? = some .goOutOfService)
    (terminal : Terminal) (settings : Settings) :
    terminal.receive settings message = (some .ready, terminal.goOutOfService, settings) := by
  simp only [receive, hcommand, obey]

theorem receive_of_goInService (hcommand : message.command? = some .goInService)
    (terminal : Terminal) (settings : Settings) :
    terminal.receive settings message = (some .ready, terminal.goInService, settings) := by
  simp only [receive, hcommand, obey]

/-- A message may be sent again.  Whatever the terminal was like before it and whatever the
settings hold, a second receipt right after the first has the same response, and leaves the
terminal and the settings exactly as the first has left them. -/
theorem receive_idempotent (terminal : Terminal) (settings : Settings) (message : HostMessage) :
    let (response?, after, stored) := terminal.receive settings message
    after.receive stored message = (response?, after, stored) := by
  have hend := terminal.receive_end settings message
  rcases hfirst : terminal.receive settings message with ⟨response?, after, stored⟩
  rw [hfirst] at hend
  show after.receive stored message = (response?, after, stored)
  cases hend with
  | unanswered => exact hfirst
  | rejected => exact hfirst
  | outOfService hcommand => exact receive_of_goOutOfService hcommand _ _
  | inService hcommand =>
      show terminal.goInService.receive stored message =
        (some .ready, terminal.goInService, stored)
      rw [receive_of_goInService hcommand, goInService_goInService]
  | @loaded table htable =>
      show (terminal.install table).receive (settings.set tableKey (.strings table.records))
        message = (some .ready, terminal.install table,
          settings.set tableKey (.strings table.records))
      rw [receive_of_loadedTable? htable, install_install, Settings.set_set]

end TellerTerminal.Terminal
