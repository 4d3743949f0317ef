import TellerTerminal.Proofs.Commands
import TellerTerminal.Proofs.Operations

/-!
# Answers and service

A message is answered by its fields alone, in whatever state the terminal is.  The status of a
terminal is that of the last service command that it was given, whatever else was done to it.
-/

namespace TellerTerminal

namespace Terminal

variable {terminal after : Terminal} {settings stored : Settings} {message : HostMessage}
  {response? : Option Response}

theorem receive_eq_none_iff (terminal : Terminal) (settings : Settings) (message : HostMessage) :
    (terminal.receive settings message).1 = none ↔ message.messageClass = none := by
  rw [← HostMessage.command?_eq_none_iff, receive]
  cases message.command? with
  | none => simp
  | some command => simp

theorem ReceiveEnd.eq_ready_iff
    (hend : terminal.ReceiveEnd settings message response? after stored) :
    response? = some .ready ↔ message.service?.isSome ∨ message.loadedTable?.isSome := by
  rw [HostMessage.isSome_service?_iff]
  cases hend with
  | unanswered hcommand => simp [hcommand, HostMessage.loadedTable?]
  | rejected htable hservice =>
      have hne : Response.commandReject ≠ Response.ready := by decide
      simp [htable, hservice.1, hservice.2, hne]
  | outOfService hcommand => simp [hcommand]
  | inService hcommand => simp [hcommand]
  | loaded htable => simp [htable]

theorem ReceiveEnd.eq_reject (hend : terminal.ReceiveEnd settings message response? after stored)
    (hnone : response? ≠ none) (hready : response? ≠ some .ready) :
    response? = some .commandReject := by
  cases hend with
  | rejected => rfl
  | unanswered => exact absurd rfl hnone
  | _ => exact absurd rfl hready

theorem ReceiveEnd.status (hend : terminal.ReceiveEnd settings message response? after stored) :
    after.status = message.service?.getD terminal.status := by
  cases hend with
  | unanswered hcommand =>
      rw [HostMessage.service?_eq_none (by simp [hcommand])]
      rfl
  | rejected _ hservice =>
      rw [HostMessage.service?_eq_none hservice]
      rfl
  | outOfService hcommand =>
      rw [HostMessage.service?_eq, hcommand]
      rfl
  | inService hcommand =>
      rw [HostMessage.service?_eq, hcommand, goInService_eq]
      rfl
  | loaded htable =>
      obtain ⟨states, hcommand, -⟩ := HostMessage.exists_of_loadedTable? htable
      rw [HostMessage.service?_eq_none (by simp [hcommand])]
      rfl

theorem FollowEnd.status {path : Option StateNumber}
    {result : Except ExecutionError (Option StateNumber)}
    (hend : terminal.FollowEnd path result after) : after.status = terminal.status := by
  cases hend with
  | nowhere => rfl
  | entered => rfl
  | failed => rfl

theorem PressEnd.status {letter : Char} {result : Except ExecutionError KeyPress}
    (hend : terminal.PressEnd letter result after) : after.status = terminal.status := by
  cases hend with
  | ignored => rfl
  | noted => rfl
  | pressedIn _ _ _ hend =>
      cases hend with
      | failed => rfl
      | blocked => rfl
      | stayed => rfl
      | moved => rfl

end Terminal

namespace Operation

/-- The status that an operation asks for, which only a message from the host can do. -/
def service? : Operation → Option TerminalStatus
  | receive message => message.service?
  | _ => none

theorem status_apply (operation : Operation) (terminal : Terminal) (settings : Settings) :
    (operation.apply terminal settings).2.1.status = operation.service?.getD terminal.status := by
  cases operation with
  | receive message => exact (terminal.receive_end settings message).status
  | enter state => exact (terminal.follow_end (some state)).status
  | press letter => exact (terminal.press_end letter).status
  | timeout => exact (terminal.follow_end _).status
  | cancel => exact (terminal.follow_end _).status
  | recordKey key => rfl
  | execute entry extension? => rfl
  | setMask mask =>
      show (terminal.setMask mask).2.status = terminal.status
      rw [Terminal.setMask_eq]
  | setAmount value =>
      show (terminal.setAmount value).2.status = terminal.status
      rw [Terminal.setAmount_eq]
  | initBuffers => rfl

/-- The last service command of a run decides, and before the first the status stays as it was. -/
theorem status_run (operations : List Operation) (terminal : Terminal) (settings : Settings) :
    (run terminal settings operations).2.1.status =
      (operations.filterMap service?).getLast?.getD terminal.status := by
  induction operations generalizing terminal settings with
  | nil => rfl
  | cons operation rest ih =>
      have hcons : (operation :: rest).filterMap service? =
          operation.service?.toList ++ rest.filterMap service? := by
        cases hservice : operation.service? with
        | none => simp [hservice]
        | some status => simp [hservice]
      rw [run, hcons, getLast?_toList_append, Option.getD_or, ← status_apply operation terminal
        settings]
      exact ih _ _

theorem service?_ne_online (operation : Operation) : operation.service? ≠ some .online := by
  cases operation with
  | receive message =>
      show message.service? ≠ some .online
      unfold HostMessage.service?
      split_ifs <;> simp
  | _ => simp [service?]

end Operation

namespace Terminal

/-- A message is answered if it has a class.  The answer is `Ready` to the two service commands and
to a load whose payload gives a table, and `Command Reject` to everything else; the blank check has
no part in that.  After any operations on a new terminal its status is that of the last service
command, and `Offline` without one. -/
theorem answer_and_status :
    (∀ (terminal : Terminal) (settings : Settings) (message : HostMessage),
      let answer := (terminal.receive settings message).1
      (answer = none ↔ message.messageClass = none) ∧
        (answer = some ⟨"Solicited", "Status", .ready⟩ ↔
          (message.messageClass = some "Terminal Command" ∧
              (message.commandCode = some "Go out-of-service" ∨
                message.commandCode = some "Go in-service")) ∨
            ∃ table states, message.IsTableLoad states ∧
              StateTable.ofChunks states.chunks = .ok table) ∧
        (answer ≠ none → answer ≠ some ⟨"Solicited", "Status", .ready⟩ →
          answer = some ⟨"Solicited", "Status", .commandReject⟩)) ∧
      (∀ (states : StatesPayload) (table : StateTable),
        StateTable.ofChunks states.chunks = .ok table → states.isBlank = false) ∧
      ∀ (config : TerminalConfig) (settings : Settings) (operations : List Operation),
        let after := (Operation.run (start config settings) settings operations).2.1
        after.status = (operations.filterMap Operation.service?).getLast?.getD .offline ∧
          after.status ≠ .online := by
  refine ⟨fun terminal settings message => ?_, fun _ _ => StatesPayload.isBlank_eq_false,
    fun config settings operations => ?_⟩
  · have hend := terminal.receive_end settings message
    have hloaded : message.loadedTable?.isSome ↔
        ∃ table states, message.IsTableLoad states ∧
          StateTable.ofChunks states.chunks = .ok table := by
      simp only [Option.isSome_iff_exists, HostMessage.loadedTable?_eq_some_iff]
    exact ⟨terminal.receive_eq_none_iff settings message,
      hend.eq_ready_iff.trans (or_congr HostMessage.isSome_service?_iff_fields hloaded),
      hend.eq_reject⟩
  · intro after
    have hstatus : after.status =
        (operations.filterMap Operation.service?).getLast?.getD .offline := by
      have hstart : (start config settings).status = .offline := by rw [start_eq]
      rw [← hstart]
      exact Operation.status_run operations (start config settings) settings
    refine ⟨hstatus, ?_⟩
    rw [hstatus]
    cases hlast : (operations.filterMap Operation.service?).getLast? with
    | none => simp
    | some status =>
        obtain ⟨operation, -, hservice⟩ :=
          List.mem_filterMap.mp (List.mem_of_getLast? hlast)
        rintro rfl
        exact operation.service?_ne_online hservice

/-- A load between blank chunks, which leaves no state current but the status as it was. -/
def paddedLoad : HostMessage :=
  HostMessage.stateTablesLoad (.many ["\r\n", "\x1c040Z001002003004005006007008\r\n", ""])

/-- Both services, and after them a load and a command that is not one. -/
def serviceOperations : List Operation :=
  [.receive (HostMessage.terminalCommand HostMessage.goOutOfServiceCode),
    .receive (HostMessage.terminalCommand HostMessage.goInServiceCode), .press 'A',
    .receive paddedLoad, .receive (HostMessage.terminalCommand "Go out-of-order"), .initBuffers]

theorem answer_paddedLoad :
    (∀ (terminal : Terminal) (settings : Settings),
        (terminal.receive settings paddedLoad).1 = some ⟨"Solicited", "Status", .ready⟩) ∧
      (Operation.run (start {} {}) {} serviceOperations).2.1.status = .inService := by
  obtain ⟨hanswer, -, hstatus⟩ := answer_and_status
  constructor
  · intro terminal settings
    obtain ⟨-, hready, -⟩ := hanswer terminal settings paddedLoad
    obtain ⟨table, htable⟩ : ∃ table, StateTable.ofChunks
        ["\r\n", "\x1c040Z001002003004005006007008\r\n", ""] = .ok table := ⟨_, rfl⟩
    exact hready.mpr (.inr ⟨table, _, ⟨rfl, rfl, rfl, rfl⟩, htable⟩)
  · obtain ⟨hlast, -⟩ := hstatus {} {} serviceOperations
    rw [hlast]
    decide

end Terminal

end TellerTerminal
