import TellerTerminal.Proofs.Host
import TellerTerminal.Terminal.Operation

/-!
# Runs of operations

A run carries out the operations of a list one after another.  The operations outside the flow of
states write one register each, and what every operation keeps is kept by every run.
-/

namespace TellerTerminal

namespace Terminal

theorem setMask_eq (terminal : Terminal) (mask : String) :
    (terminal.setMask mask).2 = { terminal with registers := { terminal.registers with
      active := (KeySet.ofMask mask).toOption.getD terminal.active } } := by
  unfold setMask
  cases KeySet.ofMask mask with
  | ok keys => rfl
  | error error => rfl

theorem setAmount_eq (terminal : Terminal) (value : Option String) :
    (terminal.setAmount value).2 = { terminal with registers := { terminal.registers with
      buffers := { terminal.buffers with
        amount := (value.bind fun text => (AmountBuffer.ofText text).toOption).getD
          terminal.buffers.amount } } } := by
  cases value with
  | none => rfl
  | some text =>
      simp only [setAmount, Option.bind_some]
      cases AmountBuffer.ofText text with
      | ok amount => rfl
      | error error => rfl

end Terminal

namespace Operation

/-- The results of a list of operations, with the terminal and the settings after it. -/
def run (terminal : Terminal) (settings : Settings) :
    List Operation → List OperationResult × Terminal × Settings
  | [] => ([], terminal, settings)
  | operation :: rest =>
      let (result, terminal, settings) := operation.apply terminal settings
      let (results, terminal, settings) := run terminal settings rest
      (result :: results, terminal, settings)

theorem run_keeps {invariant : Terminal → Prop}
    (hstep : ∀ (operation : Operation) (terminal : Terminal) (settings : Settings),
      invariant terminal → invariant (operation.apply terminal settings).2.1)
    (operations : List Operation) {terminal : Terminal} (settings : Settings)
    (hstart : invariant terminal) : invariant (run terminal settings operations).2.1 := by
  induction operations generalizing terminal settings with
  | nil => exact hstart
  | cons operation rest ih => exact ih _ (hstep operation terminal settings hstart)

end Operation

end TellerTerminal
