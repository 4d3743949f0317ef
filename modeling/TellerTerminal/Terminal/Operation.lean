import TellerTerminal.Terminal.Host

/-!
# Operations on a terminal

Everything that can be done to a terminal, as one type, and what comes of it.
-/

namespace TellerTerminal

inductive Operation
  | receive (message : HostMessage)
  | enter (state : StateNumber)
  | press (letter : Char)
  | timeout
  | cancel
  | recordKey (key : FunctionKey)
  | execute (entry : StateEntry) (extension? : Option Extension)
  | setMask (mask : String)
  | setAmount (value : Option String)
  | initBuffers

inductive OperationResult
  | response (response : Option Response)
  | transition (result : Except ExecutionError Transition)
  | press (result : Except ExecutionError KeyPress)
  | follow (result : Except ExecutionError (Option StateNumber))
  | mask (result : Except MaskError Unit)
  | amount (result : Except BufferError Unit)
  | done

namespace Operation

def apply (operation : Operation) (terminal : Terminal) (settings : Settings) :
    OperationResult × Terminal × Settings :=
  match operation with
  | receive message =>
      let (response, terminal, settings) := terminal.receive settings message
      (.response response, terminal, settings)
  | enter state =>
      let (result, terminal) := terminal.enter state
      (.transition result, terminal, settings)
  | press letter =>
      let (result, terminal) := terminal.press letter
      (.press result, terminal, settings)
  | timeout =>
      let (result, terminal) := terminal.timeout
      (.follow result, terminal, settings)
  | cancel =>
      let (result, terminal) := terminal.cancel
      (.follow result, terminal, settings)
  | recordKey key => (.done, terminal.recordKey key, settings)
  | execute entry extension? =>
      let (result, terminal) := terminal.execute entry extension?
      (.transition result, terminal, settings)
  | setMask mask =>
      let (result, terminal) := terminal.setMask mask
      (.mask result, terminal, settings)
  | setAmount value =>
      let (result, terminal) := terminal.setAmount value
      (.amount result, terminal, settings)
  | initBuffers => (.done, terminal.initBuffers, settings)

end Operation

end TellerTerminal
