import TellerTerminal.Proofs.Opcode
import TellerTerminal.Proofs.Run
import TellerTerminal.Proofs.Writes

/-!
# The formats of the buffers

Every buffer of a terminal has a format that nothing breaks, whatever entries are executed on it
and however often: twelve digits of amount, eight characters of opcode that are letters of
selection keys or spaces, function keys in the key buffer, and a PIN that is never entered.

The general purpose buffers hold what an extension supplies.  An extension that is handed to an
execution may hold anything, so that only those of the records bound what is stored: three
characters and at most nine zeros.
-/

namespace TellerTerminal

theorem Selection.mem_cells_of_mark {state : Selection} {key : FunctionKey}
    {opcode : OpcodeBuffer} {c : Char} (hc : c ∈ (state.mark key opcode).cells) :
    c ∈ opcode.cells ∨ c = key.letter := by
  cases hlocation : BufferLocation.ofCode state.location with
  | error error =>
      simp only [mark, hlocation] at hc
      exact .inl hc
  | ok location =>
      cases hwrite : opcode.write location key.letter with
      | ok marked =>
          simp only [mark, hlocation, hwrite] at hc
          exact OpcodeBuffer.mem_cells_of_write hwrite hc
      | error error =>
          simp only [mark, hlocation, hwrite] at hc
          exact .inl hc

namespace Buffers

/-- The formats that hold however a terminal is operated. -/
structure Formatted (buffers : Buffers) : Prop where
  amount : buffers.amount.text.toList.length = 12 ∧
    ∀ c ∈ buffers.amount.text.toList, c.isDigit
  opcode : buffers.opcode.text.toList.length = 8 ∧
    ∀ c ∈ buffers.opcode.text.toList, c ∈ [' ', 'A', 'B', 'C', 'D']
  bytes : String.fromUTF8? buffers.opcode.bytes = some buffers.opcode.text
  keys : ∀ c ∈ buffers.keys.toList, c ∈ ['A', 'B', 'C', 'D', 'E', 'F', 'G', 'H', 'I']
  pin : buffers.pin = ""

variable {buffers after : Buffers}

/-- The format of the amount is that of its type, and so is the width of the opcode. -/
theorem formatted_of (hopcode : ∀ c ∈ buffers.opcode.cells, c ∈ [' ', 'A', 'B', 'C', 'D'])
    (hkeys : ∀ c ∈ buffers.keys.toList, c ∈ ['A', 'B', 'C', 'D', 'E', 'F', 'G', 'H', 'I'])
    (hpin : buffers.pin = "") : buffers.Formatted where
  amount := ⟨buffers.amount.length_text, fun _ => AmountBuffer.isDigit_of_mem_text⟩
  opcode := ⟨buffers.opcode.length_text, fun c hc => hopcode c (OpcodeBuffer.mem_text.mp hc)⟩
  bytes := buffers.opcode.fromUTF8?_bytes
  keys := hkeys
  pin := hpin

theorem formatted_reset : Formatted {} := by
  refine formatted_of (fun c hc => ?_) (by simp) rfl
  have hspace : c ∈ Vector.replicate 8 ' ' := hc
  rw [(Vector.mem_replicate.mp hspace).2]
  exact List.mem_cons_self

theorem Formatted.logKey (h : buffers.Formatted) (key : FunctionKey) :
    Formatted { buffers with keys := buffers.keys.push key.letter } where
  amount := h.amount
  opcode := h.opcode
  bytes := h.bytes
  keys := by
    intro c hc
    rw [String.toList_push] at hc
    rcases List.mem_append.mp hc with hold | hnew
    · exact h.keys c hold
    · have hletters : ∀ key ∈ FunctionKey.all,
          key.letter ∈ ['A', 'B', 'C', 'D', 'E', 'F', 'G', 'H', 'I'] := by decide
      rw [List.mem_singleton.mp hnew]
      exact hletters key key.mem_all
  pin := h.pin

theorem Formatted.write (h : buffers.Formatted) {supplied : String → Prop}
    (hwrite : buffers.Write supplied after) : after.Formatted := by
  have hkeys := hwrite.keys_eq ▸ h.keys
  have hpin := hwrite.pin_eq.trans h.pin
  have hcells : ∀ c ∈ buffers.opcode.cells, c ∈ [' ', 'A', 'B', 'C', 'D'] :=
    fun c hc => h.opcode.2 c (OpcodeBuffer.mem_text.mpr hc)
  cases hwrite with
  | nothing => exact h
  | b => exact formatted_of hcells hkeys hpin
  | c => exact formatted_of hcells hkeys hpin
  | amount => exact formatted_of hcells hkeys hpin
  | @opcode state key hkey =>
      refine formatted_of (fun c hc => ?_) hkeys hpin
      rcases Selection.mem_cells_of_mark hc with hold | rfl
      · exact hcells c hold
      · have hletters : ∀ key ∈ Selection.keys, key.letter ∈ [' ', 'A', 'B', 'C', 'D'] := by
          decide
        exact hletters key hkey

theorem Formatted.operate (h : buffers.Formatted) {step : Operation × OperationResult}
    (hend : Operation.BuffersEnd buffers step after) : after.Formatted := by
  cases hend with
  | written _ _ hwrite => exact h.write hwrite
  | pressed _ _ hwrite => exact (h.logKey _).write hwrite
  | reset => exact formatted_reset

end Buffers

/-- What a general purpose buffer holds in a terminal that is driven by events: nothing, or three to
twelve ASCII characters. -/
def IsStoredText (text : String) : Prop :=
  text = "" ∨ (3 ≤ text.toList.length ∧ text.toList.length ≤ 12) ∧
    ∀ c ∈ text.toList, c.val < 128

/-- A literal of a record has three characters, and the zeros after it are at most nine. -/
theorem StateTable.isStoredText_of_supplies {table : StateTable} (hrecorded : table.IsRecorded)
    {value : String} (h : table.Supplies value) : IsStoredText value := by
  obtain ⟨entry, hentry, state, extension, rfl, hextension, literal, hliteral, rfl⟩ := h
  obtain ⟨number, hlinked⟩ := get?_of_extensionFor? hextension
  have hstate : (StateEntry.information state).IsRecorded := hrecorded _ hentry
  have hsource : (StateEntry.extension extension).IsRecorded :=
    hrecorded _ (mem_entries_of_get? hlinked)
  have hlength := StateEntry.length_literal_of_isRecorded hsource hliteral
  have hzeros := StateEntry.zeros_le_nine_of_isRecorded hstate
  refine .inr ⟨?_, fun c hc => ?_⟩
  · rw [InformationEntry.toList_value, List.length_append, List.length_replicate]
    omega
  · rw [InformationEntry.toList_value] at hc
    rcases List.mem_append.mp hc with hchar | hzero
    · exact StateEntry.ascii_literal_of_isRecorded hsource hliteral hchar
    · rw [List.eq_of_mem_replicate hzero]
      decide

namespace Terminal

variable {terminal after : Terminal}

/-- What a terminal that is driven by events keeps: its entries stand in records, so that what it
stores comes from records. -/
structure Supplied (terminal : Terminal) : Prop where
  recorded : terminal.table.IsRecorded
  formatted : terminal.buffers.Formatted
  b : IsStoredText terminal.buffers.b
  c : IsStoredText terminal.buffers.c

theorem supplied_start (config : TerminalConfig) (settings : Settings) :
    (start config settings).Supplied := by
  have hbuffers : (start config settings).buffers = {} := by rw [start_eq]; rfl
  refine ⟨isRecorded_start config settings, ?_, ?_, ?_⟩
  · rw [hbuffers]
    exact Buffers.formatted_reset
  · rw [hbuffers]
    exact .inl rfl
  · rw [hbuffers]
    exact .inl rfl

theorem Supplied.keep (h : terminal.Supplied) (hrecorded : after.table.IsRecorded)
    (hbuffers : after.buffers = terminal.buffers) : after.Supplied :=
  ⟨hrecorded, hbuffers ▸ h.formatted, hbuffers ▸ h.b, hbuffers ▸ h.c⟩

/-- What a write with a value of the table leaves in the general purpose buffers. -/
theorem Supplied.stored (h : terminal.Supplied) {buffers stored : Buffers}
    (hwrite : buffers.Write terminal.table.Supplies stored) (hb : IsStoredText buffers.b)
    (hc : IsStoredText buffers.c) :
    IsStoredText stored.b ∧ IsStoredText stored.c := by
  cases hwrite with
  | nothing => exact ⟨hb, hc⟩
  | b hvalue => exact ⟨StateTable.isStoredText_of_supplies h.recorded hvalue, hc⟩
  | c hvalue => exact ⟨hb, StateTable.isStoredText_of_supplies h.recorded hvalue⟩
  | amount => exact ⟨hb, hc⟩
  | opcode => exact ⟨hb, hc⟩

theorem FollowEnd.table_eq {path : Option StateNumber}
    {result : Except ExecutionError (Option StateNumber)}
    (hend : terminal.FollowEnd path result after) : after.table = terminal.table := by
  cases hend with
  | nowhere => rfl
  | entered => rfl
  | failed => rfl

theorem PressEnd.table_eq {letter : Char} {result : Except ExecutionError KeyPress}
    (hend : terminal.PressEnd letter result after) : after.table = terminal.table := by
  cases hend with
  | ignored => rfl
  | noted => rfl
  | pressedIn _ _ _ hend =>
      cases hend with
      | _ => rfl

theorem ReceiveEnd.isRecorded {message : HostMessage} {settings stored : Settings}
    {response? : Option Response}
    (hend : terminal.ReceiveEnd settings message response? after stored)
    (h : terminal.table.IsRecorded) : after.table.IsRecorded := by
  cases hend with
  | unanswered => exact h
  | rejected => exact h
  | outOfService => exact h
  | inService =>
      rw [goInService_eq]
      cases terminal.entryOfInitial? with
      | none => exact h
      | some entry => exact h
  | loaded htable =>
      obtain ⟨states, -, hchunks⟩ := HostMessage.exists_of_loadedTable? htable
      exact StateTable.isRecorded_of_ofChunks hchunks

theorem Supplied.follow (h : terminal.Supplied) {path : Option StateNumber}
    {result : Except ExecutionError (Option StateNumber)}
    (hend : terminal.FollowEnd path result after) : after.Supplied :=
  h.keep (hend.table_eq ▸ h.recorded) hend.buffers_eq

theorem Supplied.press (h : terminal.Supplied) {letter : Char}
    {result : Except ExecutionError KeyPress} (hend : terminal.PressEnd letter result after) :
    after.Supplied := by
  have hrecorded : after.table.IsRecorded := hend.table_eq ▸ h.recorded
  by_cases haccepted : wasAccepted result
  · obtain ⟨key, -, hwrite⟩ := hend.exists_write haccepted
    obtain ⟨hb, hc⟩ := h.stored hwrite h.b h.c
    exact ⟨hrecorded, (h.formatted.logKey key).write hwrite, hb, hc⟩
  · exact h.keep hrecorded (hend.buffers_eq (by simpa using haccepted))

theorem Supplied.act (h : terminal.Supplied) {event : Event} {settings stored : Settings}
    {outcome : Outcome} (hend : Event.ActEnd terminal settings event outcome after stored) :
    after.Supplied := by
  cases hend with
  | host hend => exact h.keep (hend.isRecorded h.recorded) hend.buffers_eq
  | key hend => exact h.press hend
  | card => exact h
  | timeout hend => exact h.follow hend
  | cancel hend => exact h.follow hend

theorem supplied_run (config : TerminalConfig) (settings : Settings) (events : List Event) :
    (Event.run (start config settings) settings events).2.1.Supplied :=
  (Event.run_safe (fun terminal _ => terminal.Supplied) (fun _ => True)
    (fun event _ terminal settings h => ⟨trivial, h.act (event.act_end terminal settings)⟩)
    (start config settings) settings (supplied_start config settings)).2

/-- After any operations on a new terminal, with entries and extensions of any kind, every buffer
has its format.  After any events the general purpose buffers are empty or hold between three and
twelve ASCII characters as well. -/
theorem buffers_keep_format :
    (∀ (config : TerminalConfig) (settings : Settings) (operations : List Operation),
      (Operation.run (start config settings) settings operations).2.1.buffers.Formatted) ∧
      ∀ (config : TerminalConfig) (settings : Settings) (events : List Event),
        let buffers := (Event.run (start config settings) settings events).2.1.buffers
        buffers.Formatted ∧ IsStoredText buffers.b ∧ IsStoredText buffers.c := by
  refine ⟨fun config settings operations => ?_, fun config settings events => ?_⟩
  · have hstep : ∀ (operation : Operation) (terminal : Terminal) (settings : Settings),
        terminal.buffers.Formatted →
          (operation.apply terminal settings).2.1.buffers.Formatted :=
      fun operation terminal settings h => h.operate (operation.buffers_end terminal settings)
    exact Operation.run_keeps hstep operations settings (supplied_start config settings).formatted
  · intro buffers
    have hsupplied := supplied_run config settings events
    exact ⟨hsupplied.formatted, hsupplied.b, hsupplied.c⟩

end Terminal

end TellerTerminal
