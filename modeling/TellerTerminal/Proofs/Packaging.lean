import TellerTerminal.Proofs.Commands

/-!
# One payload in two packagings

The host may send the chunks of a payload as a list, or as one text with a separator between each
two of them.  The blank check does not see the same thing in the two forms, since the separator is
no blank: it stops a list of blank chunks, but not the text that is made of them, which is rejected
only when its records turn out to be none.  What comes of the load is the same, because a load is
decided by its records alone, and joined chunks have the records of the chunks.
-/

namespace TellerTerminal

theorem StateTable.ofChunks_congr {first second : List String}
    (hrecords : first.flatMap Payload.records = second.flatMap Payload.records) :
    ofChunks first = ofChunks second := by
  rw [ofChunks, ofChunks, hrecords]

theorem StateTable.ofChunks_joined (chunks : List String) :
    ofChunks [Payload.joined chunks] = ofChunks chunks :=
  ofChunks_congr (by rw [List.flatMap_singleton, Payload.records_joined])

namespace Terminal

variable {message : HostMessage} {states : StatesPayload}

/-- What comes of a load.  It makes no difference whether a payload without a table is stopped by
the blank check or by the reading of its records. -/
theorem receive_of_isTableLoad (h : message.IsTableLoad states) (terminal : Terminal)
    (settings : Settings) :
    terminal.receive settings message =
      match StateTable.ofChunks states.chunks with
      | .ok table =>
          (some .ready, terminal.install table, settings.set tableKey (.strings table.records))
      | .error _ => (some .commandReject, terminal, settings) := by
  cases htable : StateTable.ofChunks states.chunks with
  | ok table =>
      exact receive_of_loadedTable? (HostMessage.loadedTable?_eq_some_iff.mpr ⟨states, h, htable⟩)
  | error error =>
      rw [receive, h.command?_eq]
      by_cases hblank : states.isBlank
      · rw [if_pos hblank]
        rfl
      · rw [if_neg hblank]
        simp only [obey, load, htable]

/-- A load of some chunks as a list and a load of the same chunks as one text, joined by the
separator, have the same response and leave the same terminal and the same settings, whatever the
chunks are. -/
theorem packagings_agree {chunks : List String} {list text : HostMessage}
    (hlist : list.IsTableLoad (.many chunks))
    (htext : text.IsTableLoad (.single (Payload.joined chunks)))
    (terminal : Terminal) (settings : Settings) :
    terminal.receive settings list = terminal.receive settings text := by
  have htable : StateTable.ofChunks (StatesPayload.single (Payload.joined chunks)).chunks =
      StateTable.ofChunks (StatesPayload.many chunks).chunks := StateTable.ofChunks_joined chunks
  rw [receive_of_isTableLoad hlist, receive_of_isTableLoad htext, htable]

/-- Chunks with line ends, an empty chunk, and one that holds two records and an empty piece. -/
def oddChunks : List String :=
  ["000D000000000000000000000000\r\n", "", "\x1c001D000000000000000000000000\x1c\x1c" ++
    "000E001000000255001255001000\n"]

/-- The odd chunks are accepted in both packagings.  Blank chunks are rejected in both, though only
the list of them is blank. -/
theorem packagings_agree_oddChunks :
    (∀ (terminal : Terminal) (settings : Settings),
      terminal.receive settings (HostMessage.stateTablesLoad (.many oddChunks)) =
        terminal.receive settings
          (HostMessage.stateTablesLoad (.single (Payload.joined oddChunks)))) ∧
      ((start {} {}).receive {} (HostMessage.stateTablesLoad (.many oddChunks))).1 =
        some .ready ∧
      (StatesPayload.many [" ", ""]).isBlank ∧
      (StatesPayload.single (Payload.joined [" ", ""])).isBlank = false ∧
      ((start {} {}).receive {}
        (HostMessage.stateTablesLoad (.single (Payload.joined [" ", ""])))).1 =
          some .commandReject := by
  have hload : ∀ states, (HostMessage.stateTablesLoad states).IsTableLoad states :=
    fun _ => ⟨rfl, rfl, rfl, rfl⟩
  have hodd := packagings_agree (hload (.many oddChunks))
    (hload (.single (Payload.joined oddChunks)))
  have hblank := packagings_agree (hload (.many [" ", ""]))
    (hload (.single (Payload.joined [" ", ""]))) (start {} {}) {}
  refine ⟨hodd, by decide, by decide, by decide, ?_⟩
  rw [← hblank]
  decide

end Terminal

end TellerTerminal
