import TellerTerminal.Proofs.Operations
import TellerTerminal.Proofs.SharedStore

/-!
# Terminals do not interfere

The terminals of a fleet share a store, but none of them reads it again after its start.  What an
operation answers and leaves of its terminal is therefore the same on every store, and the share
that one terminal has in a run of the fleet is a run of its own: its operations alone, in their
order, from the state in which it was started.
-/

namespace TellerTerminal

namespace Terminal

/-- The answer to a message and the terminal after it are the same on every store. -/
theorem receive_on (terminal : Terminal) (first second : Settings) (message : HostMessage) :
    (terminal.receive first message).1 = (terminal.receive second message).1 ∧
      (terminal.receive first message).2.1 = (terminal.receive second message).2.1 := by
  unfold receive
  cases message.command? with
  | none => exact ⟨rfl, rfl⟩
  | some command =>
      cases command with
      | goOutOfService => exact ⟨rfl, rfl⟩
      | goInService => exact ⟨rfl, rfl⟩
      | reject reason => exact ⟨rfl, rfl⟩
      | loadStateTables states =>
          simp only [obey, load]
          cases StateTable.ofChunks states.chunks with
          | ok table => exact ⟨rfl, rfl⟩
          | error error => exact ⟨rfl, rfl⟩

end Terminal

namespace Operation

theorem apply_on (operation : Operation) (terminal : Terminal) (first second : Settings) :
    (operation.apply terminal first).1 = (operation.apply terminal second).1 ∧
      (operation.apply terminal first).2.1 = (operation.apply terminal second).2.1 := by
  cases operation with
  | receive message =>
      obtain ⟨hanswer, hafter⟩ := terminal.receive_on first second message
      exact ⟨congrArg OperationResult.response hanswer, hafter⟩
  | _ => exact ⟨rfl, rfl⟩

end Operation

namespace Fleet

/-- The operation that an action asks of the terminal at an index. -/
def operationOf? (index : Nat) : Action → Option Operation
  | .operate other operation => if other = index then some operation else none
  | _ => none

/-- The operations of a run that are meant for the terminal at an index, in their order. -/
def operationsOf (index : Nat) (actions : List Action) : List Operation :=
  actions.filterMap (operationOf? index)

/-- What the terminal at an index answers to an action, if the action operates it. -/
def result? (fleet : Fleet) (index : Nat) (action : Action) : Option OperationResult :=
  match operationOf? index action, fleet.terminals[index]? with
  | some operation, some terminal => some (operation.apply terminal fleet.settings).1
  | _, _ => none

/-- The answers of the terminal at an index during a run. -/
def results (fleet : Fleet) (index : Nat) : List Action → List OperationResult
  | [] => []
  | action :: rest => (fleet.result? index action).toList ++ (fleet.apply action).results index rest

variable {fleet : Fleet} {index : Nat} {terminal : Terminal}

/-- An action changes a terminal only by the operation that it asks of it. -/
theorem terminals_apply (hterminal : fleet.terminals[index]? = some terminal) (action : Action) :
    (fleet.apply action).terminals[index]? =
      some ((operationOf? index action).elim terminal fun operation =>
        (operation.apply terminal fleet.settings).2.1) := by
  cases action with
  | start config =>
      obtain ⟨hindex, -⟩ := List.getElem?_eq_some_iff.mp hterminal
      simp only [apply, operationOf?, Option.elim_none]
      rw [List.getElem?_append_left hindex, hterminal]
  | write key value => exact hterminal
  | operate other operation =>
      by_cases hother : other = index
      · subst hother
        obtain ⟨hindex, rfl⟩ := List.getElem?_eq_some_iff.mp hterminal
        simp [apply, operationOf?, hindex]
      · simp only [operationOf?, if_neg hother, Option.elim_none, apply]
        cases fleet.terminals[other]? with
        | none => exact hterminal
        | some _ => rw [← hterminal]; exact List.getElem?_set_ne hother

/-- The share of a terminal in a run is the run of its own operations. -/
theorem share_eq_run (actions : List Action) (hterminal : fleet.terminals[index]? = some terminal)
    (alone : Settings) :
    (fleet.run actions).terminals[index]? =
        some (Operation.run terminal alone (operationsOf index actions)).2.1 ∧
      fleet.results index actions =
        (Operation.run terminal alone (operationsOf index actions)).1 := by
  induction actions generalizing fleet terminal alone with
  | nil => exact ⟨hterminal, rfl⟩
  | cons action rest ih =>
      have hafter := terminals_apply hterminal action
      cases hown : operationOf? index action with
      | none =>
          rw [hown, Option.elim_none] at hafter
          obtain ⟨hlast, hresults⟩ := ih hafter alone
          have hrest : operationsOf index (action :: rest) = operationsOf index rest :=
            List.filterMap_cons_none hown
          have hquiet : fleet.result? index action = none := by simp [result?, hown]
          rw [hrest, results, hquiet]
          exact ⟨hlast, hresults⟩
      | some operation =>
          rw [hown, Option.elim_some] at hafter
          have hrest : operationsOf index (action :: rest) =
              operation :: operationsOf index rest := List.filterMap_cons_some hown
          have hanswer : fleet.result? index action =
              some (operation.apply terminal fleet.settings).1 := by
            simp [result?, hown, hterminal]
          obtain ⟨hresult, hstep⟩ := operation.apply_on terminal fleet.settings alone
          rw [hstep] at hafter
          obtain ⟨hlast, hresults⟩ := ih hafter (operation.apply terminal alone).2.2
          rw [hrest, results, hanswer, hresult, hresults]
          exact ⟨hlast, rfl⟩

theorem length_terminals_apply (fleet : Fleet) (action : Action) :
    (fleet.apply action).terminals.length = fleet.terminals.length ∨
      ∃ config, action = .start config ∧ (fleet.apply action).terminals =
        fleet.terminals ++ [Terminal.start config fleet.settings] := by
  cases action with
  | start config => exact .inr ⟨config, rfl, rfl⟩
  | write key value => exact .inl rfl
  | operate other operation =>
      simp only [apply]
      cases fleet.terminals[other]? with
      | none => exact .inl rfl
      | some _ => exact .inl List.length_set

theorem length_terminals_le_apply (fleet : Fleet) (action : Action) :
    fleet.terminals.length ≤ (fleet.apply action).terminals.length := by
  rcases fleet.length_terminals_apply action with hsame | ⟨config, -, happend⟩
  · omega
  · simp [happend]

theorem length_terminals_le_run (fleet : Fleet) (actions : List Action) :
    fleet.terminals.length ≤ (fleet.run actions).terminals.length := by
  induction actions generalizing fleet with
  | nil => exact Nat.le_refl _
  | cons action rest ih => exact (fleet.length_terminals_le_apply action).trans (ih _)

/-- Nothing is answered by a terminal that is not there before the end of the run. -/
theorem results_eq_nil (actions : List Action)
    (habsent : (fleet.run actions).terminals.length ≤ index) :
    fleet.results index actions = [] := by
  induction actions generalizing fleet with
  | nil => rfl
  | cons action rest ih =>
      have hbefore : fleet.terminals.length ≤ index :=
        (fleet.length_terminals_le_run (action :: rest)).trans habsent
      have hquiet : fleet.result? index action = none := by
        simp [result?, List.getElem?_eq_none hbefore]
      rw [results, hquiet, ih habsent]
      rfl

theorem results_append (earlier later : List Action) :
    fleet.results index (earlier ++ later) =
      fleet.results index earlier ++ (fleet.run earlier).results index later := by
  induction earlier generalizing fleet with
  | nil => rfl
  | cons action rest ih => rw [List.cons_append, results, ih, results, List.append_assoc]; rfl

/-- A terminal that is there after a run, and was not before it, was started in the run. -/
theorem exists_start (actions : List Action) (hbefore : fleet.terminals.length ≤ index)
    (hafter : index < (fleet.run actions).terminals.length) :
    ∃ before config after, actions = before ++ .start config :: after ∧
      (fleet.run before).terminals.length = index := by
  induction actions generalizing fleet with
  | nil => exact absurd hafter (Nat.not_lt.mpr hbefore)
  | cons action rest ih =>
      by_cases hnow : (fleet.apply action).terminals.length ≤ index
      · obtain ⟨before, config, after, rfl, hlength⟩ := ih hnow hafter
        exact ⟨action :: before, config, after, rfl, hlength⟩
      · rcases fleet.length_terminals_apply action with hsame | ⟨config, rfl, happend⟩
        · omega
        · have hlength : fleet.terminals.length = index := by
            rw [happend, List.length_append, List.length_singleton] at hnow
            omega
          exact ⟨[], config, rest, rfl, hlength⟩

/-- A terminal that is started within a run has its share in the rest of the run only. -/
theorem share_of_start (before after : List Action) (config : TerminalConfig)
    (alone : Settings) :
    let index := (fleet.run before).terminals.length
    let started := Terminal.start config (fleet.run before).settings
    let own := Operation.run started alone (operationsOf index after)
    (fleet.run (before ++ .start config :: after)).terminals[index]? = some own.2.1 ∧
      fleet.results index (before ++ .start config :: after) = own.1 := by
  intro index started own
  have hstarted : ((fleet.run before).apply (.start config)).terminals[index]? = some started := by
    simp [apply, started, index]
  obtain ⟨hlast, hresults⟩ := share_eq_run after hstarted alone
  have hrun : fleet.run (before ++ .start config :: after) =
      ((fleet.run before).apply (.start config)).run after := by
    simp [run, List.foldl_append]
  have hsilent : fleet.results index before = [] := results_eq_nil before (Nat.le_refl index)
  rw [hrun, results_append, hsilent, results]
  exact ⟨hlast, hresults⟩

/-- The terminals of a fleet do not interfere.  Whatever its store holds at first, whatever others
write to it and however the terminals take turns, each of them was started at some point of the
run, and from there on it answers and ends as it would on any store, if its own operations alone
were carried out in their order. -/
theorem terminals_do_not_interfere {settings : Settings} {actions : List Action} {index : Nat}
    (hindex : index < (({ settings } : Fleet).run actions).terminals.length) :
    ∃ before config after, actions = before ++ .start config :: after ∧
      (({ settings } : Fleet).run before).terminals.length = index ∧
      ∀ alone : Settings,
        let started := Terminal.start config (({ settings } : Fleet).run before).settings
        let own := Operation.run started alone (operationsOf index after)
        (({ settings } : Fleet).run actions).terminals[index]? = some own.2.1 ∧
          ({ settings } : Fleet).results index actions = own.1 := by
  have hbefore : ({ settings } : Fleet).terminals.length ≤ index := Nat.zero_le index
  obtain ⟨before, config, after, rfl, rfl⟩ := exists_start actions hbefore hindex
  exact ⟨before, config, after, rfl, rfl, share_of_start before after config⟩

/-- Two terminals that take turns.  The second is started on the table of the first, loads another
one and goes in service; meanwhile the stored records are overwritten with something else. -/
def crossing : List Action :=
  [.start {}, .operate 0 (.receive (HostMessage.stateTablesLoad (.single
      "000X001010010010040033255000\x1c010D000000000000000000000000"))),
    .start {}, .operate 1 (.receive (HostMessage.stateTablesLoad (.single
      "000E001000000255001255001000"))),
    .write Terminal.tableKey (.string "overwritten"),
    .operate 0 (.receive (HostMessage.terminalCommand HostMessage.goInServiceCode)),
    .operate 1 (.receive (HostMessage.terminalCommand HostMessage.goInServiceCode)),
    .operate 0 (.receive (HostMessage.stateTablesLoad (.single "010D"))), .operate 0 (.press 'A')]

/-- Each of the two has the keys of its own initial state. -/
theorem crossing_terminals_do_not_interfere :
    1 < (({} : Fleet).run crossing).terminals.length ∧
      (∃ before config after, crossing = before ++ .start config :: after ∧
        ∀ alone,
          let started := Terminal.start config (({} : Fleet).run before).settings
          let own := Operation.run started alone (operationsOf 1 after)
          (({} : Fleet).run crossing).terminals[1]? = some own.2.1 ∧
            ({} : Fleet).results 1 crossing = own.1) ∧
      (({} : Fleet).run crossing).terminals.map Terminal.active =
        [.ofList [.a, .b, .c, .d, .f, .g, .h, .i], .ofList [.b, .d]] := by
  have hindex : 1 < (({} : Fleet).run crossing).terminals.length := by decide
  obtain ⟨before, config, after, hsplit, -, hshare⟩ := terminals_do_not_interfere hindex
  exact ⟨hindex, ⟨before, config, after, hsplit, hshare⟩, by decide⟩

end Fleet

end TellerTerminal
