import TellerTerminal.Proofs.Host
import TellerTerminal.Replay.Report

/-!
# Runs of events

A run applies the events of a list one after another.  The ways in which one event can end are those
of the step of the terminal that it asks for, and what every event keeps is kept by every run.
-/

namespace TellerTerminal.Event

/-- How an event can end. -/
inductive ActEnd (terminal : Terminal) (settings : Settings) :
    Event → Outcome → Terminal → Settings → Prop
  | host {message : HostMessage} {response? : Option Response} {after : Terminal}
      {stored : Settings} (hend : terminal.ReceiveEnd settings message response? after stored) :
      ActEnd terminal settings (.host message) (response?.elim .noResponse .response) after stored
  | key {letter : Char} {result : Except ExecutionError KeyPress} {after : Terminal}
      (hend : terminal.PressEnd letter result after) :
      ActEnd terminal settings (.key letter) (.ofResult (.key letter) result) after settings
  | card (track : String) :
      ActEnd terminal settings (.card track) (.card (terminal.readCard track)) terminal settings
  | timeout {result : Except ExecutionError (Option StateNumber)} {after : Terminal}
      (hend : terminal.FollowEnd (terminal.entryOfCurrent?.bind StateEntry.timeout?) result after) :
      ActEnd terminal settings .timeout (.ofResult .transition result) after settings
  | cancel {result : Except ExecutionError (Option StateNumber)} {after : Terminal}
      (hend : terminal.FollowEnd (terminal.entryOfCurrent?.bind StateEntry.cancel?) result after) :
      ActEnd terminal settings .cancel (.ofResult .transition result) after settings

theorem act_end (event : Event) (terminal : Terminal) (settings : Settings) :
    ActEnd terminal settings event (event.act terminal settings).1
      (event.act terminal settings).2.1 (event.act terminal settings).2.2 := by
  cases event with
  | host message =>
      have hend := terminal.receive_end settings message
      rw [act]
      rcases hreceive : terminal.receive settings message with ⟨_ | response, after, stored⟩
      all_goals
        rw [hreceive] at hend
        exact .host hend
  | key letter => exact .key (terminal.press_end letter)
  | card track => exact .card track
  | timeout => exact .timeout (terminal.follow_end _)
  | cancel => exact .cancel (terminal.follow_end _)

/-- The reports of a list of events, with the terminal and the settings after it. -/
def run (terminal : Terminal) (settings : Settings) :
    List Event → List Report × Terminal × Settings
  | [] => ([], terminal, settings)
  | event :: rest =>
      let (report, terminal, settings) := event.apply terminal settings
      let (reports, terminal, settings) := run terminal settings rest
      (report :: reports, terminal, settings)

theorem length_run (events : List Event) (terminal : Terminal) (settings : Settings) :
    (run terminal settings events).1.length = events.length := by
  induction events generalizing terminal settings with
  | nil => rfl
  | cons event rest ih => exact congrArg Nat.succ (ih _ _)

/-- The later events of a run start where the earlier ones have ended. -/
theorem run_append (earlier later : List Event) (terminal : Terminal) (settings : Settings) :
    run terminal settings (earlier ++ later) =
      ((run terminal settings earlier).1 ++ (run (run terminal settings earlier).2.1
          (run terminal settings earlier).2.2 later).1,
        (run (run terminal settings earlier).2.1 (run terminal settings earlier).2.2 later).2) := by
  induction earlier generalizing terminal settings with
  | nil => rfl
  | cons event rest ih =>
      simp only [List.cons_append, run, ih]

/-- What every event of a run keeps holds after the run, and every report has what every event
reports as long as it is kept. -/
theorem run_safe (invariant : Terminal → Settings → Prop) (allowed : Report → Prop)
    {events : List Event}
    (hstep : ∀ event ∈ events, ∀ terminal settings, invariant terminal settings →
      allowed (event.apply terminal settings).1 ∧
        invariant (event.apply terminal settings).2.1 (event.apply terminal settings).2.2)
    (terminal : Terminal) (settings : Settings) (hstart : invariant terminal settings) :
    (∀ report ∈ (run terminal settings events).1, allowed report) ∧
      invariant (run terminal settings events).2.1 (run terminal settings events).2.2 := by
  induction events generalizing terminal settings with
  | nil => exact ⟨fun _ hreport => absurd hreport List.not_mem_nil, hstart⟩
  | cons event rest ih =>
      obtain ⟨hallowed, hafter⟩ := hstep event List.mem_cons_self terminal settings hstart
      obtain ⟨hreports, hend⟩ :=
        ih (fun later hlater => hstep later (List.mem_cons_of_mem _ hlater)) _ _ hafter
      refine ⟨fun report hreport => ?_, hend⟩
      rcases List.mem_cons.mp hreport with rfl | hrest
      · exact hallowed
      · exact hreports report hrest

end TellerTerminal.Event
