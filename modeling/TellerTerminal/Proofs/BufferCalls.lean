import TellerTerminal.Proofs.Success

/-!
# Calls on a buffer

A buffer is written or cleared.  A write that fails leaves the buffer as it was, so that after any
calls all that counts is the last write that stored something since the buffer was last cleared.
`run_last` draws this from what a single write does, for any buffer and for any part of it that a
write may store or leave alone.
-/

namespace TellerTerminal

inductive BufferCall (ι : Type)
  | write (input : ι)
  | clear

namespace BufferCall

variable {ι β ε ω : Type}

def isClear : BufferCall ι → Bool
  | write _ => false
  | clear => true

/-- The result of a call with the buffer after it, where a cleared buffer is `blank`. -/
def apply (store : β → ι → Except ε β) (blank buffer : β) : BufferCall ι → Except ε Unit × β
  | write input =>
      match store buffer input with
      | .ok written => (.ok (), written)
      | .error error => (.error error, buffer)
  | clear => (.ok (), blank)

/-- The buffer after calls, blank at first. -/
def run (store : β → ι → Except ε β) (blank : β) (calls : List (BufferCall ι)) : β :=
  calls.foldl (fun buffer call => (call.apply store blank buffer).2) blank

def storedBy? (stored? : ι → Option ω) : BufferCall ι → Option ω
  | write input => stored? input
  | clear => none

/-- What was stored last since the last clearing, or since the start without one. -/
def last? (stored? : ι → Option ω) (calls : List (BufferCall ι)) : Option ω :=
  ((calls.rtakeWhile fun call => !call.isClear).filterMap (storedBy? stored?)).getLast?

variable {store : β → ι → Except ε β} {blank buffer : β} {stored? : ι → Option ω}

theorem run_concat (calls : List (BufferCall ι)) (call : BufferCall ι) :
    run store blank (calls ++ [call]) = (call.apply store blank (run store blank calls)).2 := by
  rw [run, List.foldl_concat]
  rfl

theorem apply_of_ok {input : ι} {written : β} (h : store buffer input = .ok written) :
    (write input).apply store blank buffer = (.ok (), written) := by
  simp only [apply, h]

theorem apply_of_error {input : ι} {error : ε} (h : store buffer input = .error error) :
    (write input).apply store blank buffer = (.error error, buffer) := by
  simp only [apply, h]

theorem apply_eq_ok_iff {input : ι} :
    ((write input).apply store blank buffer).1 = .ok () ↔
      ∃ written, store buffer input = .ok written := by
  cases hstore : store buffer input with
  | ok written => simp [apply_of_ok hstore]
  | error error => simp [apply_of_error hstore]

theorem apply_eq_error_iff {input : ι} {error : ε} :
    ((write input).apply store blank buffer).1 = .error error ↔
      store buffer input = .error error := by
  cases hstore : store buffer input with
  | ok written => simp [apply_of_ok hstore]
  | error other => simp [apply_of_error hstore]

/-- A write that fails may as well not be called. -/
theorem run_append_cons_of_error {calls rest : List (BufferCall ι)} {input : ι} {error : ε}
    (h : store (run store blank calls) input = .error error) :
    run store blank (calls ++ .write input :: rest) = run store blank (calls ++ rest) := by
  rw [run, List.foldl_append, List.foldl_cons, run, List.foldl_append]
  rw [run] at h
  rw [apply_of_error h]

theorem last?_concat (calls : List (BufferCall ι)) (call : BufferCall ι) :
    last? stored? (calls ++ [call]) =
      if call.isClear then none else (call.storedBy? stored?).or (last? stored? calls) := by
  rw [last?, filterMap_rtakeWhile_concat]
  split_ifs
  · rfl
  · rw [List.getLast?_append]
    cases call.storedBy? stored? with
    | none => rfl
    | some stored => rfl

/-- A statement about a buffer and what was last stored in it holds after any calls, if it holds of
the blank buffer, is established by each write that stores something, and is kept by each that does
not. -/
theorem run_last (invariant : Option ω → β → Prop) (hblank : invariant none blank)
    (hstored : ∀ buffer input written last, store buffer input = .ok written →
      invariant last buffer → invariant ((stored? input).or last) written)
    (hrejected : ∀ buffer input, (¬ ∃ written, store buffer input = .ok written) →
      stored? input = none) (calls : List (BufferCall ι)) :
    invariant (last? stored? calls) (run store blank calls) := by
  -- What was stored last is found from the end, and so the induction is on the last call.
  induction calls using List.reverseRecOn with
  | nil => exact hblank
  | append_singleton calls call ih =>
      rw [run_concat, last?_concat]
      cases call with
      | clear => exact hblank
      | write input =>
          show invariant ((stored? input).or _) _
          cases hstore : store (run store blank calls) input with
          | ok written =>
              rw [apply_of_ok hstore]
              exact hstored _ _ _ _ hstore ih
          | error error =>
              have hnone : ¬ ∃ written, store (run store blank calls) input = .ok written := by
                simp [hstore]
              rw [apply_of_error hstore, hrejected _ _ hnone]
              exact ih

end BufferCall

end TellerTerminal
