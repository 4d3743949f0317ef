import Mathlib.Data.List.DropRight
import Mathlib.Data.List.Forall2

/-!
# Success of steps that may fail

A chain of steps succeeds exactly if each of its steps does.  Where each step of a run gives a value
or none, the last value is that of the later steps, if they give any.  Where some steps discard the
values before them, one more step either discards them as well or adds its own.
-/

namespace TellerTerminal

variable {ε α β : Type}

theorem bind_eq_ok_iff {step : Except ε α} {next : α → Except ε β} {result : β} :
    (step >>= next) = .ok result ↔ ∃ value, step = .ok value ∧ next value = .ok result := by
  cases step with
  | error cause => simp [bind, Except.bind]
  | ok value => simp [bind, Except.bind]

theorem bind_eq_error_iff {step : Except ε α} {next : α → Except ε β} {cause : ε} :
    (step >>= next) = .error cause ↔
      step = .error cause ∨ ∃ value, step = .ok value ∧ next value = .error cause := by
  cases step with
  | error other => simp [bind, Except.bind]
  | ok value => simp [bind, Except.bind]

theorem map_eq_ok_iff {step : Except ε α} {f : α → β} {result : β} :
    step.map f = .ok result ↔ ∃ value, step = .ok value ∧ f value = result := by
  cases step with
  | error cause => simp [Except.map]
  | ok value => simp [Except.map]

theorem map_eq_error_iff {step : Except ε α} {f : α → β} {cause : ε} :
    step.map f = .error cause ↔ step = .error cause := by
  cases step with
  | error cause => simp [Except.map]
  | ok value => simp [Except.map]

theorem mapError_eq_ok_iff {δ : Type} {step : Except ε α} {f : ε → δ} {value : α} :
    step.mapError f = .ok value ↔ step = .ok value := by
  cases step with
  | error cause => simp [Except.mapError]
  | ok result => simp [Except.mapError]

theorem toOption_eq_some_iff {step : Except ε α} {value : α} :
    step.toOption = some value ↔ step = .ok value := by
  cases step with
  | error cause => simp [Except.toOption]
  | ok result => simp [Except.toOption]

/-- Steps over a list succeed together exactly if each of them succeeds. -/
theorem mapM_eq_ok_iff {step : α → Except ε β} {items : List α} {results : List β} :
    items.mapM step = .ok results ↔
      List.Forall₂ (fun item result => step item = .ok result) items results := by
  induction items generalizing results with
  | nil => simp [pure, Except.pure, eq_comm]
  | cons item rest ih =>
      rw [List.mapM_cons, bind_eq_ok_iff]
      constructor
      · rintro ⟨first, hfirst, hrest⟩
        obtain ⟨others, hothers, hpure⟩ := bind_eq_ok_iff.mp hrest
        obtain rfl := Except.ok.inj hpure
        exact .cons hfirst (ih.mp hothers)
      · intro hall
        cases hall with
        | cons hfirst hothers =>
            exact ⟨_, hfirst, bind_eq_ok_iff.mpr ⟨_, ih.mpr hothers, rfl⟩⟩

/-- Steps over a list fail as the first of them that fails, whatever comes after it. -/
theorem mapM_eq_error_iff {step : α → Except ε β} {items : List α} {cause : ε} :
    items.mapM step = .error cause ↔
      ∃ before item after, items = before ++ item :: after ∧
        (∀ earlier ∈ before, ∃ value, step earlier = .ok value) ∧ step item = .error cause := by
  induction items with
  | nil => simp [pure, Except.pure]
  | cons first rest ih =>
      rw [List.mapM_cons, bind_eq_error_iff]
      constructor
      · rintro (hfirst | ⟨value, hfirst, hrest⟩)
        · exact ⟨[], first, rest, rfl, by simp, hfirst⟩
        · have hlater : rest.mapM step = .error cause := by
            cases hmap : rest.mapM step with
            | error other => simpa [hmap, bind, Except.bind] using hrest
            | ok values => simp [hmap, bind, Except.bind, pure, Except.pure] at hrest
          obtain ⟨before, item, after, rfl, hbefore, hitem⟩ := ih.mp hlater
          refine ⟨first :: before, item, after, rfl, ?_, hitem⟩
          exact List.forall_mem_cons.mpr ⟨⟨value, hfirst⟩, hbefore⟩
      · rintro ⟨before, item, after, hsplit, hbefore, hitem⟩
        cases before with
        | nil =>
            obtain ⟨rfl, rfl⟩ := List.cons.inj hsplit
            exact .inl hitem
        | cons earlier others =>
            obtain ⟨rfl, rfl⟩ := List.cons.inj hsplit
            obtain ⟨⟨value, hfirst⟩, hothers⟩ := List.forall_mem_cons.mp hbefore
            refine .inr ⟨value, hfirst, ?_⟩
            rw [ih.mpr ⟨others, item, after, rfl, hothers, hitem⟩]
            rfl

theorem getLast?_toList_append (first? : Option α) (rest : List α) :
    (first?.toList ++ rest).getLast? = rest.getLast?.or first? := by
  rw [List.getLast?_append]
  cases first? with
  | none => rfl
  | some first => rfl

theorem filterMap_toList (first? : Option α) (f : α → Option β) :
    first?.toList.filterMap f = (first?.bind f).toList := by
  cases first? with
  | none => rfl
  | some first => cases hf : f first <;> simp [hf]

/-- The values since the last step that resets, with one more step. -/
theorem filterMap_rtakeWhile_concat (resets : α → Bool) (value? : α → Option β) (steps : List α)
    (step : α) :
    ((steps ++ [step]).rtakeWhile fun s => !resets s).filterMap value? =
      if resets step then []
      else (steps.rtakeWhile fun s => !resets s).filterMap value? ++ (value? step).toList := by
  by_cases hresets : resets step
  · simp [hresets]
  · cases hvalue : value? step <;> simp [hresets, hvalue]

end TellerTerminal
