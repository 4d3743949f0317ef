import TellerTerminal.Settings

/-!
# Reading what was written

A value that is set is found under its key, and every other key keeps its value.  Of two values
that are set under one key after each other only the second leaves a trace.
-/

namespace TellerTerminal

theorem Ascending.find?_insert {α κ : Type} [LT κ] [DecidableLT κ] [DecidableEq κ]
    [Std.Trichotomous fun a b : κ => a < b] [Std.Irrefl fun a b : κ => a < b]
    (key : α → κ) (x : α) (entries : List α) (k : κ) :
    (insert key x entries).find? (fun y => key y = k) =
      if key x = k then some x else entries.find? fun y => key y = k := by
  induction entries with
  | nil => by_cases hx : key x = k <;> simp [insert, hx]
  | cons y rest ih =>
      unfold insert
      split
      next hlt => by_cases hx : key x = k <;> simp [hx]
      next hnot =>
        split
        next hgt =>
          have hne : key y ≠ key x := fun heq =>
            Std.Irrefl.irrefl (r := fun a b : κ => a < b) (key x) (heq ▸ hgt)
          by_cases hx : key x = k
          · have hy : key y ≠ k := hx ▸ hne
            simp [hx, hy, ih]
          · simp [List.find?_cons, hx, ih]
        next hnot' =>
          have heq : key x = key y :=
            Std.Trichotomous.trichotomous (r := fun a b : κ => a < b) _ _ hnot hnot'
          by_cases hx : key x = k
          · simp [hx]
          · have hy : key y ≠ k := heq ▸ hx
            simp [hx, hy]

/-- Of two entries with one key the later takes the place of the earlier. -/
theorem Ascending.insert_insert {α κ : Type} [LT κ] [DecidableLT κ]
    [Std.Asymm fun a b : κ => a < b] {key : α → κ} {x y : α} (hkey : key x = key y)
    (entries : List α) : insert key x (insert key y entries) = insert key x entries := by
  have hirrefl : ¬ key y < key y := fun h =>
    Std.Asymm.asymm (r := fun a b : κ => a < b) _ _ h h
  induction entries with
  | nil => simp [insert, hkey, hirrefl]
  | cons z rest ih =>
      by_cases hlt : key y < key z
      · simp [insert, hkey, hirrefl, hlt]
      · by_cases hgt : key z < key y
        · simp [insert, hkey, hlt, hgt, ih]
        · simp [insert, hkey, hirrefl, hlt, hgt]

namespace Settings

theorem set_set (settings : Settings) (key : String) (first second : Json) :
    (settings.set key first).set key second = settings.set key second := by
  have hkey : Prod.fst (key, second) = Prod.fst (key, first) := rfl
  simp only [set, Ascending.insert_insert hkey]

@[simp]
theorem find?_set (settings : Settings) (key other : String) (value : Json) :
    (settings.set key value).find? other =
      if key = other then some value else settings.find? other := by
  simp only [find?, set, Ascending.find?_insert Prod.fst (key, value)]
  split <;> rfl

end Settings

end TellerTerminal
