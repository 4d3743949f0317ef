/-!
# Lists in ascending order of a key

A finite map is kept as the list of its entries in strictly ascending order of their keys. A new
entry goes to its place and replaces an entry with the same key.
-/

namespace TellerTerminal.Ascending

variable {α κ : Type} [LT κ] [DecidableLT κ]

def insert (key : α → κ) (x : α) : List α → List α
  | [] => [x]
  | y :: rest =>
      if key x < key y then x :: y :: rest
      else if key y < key x then y :: insert key x rest
      else x :: rest

theorem mem_of_mem_insert {key : α → κ} {x y : α} {entries : List α}
    (h : y ∈ insert key x entries) : y = x ∨ y ∈ entries := by
  induction entries with
  | nil => simpa [insert] using h
  | cons z rest ih =>
      unfold insert at h
      split at h
      · simpa using h
      · split at h
        · rcases List.mem_cons.mp h with rfl | hrest
          · simp
          · rcases ih hrest with rfl | hmem
            · simp
            · simp [hmem]
        · rcases List.mem_cons.mp h with rfl | hrest
          · simp
          · simp [hrest]

variable [Std.Trichotomous fun a b : κ => a < b]
  [Trans (fun a b : κ => a < b) (fun a b : κ => a < b) (fun a b : κ => a < b)]

/-- Insertion keeps the keys strictly ascending. -/
theorem pairwise_insert {key : α → κ} (x : α) {entries : List α}
    (h : entries.Pairwise fun y z => key y < key z) :
    (insert key x entries).Pairwise fun y z => key y < key z := by
  induction entries with
  | nil => simp [insert]
  | cons y rest ih =>
      obtain ⟨hy, hrest⟩ := List.pairwise_cons.mp h
      unfold insert
      split
      next hlt =>
        refine List.pairwise_cons.mpr ⟨fun z hz => ?_, h⟩
        rcases List.mem_cons.mp hz with rfl | hz
        · exact hlt
        · exact Trans.trans hlt (hy z hz)
      next hnot =>
        split
        next hgt =>
          refine List.pairwise_cons.mpr ⟨fun z hz => ?_, ih hrest⟩
          rcases mem_of_mem_insert hz with rfl | hz
          · exact hgt
          · exact hy z hz
        next hnot' =>
          have heq : key x = key y :=
            Std.Trichotomous.trichotomous (r := fun a b : κ => a < b) _ _ hnot hnot'
          exact List.pairwise_cons.mpr ⟨fun z hz => heq ▸ hy z hz, hrest⟩

end TellerTerminal.Ascending
