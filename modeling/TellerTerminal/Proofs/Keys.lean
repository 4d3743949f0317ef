import Mathlib.Tactic.Common
import TellerTerminal.KeySet.Mask

/-!
# Members of key sets

A set that is built from a list has the keys of the list as its members, and two sets with the same
members are the same word.  A decimal mask has no bit for the key `E`, so that no mask of three
characters ever names it.
-/

namespace TellerTerminal

namespace FunctionKey

theorem getElem?_all_eq_some_iff {i : Nat} {key : FunctionKey} :
    all[i]? = some key ↔ i = key.rank := by
  constructor
  · intro h
    have hranks : ∀ pair ∈ all.zipIdx, pair.2 = pair.1.rank := by decide
    exact hranks (key, i) (List.mem_zipIdx_iff_getElem?.mpr h)
  · rintro rfl
    cases key <;> rfl

theorem exists_rank_eq {i : Nat} (hi : i < 9) : ∃ key : FunctionKey, i = key.rank := by
  have hlength : i < all.length := hi
  exact ⟨all[i], getElem?_all_eq_some_iff.mp (List.getElem?_eq_getElem hlength)⟩

end FunctionKey

namespace KeySet

/-- A set is determined by its members, since each of its bits is that of a key. -/
theorem eq_iff_contains {keys others : KeySet} :
    keys = others ↔ ∀ key, keys.contains key = others.contains key := by
  constructor
  · rintro rfl _
    rfl
  · intro h
    have hbits : keys.bits = others.bits := by
      refine BitVec.eq_of_getLsbD_eq fun i hi => ?_
      obtain ⟨key, rfl⟩ := FunctionKey.exists_rank_eq hi
      exact h key
    cases keys
    cases others
    cases hbits
    rfl

theorem contains_foldl_insert (keys : List FunctionKey) (set : KeySet) (key : FunctionKey) :
    (keys.foldl insert set).contains key = (set.contains key || decide (key ∈ keys)) := by
  induction keys generalizing set with
  | nil => simp
  | cons first rest ih =>
      rw [List.foldl_cons, ih, contains_insert, Bool.or_assoc]
      simp [eq_comm]

@[simp]
theorem contains_ofList (keys : List FunctionKey) (key : FunctionKey) :
    (ofList keys).contains key = decide (key ∈ keys) := by
  simp [ofList, contains_foldl_insert]

theorem contains_e_ofDecimal (value : Nat) : (ofDecimal value).contains .e = false := by
  rw [ofDecimal, contains_ofList, decide_eq_false_iff_not]
  intro hmem
  obtain ⟨bit, hbit, he⟩ := List.mem_map.mp hmem
  have hdecimal : FunctionKey.e ∈ decimalBits.map Prod.fst :=
    he ▸ List.mem_map_of_mem (List.mem_filter.mp hbit).1
  exact absurd hdecimal (by decide)

theorem contains_e_of_ofMask {mask : String} {keys : KeySet} (hlength : mask.toList.length = 3)
    (h : ofMask mask = .ok keys) : keys.contains .e = false := by
  simp only [ofMask, hlength, if_true] at h
  split_ifs at h
  obtain rfl := Except.ok.inj h
  exact contains_e_ofDecimal _

end KeySet

end TellerTerminal
