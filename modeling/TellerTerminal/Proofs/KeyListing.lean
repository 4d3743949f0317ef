import Mathlib.Data.Char
import Mathlib.Data.List.Sort
import TellerTerminal.Proofs.Keys
import TellerTerminal.Replay.ReportText

/-!
# Listing a set of keys

A set that is collected key by key says of each key whether it was among them, and nothing about
their order or how often they came.  Wherever its letters are shown, they are those of the keys,
once each and in ascending order, and the number of bits in its word is the number of letters.
-/

namespace TellerTerminal

namespace FunctionKey

theorem map_rank_all : all.map (fun key => (key.rank : Nat)) = List.range 9 := rfl

theorem pairwise_letter_all : (all.map letter).Pairwise (· < ·) := by decide

end FunctionKey

namespace KeySet

/-- The letters of the keys in a list, once each and in ascending order. -/
structure AreLettersOf (letters : List Char) (keys : List FunctionKey) : Prop where
  ascending : letters.Pairwise (· < ·)
  mem_iff : ∀ c, c ∈ letters ↔ ∃ key ∈ keys, key.letter = c

/-- The word of sixteen bits in which the bit at the rank of each key is set in turn. -/
def wideWord (keys : List FunctionKey) : BitVec 16 :=
  keys.foldl (fun word key => word ||| 1#16 <<< (key.rank : Nat)) 0#16

section Words

/-- The places below a bound whose bit is set are counted, whatever the count starts from. -/
theorem cpopNatRec_eq_countP {width : Nat} (word : BitVec width) (places count : Nat) :
    word.cpopNatRec places count = count + (List.range places).countP word.getLsbD := by
  induction places generalizing count with
  | zero => rfl
  | succ place ih =>
      rw [BitVec.cpopNatRec_succ, ih, List.range_succ, List.countP_append]
      cases hbit : word.getLsbD place <;> simp [hbit]
      omega

theorem size_eq_length_toList (keys : KeySet) : keys.size = keys.toList.length := by
  calc keys.size = (List.range 9).countP keys.bits.getLsbD := by
        rw [size, BitVec.toNat_cpop, cpopNatRec_eq_countP, Nat.zero_add]
    _ = FunctionKey.all.countP keys.contains := by
        rw [← FunctionKey.map_rank_all, List.countP_map]
        rfl
    _ = keys.toList.length := List.countP_eq_length_filter

theorem setWidth_insert (keys : KeySet) (key : FunctionKey) :
    (keys.insert key).bits.setWidth 16 = keys.bits.setWidth 16 ||| 1#16 <<< (key.rank : Nat) := by
  have hbit : (BitVec.twoPow 9 key.rank).setWidth 16 = 1#16 <<< (key.rank : Nat) := by
    cases key <;> rfl
  rw [insert, BitVec.setWidth_or, hbit]

/-- No key sets a bit behind the ninth, so that a wider word has nothing else in it. -/
theorem setWidth_ofList (keys : List FunctionKey) :
    (ofList keys).bits.setWidth 16 = wideWord keys :=
  (List.foldl_hom (fun set : KeySet => set.bits.setWidth 16) fun set key =>
    (setWidth_insert set key).symm).symm

end Words

section Lists

variable {keys others : List FunctionKey} {letters : List Char}

theorem ofList_eq_iff : ofList keys = ofList others ↔ ∀ key, key ∈ keys ↔ key ∈ others := by
  simp [eq_iff_contains]

theorem isEmpty_iff {set : KeySet} : set.isEmpty ↔ set = empty := by
  cases set
  simp [isEmpty, empty]

theorem isEmpty_ofList : (ofList keys).isEmpty ↔ keys = [] := by
  rw [isEmpty_iff, eq_iff_contains, List.eq_nil_iff_forall_not_mem]
  simp

theorem areLettersOf_ofList (keys : List FunctionKey) : AreLettersOf (ofList keys).letters keys where
  ascending := FunctionKey.pairwise_letter_all.sublist (List.filter_sublist.map _)
  mem_iff c := by simp [KeySet.letters]

/-- There is one way only to list them. -/
theorem AreLettersOf.eq_letters (h : AreLettersOf letters keys) : letters = (ofList keys).letters :=
  have hset := areLettersOf_ofList keys
  h.ascending.eq_of_mem_iff hset.ascending fun c => (h.mem_iff c).trans (hset.mem_iff c).symm

theorem areLettersOf_iff : AreLettersOf letters keys ↔ letters = (ofList keys).letters := by
  refine ⟨AreLettersOf.eq_letters, ?_⟩
  rintro rfl
  exact areLettersOf_ofList keys

theorem display_eq (set : KeySet) : set.display = "[" ++ String.ofList set.letters ++ "]" := by
  rw [← String.toList_inj]
  simp [display]

theorem toJson_eq (set : KeySet) : set.toJson = .strings (set.letters.map Char.toString) := by
  simp [toJson, Json.strings, letters, FunctionKey.toJson]

end Lists

/-- A set that is collected from a list of keys has the keys of the list as its members.  What it
shows as letters, as text and as JSON is the one list that has the letters of these keys, each once
and in ascending order, and it counts as many.  It is empty only if the list is, and equal to the
set of another list exactly if the same keys occur in both, whatever their order and number.  In a
wider word no other bits than those of the set are set. -/
theorem ofList_faithful (keys : List FunctionKey) :
    (∀ key, (ofList keys).contains key ↔ key ∈ keys) ∧
    (∃ letters, (∀ list, AreLettersOf list keys ↔ list = letters) ∧
      (ofList keys).letters = letters ∧
      (ofList keys).display = "[" ++ String.ofList letters ++ "]" ∧
      (ofList keys).toJson = .strings (letters.map Char.toString) ∧
      (ofList keys).size = letters.length) ∧
    ((ofList keys).isEmpty ↔ keys = []) ∧
    (∀ others, ofList keys = ofList others ↔ ∀ key, key ∈ keys ↔ key ∈ others) ∧
    (ofList keys).bits.setWidth 16 = wideWord keys := by
  have hsize : (ofList keys).size = (ofList keys).letters.length := by
    rw [size_eq_length_toList, letters, List.length_map]
  refine ⟨fun key => ?_, ⟨(ofList keys).letters, fun _ => areLettersOf_iff, rfl, display_eq _,
    toJson_eq _, hsize⟩, isEmpty_ofList, fun _ => ofList_eq_iff, setWidth_ofList keys⟩
  rw [contains_ofList, decide_eq_true_iff]

example : (ofList [.g, .a, .d, .a]).display = "[ADG]" := by decide

end KeySet

end TellerTerminal
