import Mathlib.Data.List.DropRight
import TellerTerminal.Proofs.Track2

/-!
# What a masked number shows

The number of a card that was read from a track consists of digits, so that a place in it is the
same in bytes and in characters.  Masked, it shows its length, and of more than ten digits the two
ends.  Nothing else is shown: the masked numbers of two cards are equal as soon as the numbers agree
in this much.
-/

namespace TellerTerminal.Card

/-- The first six and the last four places of a number of this length. -/
def IsEnd (length place : Nat) : Prop :=
  place < 6 ∨ length ≤ place + 4

instance (length place : Nat) : Decidable (IsEnd length place) :=
  inferInstanceAs (Decidable (_ ∨ _))

/-- The numbers are equally long and, unless they are short, have the same ends. -/
structure LookAlike (number other : String) : Prop where
  length_eq : number.toList.length = other.toList.length
  ends : number.toList.length ≤ 10 ∨
    number.toList.take 6 = other.toList.take 6 ∧ number.toList.rtake 4 = other.toList.rtake 4

/-- Lists of one length have the same ends if they agree at the places of these. -/
theorem ends_eq_iff {chars others : List Char} (hlength : chars.length = others.length) :
    (chars.take 6 = others.take 6 ∧ chars.rtake 4 = others.rtake 4) ↔
      ∀ i, IsEnd chars.length i → chars[i]? = others[i]? := by
  unfold List.rtake
  rw [← hlength]
  constructor
  · rintro ⟨hfirst, hlast⟩ i (hi | hi)
    · rw [← List.getElem?_take_of_lt hi, hfirst, List.getElem?_take_of_lt hi]
    · -- A place at the end is counted from where the last four begin.
      have hplace : chars.length - 4 + (i - (chars.length - 4)) = i := by omega
      have hsame := congrArg (fun last => last[i - (chars.length - 4)]?) hlast
      simpa only [List.getElem?_drop, hplace] using hsame
  · intro h
    constructor
    · refine List.ext_getElem? fun i => ?_
      by_cases hi : i < 6
      · rw [List.getElem?_take_of_lt hi, List.getElem?_take_of_lt hi, h i (.inl hi)]
      · have hi : 6 ≤ i := Nat.le_of_not_lt hi
        rw [List.getElem?_take_eq_none hi, List.getElem?_take_eq_none hi]
    · refine List.ext_getElem? fun i => ?_
      rw [List.getElem?_drop, List.getElem?_drop, h _ (.inr (by omega))]

/-- Among ASCII characters each byte is a place of its own. -/
theorem getElem?_starsFrom {chars : List Char} (hascii : ∀ c ∈ chars, c.val < 128)
    (size offset i : Nat) :
    (starsFrom size offset chars)[i]? = chars[i]?.map fun c =>
      if offset + i < 6 ∨ size - 4 ≤ offset + i then c else '*' := by
  induction chars generalizing offset i with
  | nil => rfl
  | cons c rest ih =>
      obtain ⟨hc, hrest⟩ := List.forall_mem_cons.mp hascii
      have hsize : c.utf8Size = 1 := Char.utf8Size_eq_one_iff.mpr (by grind)
      rw [starsFrom, hsize]
      cases i with
      | zero => rfl
      | succ i =>
          rw [List.getElem?_cons_succ, List.getElem?_cons_succ, ih hrest, Nat.add_right_comm,
            Nat.add_assoc]

section Masking

variable {card : Card} {i : Nat}

theorem maskedNumber_of_short (h : IsPan card.number) (hshort : card.number.toList.length ≤ 10) :
    card.maskedNumber = String.ofList (List.replicate card.number.toList.length '*') := by
  have hsize := utf8ByteSize_of_ascii fun c hc => ascii_of_isDigit (h.2 c hc)
  simp only [maskedNumber, hsize, if_pos hshort]

theorem getElem?_maskedNumber (h : IsPan card.number) (hlong : 10 < card.number.toList.length)
    (i : Nat) :
    card.maskedNumber.toList[i]? = card.number.toList[i]?.map fun c =>
      if IsEnd card.number.toList.length i then c else '*' := by
  have hascii : ∀ c ∈ card.number.toList, c.val < 128 := fun c hc => ascii_of_isDigit (h.2 c hc)
  have hend : (0 + i < 6 ∨ card.number.toList.length - 4 ≤ 0 + i) ↔
      IsEnd card.number.toList.length i := by
    unfold IsEnd
    omega
  simp only [maskedNumber, utf8ByteSize_of_ascii hascii, if_neg (Nat.not_le.mpr hlong),
    String.toList_ofList, getElem?_starsFrom hascii, hend]

theorem getElem?_of_isEnd (h : IsPan card.number) (hlong : 10 < card.number.toList.length)
    (hend : IsEnd card.number.toList.length i) :
    card.maskedNumber.toList[i]? = card.number.toList[i]? := by
  simp [getElem?_maskedNumber h hlong, hend]

theorem getElem?_of_not_isEnd (h : IsPan card.number) (hlong : 10 < card.number.toList.length)
    (hend : ¬ IsEnd card.number.toList.length i) : card.maskedNumber.toList[i]? = some '*' := by
  have hi : i < card.number.toList.length := by
    unfold IsEnd at hend
    omega
  simp [getElem?_maskedNumber h hlong, hend, hi]

theorem length_maskedNumber (h : IsPan card.number) :
    card.maskedNumber.toList.length = card.number.toList.length := by
  by_cases hshort : card.number.toList.length ≤ 10
  · rw [maskedNumber_of_short h hshort, String.toList_ofList, List.length_replicate]
  · -- Both have a character at the same places.
    have hplaces (i : Nat) :
        card.maskedNumber.toList.length ≤ i ↔ card.number.toList.length ≤ i := by
      rw [← List.getElem?_eq_none_iff, getElem?_maskedNumber h (Nat.lt_of_not_le hshort),
        Option.map_eq_none_iff, List.getElem?_eq_none_iff]
    exact Nat.le_antisymm ((hplaces _).mpr (Nat.le_refl _)) ((hplaces _).mp (Nat.le_refl _))

/-- No digit is a star, so that a masked place differs from that of the number. -/
theorem getElem?_eq_iff_isEnd (h : IsPan card.number) (hlong : 10 < card.number.toList.length) :
    card.maskedNumber.toList[i]? = card.number.toList[i]? ↔
      IsEnd card.number.toList.length i := by
  refine ⟨fun hshown => ?_, getElem?_of_isEnd h hlong⟩
  by_contra hend
  rw [getElem?_of_not_isEnd h hlong hend] at hshown
  exact absurd (h.2 '*' (List.mem_of_getElem? hshown.symm)) (by decide)

end Masking

/-- The masked numbers tell two cards apart exactly if their numbers do not look alike. -/
theorem maskedNumber_eq_iff {card other : Card} (h : IsPan card.number) (h' : IsPan other.number) :
    card.maskedNumber = other.maskedNumber ↔ LookAlike card.number other.number := by
  constructor
  · intro heq
    have hlength : card.number.toList.length = other.number.toList.length := by
      rw [← length_maskedNumber h, heq, length_maskedNumber h']
    refine ⟨hlength, Classical.or_iff_not_imp_left.mpr fun hshort => ?_⟩
    have hlong := Nat.lt_of_not_le hshort
    refine (ends_eq_iff hlength).mpr fun i hend => ?_
    rw [← getElem?_of_isEnd h hlong hend, heq, getElem?_of_isEnd h' (hlength ▸ hlong)
      (hlength ▸ hend)]
  · intro hlook
    have hlength := hlook.length_eq
    by_cases hshort : card.number.toList.length ≤ 10
    · rw [maskedNumber_of_short h hshort, maskedNumber_of_short h' (hlength ▸ hshort), hlength]
    · have hlong := Nat.lt_of_not_le hshort
      have hends := (ends_eq_iff hlength).mp (hlook.ends.resolve_left hshort)
      rw [← String.toList_inj]
      refine List.ext_getElem? fun i => ?_
      by_cases hend : IsEnd card.number.toList.length i
      · rw [getElem?_of_isEnd h hlong hend, hends i hend,
          getElem?_of_isEnd h' (hlength ▸ hlong) (hlength ▸ hend)]
      · rw [getElem?_of_not_isEnd h hlong hend,
          getElem?_of_not_isEnd h' (hlength ▸ hlong) (hlength ▸ hend)]

theorem isPan_of_ofTrack2 {track : String} {card : Card} (h : ofTrack2 track = .ok card) :
    IsPan card.number := by
  obtain ⟨pan, tail, htrack, rfl⟩ := ofTrack2_eq_ok_iff.mp h
  exact htrack.isPan

/-- The masked number of a card that was read is as long as the number.  Of at most ten digits
nothing is shown.  Of more, the first six and the last four are shown and no others, of which there
is at least one.  Two cards are therefore told apart only if their numbers differ in length or, when
they are long, at their ends. -/
theorem maskedNumber_shows_ends :
    (∀ track card, ofTrack2 track = .ok card →
      let number := card.number.toList
      let shown := card.maskedNumber.toList
      shown.length = number.length ∧
        (number.length ≤ 10 → ∀ c ∈ shown, c = '*') ∧
        (10 < number.length → '*' ∈ shown ∧
          ∀ i < number.length, (shown[i]? = number[i]? ↔ i < 6 ∨ number.length ≤ i + 4) ∧
            (shown[i]? ≠ number[i]? → shown[i]? = some '*'))) ∧
      ∀ track card track' card', ofTrack2 track = .ok card → ofTrack2 track' = .ok card' →
        (card.maskedNumber = card'.maskedNumber ↔ LookAlike card.number card'.number) := by
  constructor
  · intro track card hread number shown
    have hpan := isPan_of_ofTrack2 hread
    refine ⟨length_maskedNumber hpan, fun hshort c hc => ?_, fun hlong => ⟨?_, fun i _ => ?_⟩⟩
    · have hstars : shown = List.replicate number.length '*' := by
        rw [← String.toList_ofList (l := List.replicate _ _), ← maskedNumber_of_short hpan hshort]
      exact List.eq_of_mem_replicate (hstars ▸ hc)
    · have hmiddle : ¬ IsEnd number.length 6 := by
        unfold IsEnd
        omega
      exact List.mem_of_getElem? (getElem?_of_not_isEnd hpan hlong hmiddle)
    · have hiff := getElem?_eq_iff_isEnd (i := i) hpan hlong
      exact ⟨hiff, fun hhidden => getElem?_of_not_isEnd hpan hlong fun hend =>
        hhidden (hiff.mpr hend)⟩
  · intro track card track' card' hread hread'
    exact maskedNumber_eq_iff (isPan_of_ofTrack2 hread) (isPan_of_ofTrack2 hread')

/-- Of eleven digits one is hidden, and a card that differs in it alone looks the same.  Of ten
digits only their count is shown. -/
theorem maskedNumber_shows_ends_elevenDigits :
    let card : Card := ⟨"45752705951", "221", ";45752705951=2001221?"⟩
    let twin : Card := ⟨"45752775951", "221", ";45752775951=2001221?"⟩
    let short : Card := ⟨"4575270595", "221", ";4575270595=2001221?"⟩
    (ofTrack2 card.track2 = .ok card ∧ ofTrack2 twin.track2 = .ok twin ∧
      ofTrack2 short.track2 = .ok short) ∧
      LookAlike card.number twin.number ∧ card.maskedNumber = twin.maskedNumber ∧
      card.maskedNumber.toList[6]? = some '*' ∧
      (∀ i < 11, i ≠ 6 → card.maskedNumber.toList[i]? = card.number.toList[i]?) ∧
      ∀ c ∈ short.maskedNumber.toList, c = '*' := by
  intro card twin short
  have hreads : ofTrack2 card.track2 = .ok card ∧ ofTrack2 twin.track2 = .ok twin ∧
      ofTrack2 short.track2 = .ok short := by decide
  obtain ⟨hshows, hsame⟩ := maskedNumber_shows_ends
  have hlook : LookAlike card.number twin.number := ⟨by decide, .inr (by decide)⟩
  obtain ⟨-, -, hlong⟩ := hshows _ _ hreads.1
  obtain ⟨-, hshort, -⟩ := hshows _ _ hreads.2.2
  obtain ⟨-, hplaces⟩ := hlong (by decide)
  have hlength : card.number.toList.length = 11 := by decide
  have hhidden := (hplaces 6 (by decide)).1.not.mpr (by decide)
  refine ⟨hreads, hlook, (hsame _ _ _ _ hreads.1 hreads.2.1).mpr hlook,
    (hplaces 6 (by decide)).2 hhidden, fun i hi hne => ?_, hshort (by decide)⟩
  exact (hplaces i (by omega)).1.mpr (by omega)

end TellerTerminal.Card
