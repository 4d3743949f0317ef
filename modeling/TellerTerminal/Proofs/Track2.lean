import TellerTerminal.Card
import TellerTerminal.Proofs.AsciiText
import TellerTerminal.Proofs.Splitting
import TellerTerminal.Proofs.Success

/-!
# The grammar of track 2

A track is either in the grammar, and then its parts are determined, or it has a first fault, found
from the outside to the inside: the sentinels, the separator between them, the number before it and
the tail behind it.  `isTrack_or_fault` says that there is no third possibility, and reading a track
of either sort is computed from its parts.

The number and the tail are checked for digits byte by byte, which is the same as character by
character.  Once the tail has passed, the place of the service code lies within it and between
characters.
-/

namespace TellerTerminal.Card

/-- At least one digit, and nothing else. -/
def IsPan (pan : String) : Prop :=
  pan ≠ "" ∧ ∀ c ∈ pan.toList, c.isDigit

/-- At least the seven digits of the expiry and the service code, and nothing else. -/
def IsTail (tail : String) : Prop :=
  7 ≤ tail.toList.length ∧ ∀ c ∈ tail.toList, c.isDigit

instance : DecidablePred IsPan := fun pan =>
  decidable_of_iff (pan ≠ "" ∧ pan.toList.all Char.isDigit) (by simp [IsPan])

instance : DecidablePred IsTail := fun tail =>
  decidable_of_iff (7 ≤ tail.toList.length ∧ tail.toList.all Char.isDigit) (by simp [IsTail])

/-- The track holds the number and the tail, with the sentinels and the separator around them. -/
structure IsTrack (track pan tail : String) : Prop where
  track_eq : track = ";" ++ pan ++ "=" ++ tail ++ "?"
  isPan : IsPan pan
  isTail : IsTail tail

/-- The three characters of a tail that follow the four of the expiry. -/
def serviceCodeOf (tail : String) : String :=
  String.ofList ((tail.toList.drop 4).take 3)

/-- What is wrong with a track, where each fault presupposes that the ones before it are absent. -/
inductive FirstFault (track : String) : Track2Error → Prop
  | missingStartSentinel (h : ¬ ∃ inner, track = ";" ++ inner) :
      FirstFault track .missingStartSentinel
  | missingEndSentinel {inner : String} (htrack : track = ";" ++ inner)
      (h : ¬ ∃ body, inner = body ++ "?") : FirstFault track .missingEndSentinel
  | separator {body : String} (htrack : track = ";" ++ body ++ "?")
      (h : body.toList.count '=' ≠ 1) : FirstFault track .separator
  | invalidPan {pan tail : String} (htrack : track = ";" ++ pan ++ "=" ++ tail ++ "?")
      (hpan : '=' ∉ pan.toList) (htail : '=' ∉ tail.toList) (h : ¬ IsPan pan) :
      FirstFault track .invalidPan
  | invalidTail {pan tail : String} (htrack : track = ";" ++ pan ++ "=" ++ tail ++ "?")
      (hpan : IsPan pan) (htail : '=' ∉ tail.toList) (h : ¬ IsTail tail) :
      FirstFault track .invalidTail

section Checks

variable {pan tail text : String}

theorem separator_notMem_of_digits (h : ∀ c ∈ text.toList, c.isDigit) : '=' ∉ text.toList :=
  fun hmem => absurd (h _ hmem) (by decide)

theorem isPan_iff_bytes : IsPan pan ↔
    pan ≠ "" ∧ ∀ byte ∈ pan.toByteArray.data, 48 ≤ byte ∧ byte ≤ 57 := by
  rw [IsPan, forall_isDigit_iff_bytes]

/-- More bytes than characters do not help a tail, because then some byte is not a digit. -/
theorem isTail_iff_bytes : IsTail tail ↔
    7 ≤ tail.utf8ByteSize ∧ ∀ byte ∈ tail.toByteArray.data, 48 ≤ byte ∧ byte ≤ 57 := by
  rw [IsTail, ← forall_isDigit_iff_bytes]
  refine and_congr_left fun hdigits => ?_
  rw [utf8ByteSize_of_ascii fun c hc => ascii_of_isDigit (hdigits c hc)]

/-- Bytes four to six of a tail that passes its check are three characters. -/
theorem IsTail.slice (h : IsTail tail) :
    (String.Pos.Raw.mk 4).IsValid tail ∧ (String.Pos.Raw.mk 7).IsValid tail ∧
      (serviceCodeOf tail).toByteArray = tail.toByteArray.extract 4 7 := by
  have hascii : ∀ c ∈ tail.toList, c.val < 128 := fun c hc => ascii_of_isDigit (h.2 c hc)
  exact ⟨isValid_of_ascii hascii (by have := h.1; omega), isValid_of_ascii hascii h.1,
    toByteArray_part_of_ascii hascii 4 3⟩

theorem splitBody_of_count (h : text.toList.count '=' ≠ 1) :
    splitBody text.toList = .error .separator := by
  unfold splitBody
  split
  next pan tail hsplit => exact absurd (exists_splitOn_eq_pair_iff.mp ⟨pan, tail, hsplit⟩) h
  next => rfl

/-- A body with one separator is judged by the two parts. -/
theorem splitBody_of_parts (hpan : '=' ∉ pan.toList) (htail : '=' ∉ tail.toList) :
    splitBody (pan ++ "=" ++ tail).toList =
      if IsPan pan then
        if IsTail tail then .ok (pan.toList, tail.toList) else .error .invalidTail
      else .error .invalidPan := by
  have hsplit : (pan ++ "=" ++ tail).toList.splitOn '=' = [pan.toList, tail.toList] :=
    splitOn_eq_pair_iff.mpr ⟨by simp, hpan, htail⟩
  have hpanCheck : (pan.toList.isEmpty || !pan.toList.all Char.isDigit) = true ↔ ¬ IsPan pan := by
    simp [IsPan, Classical.or_iff_not_imp_left]
  have htailCheck : (tail.toList.length < 7 || !tail.toList.all Char.isDigit) = true ↔
      ¬ IsTail tail := by
    simp [IsTail, Classical.or_iff_not_imp_left]
  simp only [splitBody, hsplit, hpanCheck, htailCheck, ite_not]

/-- A body with exactly one separator is a text before it and a text behind it. -/
theorem exists_parts_of_count (h : text.toList.count '=' = 1) :
    ∃ pan tail : String, text = pan ++ "=" ++ tail ∧ '=' ∉ pan.toList ∧ '=' ∉ tail.toList := by
  obtain ⟨pan, tail, hsplit⟩ := exists_splitOn_eq_pair_iff.mpr h
  obtain ⟨htext, hpan, htail⟩ := splitOn_eq_pair_iff.mp hsplit
  refine ⟨.ofList pan, .ofList tail, ?_, by simpa using hpan, by simpa using htail⟩
  rw [← String.toList_inj, htext]
  simp

end Checks

section Reading

variable {track pan tail inner body : String} {error : Track2Error}

theorem ofTrack2_of_start : ofTrack2 (";" ++ inner) =
    if inner.toList.getLast? = some '?' then
      (splitBody inner.toList.dropLast).map fun (pan, tail) =>
        { number := String.ofList pan
          serviceCode := String.ofList ((tail.drop 4).take 3)
          track2 := ";" ++ inner }
    else .error .missingEndSentinel := by
  simp [ofTrack2]

/-- Between the sentinels stands the body. -/
theorem ofTrack2_of_body : ofTrack2 (";" ++ body ++ "?") =
    (splitBody body.toList).map fun (pan, tail) =>
      { number := String.ofList pan
        serviceCode := String.ofList ((tail.drop 4).take 3)
        track2 := ";" ++ body ++ "?" } := by
  rw [String.append_assoc, ofTrack2_of_start]
  simp

theorem ofTrack2_of_parts (htrack : track = ";" ++ pan ++ "=" ++ tail ++ "?")
    (hpan : '=' ∉ pan.toList) (htail : '=' ∉ tail.toList) : ofTrack2 track =
      if IsPan pan then
        if IsTail tail then
          .ok { number := pan, serviceCode := serviceCodeOf tail, track2 := track }
        else .error .invalidTail
      else .error .invalidPan := by
  have hbody : track = ";" ++ (pan ++ "=" ++ tail) ++ "?" := by
    simp only [htrack, String.append_assoc]
  rw [hbody, ofTrack2_of_body, splitBody_of_parts hpan htail]
  split_ifs <;> simp [Except.map, serviceCodeOf]

theorem ofTrack2_of_isTrack (h : IsTrack track pan tail) : ofTrack2 track =
    .ok { number := pan, serviceCode := serviceCodeOf tail, track2 := track } := by
  rw [ofTrack2_of_parts h.track_eq (separator_notMem_of_digits h.isPan.2)
    (separator_notMem_of_digits h.isTail.2), if_pos h.isPan, if_pos h.isTail]

theorem FirstFault.ofTrack2_eq (h : FirstFault track error) : ofTrack2 track = .error error := by
  cases h with
  | missingStartSentinel h =>
      unfold ofTrack2
      split
      next inner htrack =>
        exact absurd ⟨String.ofList inner, by rw [← String.toList_inj, htrack]; simp⟩ h
      next => rfl
  | @missingEndSentinel inner htrack h =>
      have hlast : inner.toList.getLast? ≠ some '?' := fun hlast =>
        h ⟨String.ofList inner.toList.dropLast, by
          rw [← String.toList_inj, ← List.dropLast_append_getLast? _ hlast]
          simp⟩
      rw [htrack, ofTrack2_of_start, if_neg hlast]
  | separator htrack h => rw [htrack, ofTrack2_of_body, splitBody_of_count h]; rfl
  | invalidPan htrack hpan htail h => rw [ofTrack2_of_parts htrack hpan htail, if_neg h]
  | invalidTail htrack hpan htail h =>
      rw [ofTrack2_of_parts htrack (separator_notMem_of_digits hpan.2) htail, if_pos hpan, if_neg h]

/-- A track without a fault is in the grammar. -/
theorem isTrack_or_fault (track : String) :
    (∃ pan tail, IsTrack track pan tail) ∨ ∃ error, FirstFault track error := by
  -- A check that fails gives the first fault, since the checks before it have been passed.
  by_cases hstart : ∃ inner, track = ";" ++ inner
  swap
  · exact .inr ⟨_, .missingStartSentinel hstart⟩
  obtain ⟨inner, hinner⟩ := hstart
  by_cases hend : ∃ body, inner = body ++ "?"
  swap
  · exact .inr ⟨_, .missingEndSentinel hinner hend⟩
  obtain ⟨body, rfl⟩ := hend
  rw [← String.append_assoc] at hinner
  by_cases hcount : body.toList.count '=' = 1
  swap
  · exact .inr ⟨_, .separator hinner hcount⟩
  obtain ⟨pan, tail, rfl, hpan, htail⟩ := exists_parts_of_count hcount
  have htrack : track = ";" ++ pan ++ "=" ++ tail ++ "?" := by
    rw [hinner]
    simp only [String.append_assoc]
  by_cases hpanDigits : IsPan pan
  swap
  · exact .inr ⟨_, .invalidPan htrack hpan htail hpanDigits⟩
  by_cases htailDigits : IsTail tail
  swap
  · exact .inr ⟨_, .invalidTail htrack hpanDigits htail htailDigits⟩
  exact .inl ⟨pan, tail, htrack, hpanDigits, htailDigits⟩

theorem ofTrack2_eq_ok_iff {card : Card} : ofTrack2 track = .ok card ↔
    ∃ pan tail, IsTrack track pan tail ∧
      card = { number := pan, serviceCode := serviceCodeOf tail, track2 := track } := by
  constructor
  · intro hread
    rcases isTrack_or_fault track with ⟨pan, tail, h⟩ | ⟨error, hfault⟩
    · exact ⟨pan, tail, h, Except.ok.inj (hread.symm.trans (ofTrack2_of_isTrack h))⟩
    · rw [hfault.ofTrack2_eq] at hread
      contradiction
  · rintro ⟨pan, tail, h, rfl⟩
    exact ofTrack2_of_isTrack h

theorem ofTrack2_eq_error_iff : ofTrack2 track = .error error ↔ FirstFault track error := by
  constructor
  · intro hread
    rcases isTrack_or_fault track with ⟨pan, tail, h⟩ | ⟨other, hfault⟩
    · rw [ofTrack2_of_isTrack h] at hread
      contradiction
    · obtain rfl := Except.error.inj (hfault.ofTrack2_eq.symm.trans hread)
      exact hfault
  · exact FirstFault.ofTrack2_eq

end Reading

/-- A track is accepted exactly if it is in the grammar, and then the card has the number, the
service code of the tail and the track itself; any other track is rejected with its first fault.
The checks of the number and the tail may be made on bytes, and a tail that has passed them can be
cut at the bytes of the service code. -/
theorem ofTrack2_accepts_grammar :
    (∀ track card, ofTrack2 track = .ok card ↔
      ∃ pan tail, IsTrack track pan tail ∧
        card = { number := pan, serviceCode := serviceCodeOf tail, track2 := track }) ∧
      (∀ track error, ofTrack2 track = .error error ↔ FirstFault track error) ∧
      (∀ pan : String, IsPan pan ↔
        pan ≠ "" ∧ ∀ byte ∈ pan.toByteArray.data, 48 ≤ byte ∧ byte ≤ 57) ∧
      (∀ tail : String, IsTail tail ↔
        7 ≤ tail.utf8ByteSize ∧ ∀ byte ∈ tail.toByteArray.data, 48 ≤ byte ∧ byte ≤ 57) ∧
      ∀ tail : String, IsTail tail →
        (String.Pos.Raw.mk 4).IsValid tail ∧ (String.Pos.Raw.mk 7).IsValid tail ∧
          (serviceCodeOf tail).toByteArray = tail.toByteArray.extract 4 7 :=
  ⟨fun _ _ => ofTrack2_eq_ok_iff, fun _ _ => ofTrack2_eq_error_iff, fun _ => isPan_iff_bytes,
    fun _ => isTail_iff_bytes, fun _ => IsTail.slice⟩

/-- Seven digits are enough of a tail.  Three full-width digits are not, although they are nine
bytes. -/
theorem ofTrack2_shortTails :
    let track := ";4575270595153145=2001221?"
    ofTrack2 track =
        .ok { number := "4575270595153145", serviceCode := "221", track2 := track } ∧
      (String.Pos.Raw.mk 4).IsValid "2001221" ∧ (String.Pos.Raw.mk 7).IsValid "2001221" ∧
      ofTrack2 ";4575=１２３?" = .error .invalidTail ∧ ¬ IsTail "１２３" ∧
      7 ≤ "１２３".utf8ByteSize := by
  intro track
  obtain ⟨hok, herror, -, -, hslice⟩ := ofTrack2_accepts_grammar
  have htail : IsTail "2001221" := by decide
  have hwide : ¬ IsTail "１２３" := by decide
  have htrack : ";4575=１２３?" = ";" ++ "4575" ++ "=" ++ "１２３" ++ "?" := rfl
  refine ⟨(hok _ _).mpr ⟨"4575270595153145", "2001221", ⟨rfl, by decide, htail⟩, rfl⟩,
    (hslice _ htail).1, (hslice _ htail).2.1, (herror _ _).mpr ?_, hwide, by decide⟩
  exact .invalidTail htrack (by decide) (by decide) hwide

end TellerTerminal.Card
