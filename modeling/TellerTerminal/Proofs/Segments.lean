import Mathlib.Data.List.Forall2
import TellerTerminal.Proofs.Payload

/-!
# The segments of a payload

The separators divide a payload into segments, some of which may be empty.  The records are the
segments in order, each without the line ends behind it, and without those of which nothing is left.
This accounts for every character of the payload: it stands in a record, is a separator, or belongs
to the line ends behind a segment.  What comes out cannot be divided again, so that the records are
a normal form of the payload.
-/

namespace TellerTerminal.Payload

/-- The segments have a separator between each two of them and nowhere else, and characters that
stand together with no separator among them are never divided. -/
structure IsDividedInto (payload : String) (segments : List String) : Prop where
  intercalate_eq : "\x1c".intercalate segments = payload
  separator_notMem : ∀ segment ∈ segments, '\x1c' ∉ segment.toList
  maximal : ∀ run, run <:+: payload.toList → '\x1c' ∉ run →
    ∃ segment ∈ segments, run <:+: segment.toList

/-- The segment is the text and then line ends, which are all of those that it ends in. -/
def IsTrimmedTo (segment text : String) : Prop :=
  (∃ lineEnds, segment.toList = text.toList ++ lineEnds ∧ ∀ c ∈ lineEnds, c = '\r' ∨ c = '\n') ∧
    EndsNoLine text

/-- The segments as they are computed, which are the only ones that there are. -/
def segments (payload : String) : List String :=
  (payload.toList.splitOn separator).map String.ofList

def trimmed (segment : String) : String :=
  String.ofList (trimLineEnds segment.toList)

theorem records_eq_filter (payload : String) :
    records payload = ((segments payload).map trimmed).filter (· ≠ "") := by
  have hempty : ∀ piece : List Char, (!piece.isEmpty) = decide (String.ofList piece ≠ "") := by
    intro piece
    cases piece <;> simp
  simp [records, pieces, segments, trimmed, List.filter_map, Function.comp_def, hempty]

variable {payload segment text : String} {parts : List String}

theorem toList_segments (payload : String) :
    (segments payload).map String.toList = payload.toList.splitOn separator := by
  simp [segments, Function.comp_def]

theorem isDividedInto_segments (payload : String) : IsDividedInto payload (segments payload) where
  intercalate_eq := by
    rw [← String.toList_inj, String.toList_intercalate, toList_segments]
    exact List.intercalate_splitOn separator
  separator_notMem := by
    intro segment hsegment
    obtain ⟨part, hpart, rfl⟩ := List.mem_map.mp hsegment
    rw [String.toList_ofList]
    exact separator_notMem_of_mem_splitOn hpart
  maximal := by
    intro run hwithin hrun
    obtain ⟨part, hpart, hpartial⟩ := exists_mem_splitOn_of_infix hwithin hrun
    exact ⟨String.ofList part, List.mem_map_of_mem hpart, by simpa using hpartial⟩

theorem IsDividedInto.eq_segments (h : IsDividedInto payload parts) : parts = segments payload := by
  -- The empty run lies in a segment, so that there is one.
  obtain ⟨first, hfirst, -⟩ := h.maximal [] List.nil_infix List.not_mem_nil
  have hsplit : payload.toList.splitOn separator = parts.map String.toList := by
    refine splitOn_eq_iff.mpr ⟨?_, ?_, ?_⟩
    · rw [← h.intercalate_eq, String.toList_intercalate]
      rfl
    · exact List.ne_nil_of_mem (List.mem_map_of_mem hfirst)
    · exact List.forall_mem_map.mpr h.separator_notMem
  rw [segments, hsplit, List.map_map]
  simp [Function.comp_def]

theorem isDividedInto_iff : IsDividedInto payload parts ↔ parts = segments payload := by
  refine ⟨IsDividedInto.eq_segments, ?_⟩
  rintro rfl
  exact isDividedInto_segments payload

theorem isTrimmedTo_iff : IsTrimmedTo segment text ↔ trimmed segment = text := by
  rw [trimmed, ← String.toList_inj, String.toList_ofList, trimLineEnds_eq_iff, IsTrimmedTo,
    endsNoLine_iff]
  simp [isLineEnd]

theorem forall₂_isTrimmedTo_iff {texts : List String} :
    List.Forall₂ IsTrimmedTo parts texts ↔ parts.map trimmed = texts := by
  have hrelation : IsTrimmedTo = fun segment text => trimmed segment = text := by
    funext segment text
    exact propext isTrimmedTo_iff
  rw [hrelation, ← List.forall₂_map_left_iff, List.forall₂_eq_eq_eq]

theorem records_eq_iff {result : List String} : records payload = result ↔
    ∃ parts texts, IsDividedInto payload parts ∧ List.Forall₂ IsTrimmedTo parts texts ∧
      texts.filter (· ≠ "") = result := by
  rw [records_eq_filter]
  constructor
  · rintro rfl
    exact ⟨_, _, isDividedInto_segments payload, forall₂_isTrimmedTo_iff.mpr rfl, rfl⟩
  · rintro ⟨parts, texts, hparts, htexts, rfl⟩
    rw [← hparts.eq_segments, forall₂_isTrimmedTo_iff.mp htexts]

/-- Records are not empty, hold no separator and end no line, so that each of them has no record but
itself, and joined again they are the records that they were.  A separator between two texts stands
between their records.  The records are what the segments of the payload leave when each is trimmed
and the empty ones are passed over: no other characters are lost, and the order stays. -/
theorem records_normal_form :
    (∀ payload, ∀ record ∈ records payload, IsPiece record ∧ records record = [record]) ∧
    (∀ payload, records ("\x1c".intercalate (records payload)) = records payload) ∧
    (∀ first second, records (first ++ "\x1c" ++ second) = records first ++ records second) ∧
    ∀ payload result, records payload = result ↔
      ∃ parts texts, IsDividedInto payload parts ∧ List.Forall₂ IsTrimmedTo parts texts ∧
        texts.filter (· ≠ "") = result := by
  refine ⟨fun payload record hrecord => ?_, fun payload => ?_, records_append_separator,
    fun _ _ => records_eq_iff⟩
  · have hpiece : IsPiece record := isPiece_of_mem hrecord
    exact ⟨hpiece, records_eq_singleton_iff.mpr hpiece⟩
  · have hpieces : (records payload).flatMap records = records payload :=
      flatMap_records_eq_self_iff.mpr fun _ => isPiece_of_mem
    exact (records_joined (records payload)).trans hpieces

/-- Separators at both ends and side by side, a segment of nothing but a line end, and line ends of
several kinds behind a record and within one, which also ends in a space. -/
def raggedPayload : String := "\x1cA\r\n\r\x1c\n\x1c\x1cB\rC \n\x1c"

/-- The six segments of the ragged payload and the two records that they leave. -/
theorem records_normal_form_raggedPayload :
    let parts := ["", "A\r\n\r", "\n", "", "B\rC \n", ""]
    IsDividedInto raggedPayload parts ∧
      List.Forall₂ IsTrimmedTo parts ["", "A", "", "", "B\rC ", ""] ∧
      records raggedPayload = ["A", "B\rC "] ∧
      "B\rC " ∈ records raggedPayload ∧ IsPiece "B\rC " ∧ records "B\rC " = ["B\rC "] ∧
      records "A\x1cB\rC " = ["A", "B\rC "] ∧
      records (raggedPayload ++ "\x1c" ++ "\rD\n") = ["A", "B\rC ", "\rD"] := by
  intro parts
  obtain ⟨hpiece, hjoined, happend, hsegments⟩ := records_normal_form
  have hdivided : IsDividedInto raggedPayload parts := isDividedInto_iff.mpr (by decide)
  have htrimmed : List.Forall₂ IsTrimmedTo parts ["", "A", "", "", "B\rC ", ""] :=
    forall₂_isTrimmedTo_iff.mpr (by decide)
  have hrecords : records raggedPayload = ["A", "B\rC "] :=
    (hsegments _ _).mpr ⟨_, _, hdivided, htrimmed, by decide⟩
  have hmem : "B\rC " ∈ records raggedPayload := by simp [hrecords]
  have hlast : records "\rD\n" = ["\rD"] := by decide
  have hagain := hjoined raggedPayload
  rw [hrecords] at hagain
  refine ⟨hdivided, htrimmed, hrecords, hmem, (hpiece _ _ hmem).1, (hpiece _ _ hmem).2, hagain, ?_⟩
  rw [happend, hrecords, hlast]
  rfl

end TellerTerminal.Payload
