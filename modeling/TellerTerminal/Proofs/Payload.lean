import Mathlib.Data.List.DropRight
import TellerTerminal.Proofs.Splitting
import TellerTerminal.State.Payload

/-!
# Pieces of a payload

A piece that was cut out of a payload is not empty, holds no separator and ends no line, and these
are the texts that cutting gives back alone.  Records that have been cut out once may therefore be
stored and read again as payloads of their own.  Cutting commutes with joining: a separator between
two payloads is one more place to cut at.
-/

namespace TellerTerminal.Payload

/-- The last character, if there is one, is neither a carriage return nor a line feed. -/
def EndsNoLine (text : String) : Prop :=
  text.toList.getLast? ≠ some '\r' ∧ text.toList.getLast? ≠ some '\n'

/-- A text that is left whole when it is cut. -/
structure IsPiece (text : String) : Prop where
  ne_empty : text ≠ ""
  separator_notMem : '\x1c' ∉ text.toList
  endsNoLine : EndsNoLine text

theorem endsNoLine_iff {text : String} :
    EndsNoLine text ↔ ∀ c, text.toList.getLast? = some c → ¬ isLineEnd c := by
  constructor
  · rintro ⟨hreturn, hfeed⟩ c hc hend
    rcases (by simpa [isLineEnd] using hend : c = '\r' ∨ c = '\n') with rfl | rfl
    · exact hreturn hc
    · exact hfeed hc
  · exact fun h => ⟨fun hreturn => h _ hreturn rfl, fun hfeed => h _ hfeed rfl⟩

/-- Only line ends are taken away, and all of those at the end. -/
theorem trimLineEnds_eq_iff {part piece : List Char} :
    trimLineEnds part = piece ↔
      (∃ lineEnds, part = piece ++ lineEnds ∧ ∀ c ∈ lineEnds, isLineEnd c) ∧
        ∀ c, piece.getLast? = some c → ¬ isLineEnd c := by
  constructor
  · rintro rfl
    refine ⟨⟨part.rtakeWhile isLineEnd, List.rdropWhile_append_rtakeWhile.symm,
      fun c => List.mem_rtakeWhile_imp⟩, fun c hc => ?_⟩
    obtain ⟨hne, rfl⟩ := List.mem_getLast?_eq_getLast hc
    exact List.rdropWhile_last_not isLineEnd part hne
  · rintro ⟨⟨lineEnds, rfl, hends⟩, hlast⟩
    have hpiece : trimLineEnds piece = piece :=
      List.rdropWhile_eq_self_iff.mpr fun hne => hlast _ (List.getLast?_eq_some_getLast hne)
    rw [trimLineEnds, List.reverse_append, List.dropWhile_append_of_pos (by simpa using hends)]
    exact hpiece

theorem mem_of_mem_trimLineEnds {part : List Char} {c : Char} (hc : c ∈ trimLineEnds part) :
    c ∈ part :=
  (List.rdropWhile_prefix isLineEnd (l := part)).subset hc

theorem mem_pieces_iff {payload piece : List Char} :
    piece ∈ pieces payload ↔
      piece ≠ [] ∧ ∃ part ∈ payload.splitOn separator, trimLineEnds part = piece := by
  simp [pieces, and_comm]

/-- A record has its characters from the payload. -/
theorem mem_of_mem_records {payload record : String} {c : Char} (hrecord : record ∈ records payload)
    (hc : c ∈ record.toList) : c ∈ payload.toList := by
  obtain ⟨piece, hpiece, rfl⟩ := List.mem_map.mp hrecord
  obtain ⟨-, part, hpart, rfl⟩ := mem_pieces_iff.mp hpiece
  rw [String.toList_ofList] at hc
  exact mem_of_mem_splitOn hpart (mem_of_mem_trimLineEnds hc)

theorem isPiece_of_mem {payload record : String} (hrecord : record ∈ records payload) :
    IsPiece record := by
  obtain ⟨piece, hpiece, rfl⟩ := List.mem_map.mp hrecord
  obtain ⟨hne, part, hpart, htrim⟩ := mem_pieces_iff.mp hpiece
  refine ⟨by simpa using hne, ?_, endsNoLine_iff.mpr ?_⟩
  · rw [String.toList_ofList, ← htrim]
    exact fun hmem => separator_notMem_of_mem_splitOn hpart (mem_of_mem_trimLineEnds hmem)
  · rw [String.toList_ofList]
    exact (trimLineEnds_eq_iff.mp htrim).2

/-- A piece cannot be cut any further, and nothing else is left whole. -/
theorem records_eq_singleton_iff {text : String} : records text = [text] ↔ IsPiece text := by
  constructor
  · intro h
    exact isPiece_of_mem (h ▸ List.mem_singleton_self text)
  · rintro ⟨hne, hseparator, hend⟩
    have htrim : trimLineEnds text.toList = text.toList :=
      trimLineEnds_eq_iff.mpr ⟨⟨[], by simp⟩, endsNoLine_iff.mp hend⟩
    simp [records, pieces, List.splitOn_eq_singleton (a := separator) hseparator, htrim, hne]

/-- A separator between two payloads cuts them apart, whatever they hold. -/
theorem pieces_append_cons (first rest : List Char) :
    pieces (first ++ separator :: rest) = pieces first ++ pieces rest := by
  simp [pieces, List.splitOn_append_cons_self]

theorem records_append_separator (first second : String) :
    records (first ++ "\x1c" ++ second) = records first ++ records second := by
  have hpieces := pieces_append_cons first.toList second.toList
  simp only [records, String.toList_append, List.append_assoc, ← List.map_append, ← hpieces]
  rfl

theorem pieces_intercalate (payloads : List (List Char)) :
    pieces ([separator].intercalate payloads) = payloads.flatMap pieces := by
  induction payloads with
  | nil => rfl
  | cons payload rest ih =>
      cases rest with
      | nil => simp
      | cons next others =>
          rw [List.intercalate_cons_cons, List.append_assoc, List.singleton_append,
            pieces_append_cons, ih]
          rfl

/-- The payloads as one, with a separator between each two of them. -/
def joined (payloads : List String) : String :=
  (String.ofList [separator]).intercalate payloads

/-- The records of payloads that are joined are those of the payloads one after another. -/
theorem records_joined (payloads : List String) :
    records (joined payloads) = payloads.flatMap records := by
  rw [records, joined, String.toList_intercalate, String.toList_ofList, pieces_intercalate,
    List.flatMap_map, List.map_flatMap]
  rfl

/-- Pieces are their own records, one after another, and no other texts are. -/
theorem flatMap_records_eq_self_iff {texts : List String} :
    texts.flatMap records = texts ↔ ∀ text ∈ texts, IsPiece text := by
  constructor
  · intro h text htext
    rw [← h] at htext
    obtain ⟨payload, -, hmem⟩ := List.mem_flatMap.mp htext
    exact isPiece_of_mem hmem
  · intro h
    rw [List.flatMap_congr fun text htext => records_eq_singleton_iff.mpr (h text htext),
      List.flatMap_singleton']

/-- The records of some payloads, taken as payloads, have themselves as their records. -/
theorem flatMap_records_flatMap_records (payloads : List String) :
    (payloads.flatMap records).flatMap records = payloads.flatMap records := by
  refine flatMap_records_eq_self_iff.mpr fun record hrecord => ?_
  obtain ⟨payload, -, hmem⟩ := List.mem_flatMap.mp hrecord
  exact isPiece_of_mem hmem

end TellerTerminal.Payload
