import Mathlib.Data.List.Basic

/-!
# Splitting at a character

The parts of a split hold the characters of the text except for those at which it was split.  They
are the only texts without that character that give the text when it is put between each two of
them, and characters that stand together in the text stay together.  There is one more part than
there were such characters, and so a text with exactly one is the first part, that character and the
second part.
-/

namespace TellerTerminal

variable {separator : Char}

/-- The first character of a text goes in front of the first part of the rest, unless it is a
separator. -/
theorem mem_splitOn_cons {c : Char} {rest part : List Char}
    (hpart : part ∈ (c :: rest).splitOn separator) :
    part = [] ∨ part ∈ rest.splitOn separator ∨
      c ≠ separator ∧ ∃ first ∈ rest.splitOn separator, part = c :: first := by
  rw [List.splitOn_cons_eq_if_modifyHead] at hpart
  by_cases hc : c = separator
  · rcases (by simpa [hc] using hpart : part = [] ∨ part ∈ rest.splitOn separator) with
      hempty | hrest
    · exact .inl hempty
    · exact .inr (.inl hrest)
  · obtain ⟨first, others, hsplit⟩ := List.exists_cons_of_ne_nil
      (List.splitOn_ne_nil separator rest)
    have hcases : part = c :: first ∨ part ∈ others := by
      simpa [hc, hsplit] using hpart
    rcases hcases with hfirst | hothers
    · exact .inr (.inr ⟨hc, first, by simp [hsplit], hfirst⟩)
    · exact .inr (.inl (by simp [hsplit, hothers]))

/-- No part of a split holds the separator. -/
theorem separator_notMem_of_mem_splitOn {text part : List Char}
    (hpart : part ∈ text.splitOn separator) : separator ∉ part := by
  induction text generalizing part with
  | nil =>
      rw [List.splitOn_nil, List.mem_singleton] at hpart
      simp [hpart]
  | cons c rest ih =>
      rcases mem_splitOn_cons hpart with rfl | hrest | ⟨hc, first, hfirst, rfl⟩
      · simp
      · exact ih hrest
      · simp [ih hfirst, Ne.symm hc]

theorem mem_of_mem_splitOn {text part : List Char} {c : Char}
    (hpart : part ∈ text.splitOn separator) (hc : c ∈ part) : c ∈ text := by
  induction text generalizing part with
  | nil =>
      rw [List.splitOn_nil, List.mem_singleton] at hpart
      simp [hpart] at hc
  | cons first rest ih =>
      rcases mem_splitOn_cons hpart with rfl | hrest | ⟨-, others, hothers, rfl⟩
      · simp at hc
      · exact List.mem_cons_of_mem _ (ih hrest hc)
      · rcases List.mem_cons.mp hc with rfl | hmem
        · exact List.mem_cons_self
        · exact List.mem_cons_of_mem _ (ih hothers hmem)

theorem length_splitOn (text : List Char) :
    (text.splitOn separator).length = text.count separator + 1 := by
  induction text with
  | nil => rfl
  | cons c rest ih =>
      rw [List.splitOn_cons_eq_if_modifyHead]
      by_cases hc : c = separator
      · simp [hc, ih]
      · simp [hc, ih]

/-- The parts are the texts without separator that give the text when it joins them. -/
theorem splitOn_eq_iff {text : List Char} {parts : List (List Char)} :
    text.splitOn separator = parts ↔
      [separator].intercalate parts = text ∧ parts ≠ [] ∧ ∀ part ∈ parts, separator ∉ part := by
  constructor
  · rintro rfl
    exact ⟨List.intercalate_splitOn separator, List.splitOn_ne_nil separator text,
      fun _ => separator_notMem_of_mem_splitOn⟩
  · rintro ⟨rfl, hne, hparts⟩
    exact List.splitOn_intercalate separator hparts hne

/-- A text is split in two exactly if it holds one separator, which stands between the parts. -/
theorem splitOn_eq_pair_iff {text first second : List Char} :
    text.splitOn separator = [first, second] ↔
      text = first ++ separator :: second ∧ separator ∉ first ∧ separator ∉ second := by
  rw [splitOn_eq_iff, eq_comm (b := text)]
  simp

theorem exists_splitOn_eq_pair_iff {text : List Char} :
    (∃ first second, text.splitOn separator = [first, second]) ↔ text.count separator = 1 := by
  rw [← List.length_eq_two, length_splitOn]
  omega

/-- Characters without separator go in front of the first part of what follows them. -/
theorem splitOn_append_of_notMem {run : List Char} (hrun : separator ∉ run) (rest : List Char) :
    (run ++ rest).splitOn separator = (rest.splitOn separator).modifyHead (run ++ ·) := by
  induction run with
  | nil => exact (congrFun List.modifyHead_id _).symm
  | cons c run ih =>
      have hc : c ≠ separator := (List.ne_of_not_mem_cons hrun).symm
      rw [List.cons_append, List.splitOn_cons_eq_if_modifyHead,
        ih (List.not_mem_of_not_mem_cons hrun), List.modifyHead_modifyHead]
      simp [hc, Function.comp_def]

/-- Whatever stands before a text, each part of the text closes a part of the whole. -/
theorem exists_suffix_of_mem_splitOn {text part : List Char} (before : List Char)
    (hpart : part ∈ text.splitOn separator) :
    ∃ whole ∈ (before ++ text).splitOn separator, part <:+ whole := by
  induction before with
  | nil => exact ⟨part, hpart, List.suffix_refl part⟩
  | cons c before ih =>
      obtain ⟨whole, hwhole, hsuffix⟩ := ih
      obtain ⟨first, others, hsplit⟩ := List.exists_cons_of_ne_nil
        (List.splitOn_ne_nil separator (before ++ text))
      rw [hsplit] at hwhole
      rw [List.cons_append, List.splitOn_cons_eq_if_modifyHead, hsplit]
      split
      · exact ⟨whole, List.mem_cons_of_mem _ hwhole, hsuffix⟩
      · rcases List.mem_cons.mp hwhole with rfl | hothers
        · exact ⟨c :: whole, List.mem_cons_self, hsuffix.trans (List.suffix_cons c whole)⟩
        · exact ⟨whole, List.mem_cons_of_mem _ hothers, hsuffix⟩

/-- Characters that stand together without a separator among them stay together in one part. -/
theorem exists_mem_splitOn_of_infix {run text : List Char} (hwithin : run <:+: text)
    (hrun : separator ∉ run) : ∃ part ∈ text.splitOn separator, run <:+: part := by
  obtain ⟨before, after, rfl⟩ := hwithin
  obtain ⟨first, others, hsplit⟩ := List.exists_cons_of_ne_nil
    (List.splitOn_ne_nil separator after)
  have hpart : run ++ first ∈ (run ++ after).splitOn separator := by
    simp [splitOn_append_of_notMem hrun, hsplit]
  obtain ⟨whole, hwhole, hsuffix⟩ := exists_suffix_of_mem_splitOn before hpart
  rw [List.append_assoc]
  exact ⟨whole, hwhole, (List.prefix_append run first).isInfix.trans hsuffix.isInfix⟩

end TellerTerminal
