import Imperative.Proofs.Segments

/-! What splitting a line keeps. The segments, joined by separators, are the line; each
separator stands alone in it; and the separators are exactly the words of the line that
read like one, so that no clause holds such a word. -/
namespace Imperative.Line
open Text

variable {line t w clause : Text} {c : Char}

theorem map_words_modifyHead (cut : isDelimiter c = true) (w : Text) (texts : List Text) :
    (texts.modifyHead (w ++ c :: ·)).map words = (texts.map words).modifyHead (words w ++ ·) := by
  cases texts with
  | nil => rfl
  | cons first rest => simp only [List.modifyHead_cons, List.map_cons, words_append_cut cut]

theorem map_words_modifyHead_cons (cut : isDelimiter c = true) (texts : List Text) :
    (texts.modifyHead (c :: ·)).map words = texts.map words := by
  cases texts with
  | nil => rfl
  | cons first rest => simp only [List.modifyHead_cons, List.map_cons, words_cons cut]

theorem map_words_segments_ne_nil (line : Text) : (segments line).map words ≠ [] := by
  simpa using segments_ne_nil line

theorem words_segments (line : Text) :
    words line = [separator].intercalate ((segments line).map words) := by
  induction line using word_induction with
  | last w unbroken =>
    by_cases spelled : w = separator
    · subst w
      rfl
    · rw [segments_unbroken unbroken spelled]
      exact List.intercalate_singleton.symm
  | more w c rest unbroken cut ih =>
    have parts := map_words_segments_ne_nil rest
    by_cases spelled : w = separator
    · subst w
      rw [segments_separator_cut cut, List.map_cons, map_words_modifyHead_cons cut,
        List.intercalate_cons_of_ne_nil parts, ← ih, words_append_cut cut]
      rfl
    · rw [segments_cut unbroken spelled cut, map_words_modifyHead cut,
        intercalate_modifyHead _ _ parts, ← ih, words_append_cut cut]

/-- A separator that stands as a word has been cut out. -/
theorem separator_not_mem_segments (line : Text) :
    ∀ segment ∈ segments line, separator ∉ words segment := by
  induction line using word_induction with
  | last w unbroken =>
    by_cases spelled : w = separator
    · subst w
      simp [segments_separator]
    · rw [segments_unbroken unbroken spelled]
      intro segment member
      obtain rfl := List.mem_singleton.mp member
      simp [words, pieces_unbroken unbroken, Ne.symm spelled]
  | more w c rest unbroken cut ih =>
    obtain ⟨first, later, parts⟩ := List.exists_cons_of_ne_nil (segments_ne_nil rest)
    rw [parts] at ih
    obtain ⟨clear, others⟩ := List.forall_mem_cons.mp ih
    by_cases spelled : w = separator
    · subst w
      rw [segments_separator_cut cut, parts, List.modifyHead_cons]
      refine List.forall_mem_cons.mpr ⟨by simp, List.forall_mem_cons.mpr ⟨?_, others⟩⟩
      rwa [words_cons cut]
    · rw [segments_cut unbroken spelled cut, parts, List.modifyHead_cons]
      refine List.forall_mem_cons.mpr ⟨?_, others⟩
      rw [words_append_cut cut, List.mem_append, not_or]
      refine ⟨?_, clear⟩
      simp [words, pieces_unbroken unbroken, Ne.symm spelled]

theorem separator_not_mem_map_words (line : Text) :
    ∀ piece ∈ (segments line).map words, separator ∉ piece := by
  intro piece member
  obtain ⟨segment, inside, rfl⟩ := List.mem_map.mp member
  exact separator_not_mem_segments line segment inside

theorem map_words_clauses (line : Text) : (clauses line).map words = (segments line).map words := by
  simp only [clauses, List.map_map]
  exact List.map_congr_left fun segment _ => words_trim segment

theorem separator_not_mem_clauses (member : clause ∈ clauses line) : separator ∉ words clause := by
  obtain ⟨segment, inside, rfl⟩ := List.mem_map.mp member
  rw [words_trim]
  exact separator_not_mem_segments line segment inside

theorem flatMap_words_clauses (line : Text) :
    (clauses line).flatMap words = (words line).filter (· ≠ separator) := by
  have absent := separator_not_mem_map_words line
  rw [List.flatMap_def, map_words_clauses, ← filter_intercalate absent, ← words_segments]

/-- The words of a clause are words of the line other than the separator. -/
theorem mem_words_of_mem_clauses (inside : clause ∈ clauses line) (member : w ∈ words clause) :
    w ∈ words line ∧ w ≠ separator := by
  have listed : w ∈ (clauses line).flatMap words := List.mem_flatMap.mpr ⟨clause, inside, member⟩
  rw [flatMap_words_clauses, List.mem_filter] at listed
  exact ⟨listed.1, of_decide_eq_true listed.2⟩

theorem length_segments (line : Text) :
    (segments line).length = (words line).count separator + 1 := by
  have counted :=
    count_intercalate (map_words_segments_ne_nil line) (separator_not_mem_map_words line)
  rw [← words_segments, List.length_map] at counted
  exact counted.symm

/-- A line without the separator among its words is one clause. -/
theorem segments_of_not_mem (absent : separator ∉ words line) : segments line = [line] := by
  have single : (segments line).length = 1 := by
    rw [length_segments, List.count_eq_zero.mpr absent]
  obtain ⟨segment, only⟩ := List.length_eq_one_iff.mp single
  have whole := join_segments line
  rw [only] at whole ⊢
  exact congrArg ([·]) (List.intercalate_singleton.symm.trans whole)

/-- Splitting is exact and loses nothing. The clauses are the trimmed parts of a line
between separators that stand between delimiters or the ends of the text; these are as
many as the words of the line that are the separator; and the words of the line are the
words of its clauses with one separator between neighbours. -/
theorem clauses_split_exactly (line : Text) : ∃ parts : List Text,
    line = join separator parts ∧ clauses line = parts.map trim ∧
    (∀ front back, parts = front ++ back → front ≠ [] → back ≠ [] →
      isBoundary (join separator front).getLast? = true ∧
        isBoundary (join separator back).head? = true) ∧
    parts.length = (words line).count separator + 1 ∧
    words line = [separator].intercalate ((clauses line).map words) ∧
    ∀ clause ∈ clauses line, separator ∉ words clause := by
  refine ⟨segments line, (join_segments line).symm, rfl, ?_, length_segments line, ?_, ?_⟩
  · intro front back same first last
    have alone := segmentsAfter_alone none line front back same first last
    rwa [Option.or_none] at alone
  · rw [map_words_clauses, ← words_segments]
  · intro clause member
    exact separator_not_mem_clauses member

end Imperative.Line
