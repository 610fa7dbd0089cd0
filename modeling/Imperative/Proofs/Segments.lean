import Imperative.Proofs.Text.Join

/-! Lines cut at the separators that stand alone. The search for separators looks at
characters and their neighbours; here it is followed word by word, and found to see the
same separators as the words of the line do. -/
namespace Imperative.Line
open Text

variable {line t w front back rest : Text} {before : Option Char} {c : Char}

theorem segmentsAfter_ne_nil (before : Option Char) (t : Text) : segmentsAfter before t ≠ [] := by
  fun_cases segmentsAfter before t with
  | case1 => simp
  | case2 => simp
  | case3 => exact consFirst_ne_nil _ _
  | case4 => exact consFirst_ne_nil _ _

theorem segments_ne_nil (line : Text) : segments line ≠ [] := segmentsAfter_ne_nil none line

theorem segmentsAfter_separator (opens : isBoundary before = true)
    (closes : isBoundary rest.head? = true) :
    segmentsAfter before (separator ++ rest) = [] :: segmentsAfter (some 'd') rest := by
  simp [separator, segmentsAfter, opens, closes]

/-- A character at which no separator stands alone belongs to the segment after it. -/
theorem segmentsAfter_cons (other : ∀ later, c :: rest = separator ++ later →
      ¬ (isBoundary before = true ∧ isBoundary later.head? = true)) :
    segmentsAfter before (c :: rest) = (segmentsAfter (some c) rest).modifyHead (c :: ·) := by
  rw [← consFirst_eq_modifyHead (segmentsAfter_ne_nil _ _)]
  by_cases spelled : ∃ later, c :: rest = separator ++ later
  · obtain ⟨later, same⟩ := spelled
    obtain ⟨rfl, rfl⟩ := List.cons.inj same
    have glued : (isBoundary before && isBoundary later.head?) = false := by
      simpa using other later rfl
    simp [segmentsAfter, glued]
  · rw [segmentsAfter.eq_3 before c rest]
    rintro later rfl rfl
    exact spelled ⟨later, rfl⟩

/-- What was read matters only as far as a word may begin after it. -/
theorem segmentsAfter_congr (before after : Option Char)
    (same : isBoundary before = isBoundary after) :
    segmentsAfter before t = segmentsAfter after t := by
  fun_cases segmentsAfter before t with
  | case1 => rfl
  | case2 rest alone => simp only [segmentsAfter, ← same, alone, if_true]
  | case3 rest glued => simp only [segmentsAfter, ← same, glued]; rfl
  | case4 c rest other => rw [segmentsAfter.eq_3 _ _ _ other]

theorem segmentsAfter_delimiter (cut : isDelimiter c = true) :
    segmentsAfter before (c :: rest) = (segments rest).modifyHead (c :: ·) := by
  rw [segmentsAfter_cons, segmentsAfter_congr (some c) none (by simpa [isBoundary] using cut),
    segments]
  intro later same
  obtain ⟨rfl, _⟩ := List.cons.inj same
  contradiction

theorem segments_cons (cut : isDelimiter c = true) (rest : Text) :
    segments (c :: rest) = (segments rest).modifyHead (c :: ·) := segmentsAfter_delimiter cut

/-- Inside a word no separator stands alone. -/
theorem segmentsAfter_inside (inside : isBoundary before = false) (unbroken : Unbroken w) :
    segmentsAfter before (w ++ rest) =
      (segmentsAfter (w.getLast?.or before) rest).modifyHead (w ++ ·) := by
  induction w generalizing before with
  | nil => exact (modifyHead_nil_append _).symm
  | cons d ds ih =>
    have still := unbroken.head_not_boundary
    rw [List.cons_append, segmentsAfter_cons (by simp [inside]),
      ih still (unbroken_cons.mp unbroken).2,
      List.modifyHead_modifyHead, List.getLast?_cons, Option.some_or]
    cases ds.getLast? <;> rfl

theorem unbroken_separator : Unbroken separator := by decide

/-- A separator that touches a word on one side stays in its segment. -/
theorem segmentsAfter_glued
    (glued : ¬ (isBoundary before = true ∧ isBoundary rest.head? = true)) :
    segmentsAfter before (separator ++ rest) =
      (segmentsAfter (some 'd') rest).modifyHead (separator ++ ·) := by
  have other : ∀ later, separator ++ rest = separator ++ later →
      ¬ (isBoundary before = true ∧ isBoundary later.head? = true) := by
    intro later same
    obtain rfl := List.append_cancel_left same
    exact glued
  have tail : segmentsAfter (some 'a') (['n', 'd'] ++ rest) =
      (segmentsAfter (some 'd') rest).modifyHead (['n', 'd'] ++ ·) :=
    segmentsAfter_inside rfl (by decide)
  calc segmentsAfter before (separator ++ rest)
      = (segmentsAfter (some 'a') (['n', 'd'] ++ rest)).modifyHead ('a' :: ·) := segmentsAfter_cons other
    _ = (segmentsAfter (some 'd') rest).modifyHead (separator ++ ·) := by
      rw [tail, List.modifyHead_modifyHead]
      rfl

/-- A word that is not the separator stays in one segment. -/
theorem segmentsAfter_word (unbroken : Unbroken w) (other : w ≠ separator)
    (closes : isBoundary rest.head? = true) :
    segmentsAfter before (w ++ rest) =
      (segmentsAfter (w.getLast?.or before) rest).modifyHead (w ++ ·) := by
  cases w with
  | nil => exact (modifyHead_nil_append _).symm
  | cons d ds =>
    have different : ∀ later, d :: (ds ++ rest) = separator ++ later →
        ¬ (isBoundary before = true ∧ isBoundary later.head? = true) := by
      rintro later same ⟨_, ends⟩
      exact other (unbroken.unique unbroken_separator closes ends same)
    rw [List.cons_append, segmentsAfter_cons different,
      segmentsAfter_inside unbroken.head_not_boundary (unbroken_cons.mp unbroken).2,
      List.modifyHead_modifyHead, List.getLast?_cons, Option.some_or]
    cases ds.getLast? <;> rfl

theorem segments_unbroken (unbroken : Unbroken w) (other : w ≠ separator) : segments w = [w] := by
  have whole : segmentsAfter none (w ++ []) = (segmentsAfter _ []).modifyHead (w ++ ·) :=
    segmentsAfter_word unbroken other rfl
  simpa [segments, segmentsAfter] using whole

theorem segments_cut (unbroken : Unbroken w) (other : w ≠ separator) (cut : isDelimiter c = true)
    (rest : Text) : segments (w ++ c :: rest) = (segments rest).modifyHead (w ++ c :: ·) := by
  rw [segments, segmentsAfter_word unbroken other (isBoundary_head?_cons cut rest),
    segmentsAfter_delimiter cut,
    List.modifyHead_modifyHead]
  rfl

theorem segments_separator : segments separator = [[], []] := rfl

theorem segments_separator_cut (cut : isDelimiter c = true) (rest : Text) :
    segments (separator ++ c :: rest) = [] :: (segments rest).modifyHead (c :: ·) := by
  rw [segments, segmentsAfter_separator rfl (isBoundary_head?_cons cut rest),
    segmentsAfter_delimiter cut]

/-- Nothing of the line is lost but the separators. -/
theorem join_segmentsAfter (before : Option Char) (t : Text) :
    join separator (segmentsAfter before t) = t := by
  fun_induction segmentsAfter before t with
  | case1 => rfl
  | case2 before rest alone ih =>
    rw [join_cons separator [] (segmentsAfter_ne_nil _ _), ih]
    rfl
  | case3 before rest glued ih =>
    have some := segmentsAfter_ne_nil (some 'a') ('n' :: 'd' :: rest)
    rw [consFirst_eq_modifyHead some]
    exact (join_modifyHead separator ['a'] some).trans (congrArg _ ih)
  | case4 before c rest other ih =>
    have some := segmentsAfter_ne_nil (some c) rest
    rw [consFirst_eq_modifyHead some]
    exact (join_modifyHead separator [c] some).trans (congrArg _ ih)

theorem join_segments (line : Text) : join separator (segments line) = line :=
  join_segmentsAfter none line

/-- Wherever segments meet, the separator between them stands between delimiters or the
ends of the text. What precedes the text counts as standing before its first segment. -/
def SeparatorsAlone (before : Option Char) (segments : List Text) : Prop :=
  ∀ front back, segments = front ++ back → front ≠ [] → back ≠ [] →
    isBoundary ((join separator front).getLast?.or before) = true ∧
      isBoundary (join separator back).head? = true

theorem SeparatorsAlone.single (before : Option Char) (t : Text) : SeparatorsAlone before [t] := by
  intro front back same first last
  have count := congrArg List.length same
  have := List.length_pos_iff.mpr first
  have := List.length_pos_iff.mpr last
  simp only [List.length_append, List.length_singleton] at count
  omega

theorem SeparatorsAlone.consFirst {later : List Text} (nonempty : later ≠ [])
    (alone : SeparatorsAlone (some c) later) : SeparatorsAlone before (consFirst c later) := by
  intro front back same first last
  obtain ⟨piece, front, rfl⟩ := List.exists_cons_of_ne_nil first
  obtain ⟨next, later, rfl⟩ := List.exists_cons_of_ne_nil nonempty
  obtain ⟨rfl, tail⟩ := List.cons.inj same
  obtain ⟨ends, begins⟩ := alone (next :: front) back (congrArg (next :: ·) tail) (by simp) last
  refine ⟨?_, begins⟩
  have longer : join separator ((c :: next) :: front) = c :: join separator (next :: front) :=
    List.intercalate_cons_cons_left
  rw [longer, List.getLast?_cons, Option.some_or]
  cases read : (join separator (next :: front)).getLast? <;> simpa [read] using ends

theorem segmentsAfter_alone (before : Option Char) (t : Text) :
    SeparatorsAlone before (segmentsAfter before t) := by
  fun_induction segmentsAfter before t with
  | case1 before => exact .single before []
  | case2 before rest alone ih =>
    obtain ⟨opens, closes⟩ := Bool.and_eq_true_iff.mp alone
    intro front back same first last
    obtain ⟨piece, front, rfl⟩ := List.exists_cons_of_ne_nil first
    obtain ⟨rfl, tail⟩ := List.cons.inj same
    by_cases only : front = []
    · subst front
      have tail : segmentsAfter (some 'd') rest = back := tail
      rw [← tail, join_segmentsAfter]
      exact ⟨opens, closes⟩
    · obtain ⟨ends, begins⟩ := ih front back tail only last
      refine ⟨?_, begins⟩
      have spelled : ([] ++ separator).getLast? = some 'd' := rfl
      rw [join_cons separator [] only, List.getLast?_append, spelled]
      cases read : (join separator front).getLast? <;> simpa only [read, Option.or] using ends
  | case3 before rest glued ih => exact ih.consFirst (segmentsAfter_ne_nil _ _)
  | case4 before c rest other ih => exact ih.consFirst (segmentsAfter_ne_nil _ _)

end Imperative.Line
