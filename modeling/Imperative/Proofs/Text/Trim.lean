import Imperative.Text
import Mathlib.Data.List.DropRight

/-! Trimming by the ends of a text. What is left of a text stands in it between
blanks, begins and ends with none, and does not depend on the blanks around it. -/
namespace Imperative.Text

variable {t front back : Text}

theorem isBlank_iff : isBlank t = true ↔ ∀ c ∈ t, isBlankChar c = true := List.all_eq_true

theorem isBlank_cons {c : Char} :
    isBlank (c :: t) = true ↔ isBlankChar c = true ∧ isBlank t = true := by
  simp [isBlank]

theorem isBlank_append :
    isBlank (front ++ back) = true ↔ isBlank front = true ∧ isBlank back = true := by
  simp [isBlank]

theorem trim_eq_rdropWhile (t : Text) :
    trim t = (t.dropWhile isBlankChar).rdropWhile isBlankChar := rfl

theorem trim_eq_nil_iff : trim t = [] ↔ isBlank t = true := by
  rw [trim_eq_rdropWhile, List.rdropWhile_eq_nil_iff, isBlank_iff]
  constructor
  · intro rest c member
    rw [← List.takeWhile_append_dropWhile (p := isBlankChar) (l := t)] at member
    rcases List.mem_append.mp member with first | last
    · exact List.mem_takeWhile_imp first
    · exact rest c last
  · intro blank c member
    exact blank c ((List.dropWhile_subset _) member)

theorem trim_blank (blank : isBlank t = true) : trim t = [] := trim_eq_nil_iff.mpr blank

theorem trim_blank_append (blank : isBlank front = true) : trim (front ++ t) = trim t := by
  rw [trim_eq_rdropWhile, List.dropWhile_append_of_pos (isBlank_iff.mp blank), trim_eq_rdropWhile]

theorem rdropWhile_append_blank (blank : isBlank back = true) :
    (t ++ back).rdropWhile isBlankChar = t.rdropWhile isBlankChar := by
  have blanks : ∀ c ∈ back.reverse, isBlankChar c = true := by
    simpa only [List.mem_reverse] using isBlank_iff.mp blank
  rw [List.rdropWhile, List.reverse_append, List.dropWhile_append_of_pos blanks, List.rdropWhile]

theorem trim_append_blank (blank : isBlank back = true) : trim (t ++ back) = trim t := by
  rw [trim_eq_rdropWhile, List.dropWhile_append]
  split
  · next empty =>
    rw [List.isEmpty_iff] at empty
    have whole : isBlank t = true := by
      rw [← trim_eq_nil_iff, trim_eq_rdropWhile, empty, List.rdropWhile_nil]
    rw [trim_blank whole, ← trim_eq_rdropWhile, trim_blank blank]
  · rw [rdropWhile_append_blank blank, trim_eq_rdropWhile]

/-- What trimming drops is blank. -/
theorem trim_split (t : Text) :
    ∃ front back, t = front ++ trim t ++ back ∧ isBlank front = true ∧ isBlank back = true := by
  refine ⟨t.takeWhile isBlankChar, (t.dropWhile isBlankChar).rtakeWhile isBlankChar, ?_,
    List.all_takeWhile, ?_⟩
  · rw [trim_eq_rdropWhile, List.append_assoc, List.rdropWhile_append_rtakeWhile,
      List.takeWhile_append_dropWhile]
  · exact isBlank_iff.mpr fun c member => List.mem_rtakeWhile_imp member

/-- A text that neither begins nor ends with a blank is left as it is. -/
theorem trim_eq_self (first : ∀ c ∈ t.head?, isBlankChar c = false)
    (last : ∀ c ∈ t.getLast?, isBlankChar c = false) : trim t = t := by
  have kept : t.dropWhile isBlankChar = t := by
    cases t with
    | nil => rfl
    | cons c cs => exact List.dropWhile_cons_of_neg (by simp [first c rfl])
  rw [trim_eq_rdropWhile, kept, List.rdropWhile_eq_self_iff]
  intro some blank
  have nonblank := last _ (List.getLast?_eq_some_getLast some)
  rw [nonblank] at blank
  contradiction

theorem head?_trim : ∀ c ∈ (trim t).head?, isBlankChar c = false := by
  intro c member
  obtain ⟨rest, whole⟩ := List.rdropWhile_prefix isBlankChar (t.dropWhile isBlankChar)
  rw [← trim_eq_rdropWhile] at whole
  have first := List.head?_dropWhile_not isBlankChar t
  rw [← whole, List.head?_append, Option.mem_def.mp member] at first
  simpa using first

theorem getLast?_trim : ∀ c ∈ (trim t).getLast?, isBlankChar c = false := by
  intro c member
  have some : trim t ≠ [] := by
    intro empty
    simp [empty] at member
  have last := List.rdropWhile_last_not isBlankChar _ some
  rw [List.getLast?_eq_some_getLast some] at member
  obtain rfl := Option.some.inj member
  exact Bool.eq_false_iff.mpr last

theorem trim_trim (t : Text) : trim (trim t) = trim t := trim_eq_self head?_trim getLast?_trim

end Imperative.Text
