import Imperative.Proofs.Text.Words

/-! Joined lists: what stands before the first piece stands before the join, a
separator occurs once between neighbours, and a text joined by delimiters has the
words of its pieces. -/
namespace Imperative.Text

variable {α : Type} {a : α} {pieces : List (List α)}

theorem intercalate_modifyHead (separator front : List α) (some : pieces ≠ []) :
    separator.intercalate (pieces.modifyHead (front ++ ·)) = front ++ separator.intercalate pieces := by
  obtain ⟨first, rest, rfl⟩ := List.exists_cons_of_ne_nil some
  cases rest with
  | nil => simp
  | cons second rest => simp [List.append_assoc]

theorem intercalate_append (separator : List α) {front back : List (List α)} (first : front ≠ [])
    (last : back ≠ []) : separator.intercalate (front ++ back) =
      separator.intercalate front ++ separator ++ separator.intercalate back := by
  induction front with
  | nil => contradiction
  | cons piece rest ih =>
    cases rest with
    | nil => simp [List.intercalate_cons_of_ne_nil last]
    | cons next rest =>
      have later := ih (List.cons_ne_nil _ _)
      rw [List.cons_append, List.intercalate_cons_of_ne_nil (by simp), later,
        List.intercalate_cons_of_ne_nil (List.cons_ne_nil _ _)]
      simp only [List.append_assoc]

theorem count_intercalate [BEq α] [LawfulBEq α] (some : pieces ≠ [])
    (absent : ∀ piece ∈ pieces, a ∉ piece) :
    ([a].intercalate pieces).count a + 1 = pieces.length := by
  induction pieces with
  | nil => contradiction
  | cons piece rest ih =>
    have none : piece.count a = 0 := List.count_eq_zero.mpr (absent piece (by simp))
    by_cases last : rest = []
    · simp [last, none]
    · have later := ih last fun piece member => absent piece (by simp [member])
      rw [List.intercalate_cons_of_ne_nil last]
      simp only [List.count_append, List.count_singleton_self, none, List.length_cons]
      omega

theorem filter_intercalate [DecidableEq α] (absent : ∀ piece ∈ pieces, a ∉ piece) :
    ([a].intercalate pieces).filter (· ≠ a) = pieces.flatten := by
  induction pieces with
  | nil => rfl
  | cons piece rest ih =>
    obtain ⟨first, others⟩ := List.forall_mem_cons.mp absent
    have kept : piece.filter (· ≠ a) = piece := by
      apply List.filter_eq_self.mpr
      intro b member
      have other : b ≠ a := by
        rintro rfl
        exact first member
      simpa using other
    by_cases last : rest = []
    · subst rest
      simpa using kept
    · rw [List.intercalate_cons_of_ne_nil last, List.filter_append, List.filter_append, kept,
        ih others]
      simp

theorem join_cons (separator t : Text) {rest : List Text} (some : rest ≠ []) :
    join separator (t :: rest) = t ++ separator ++ join separator rest :=
  List.intercalate_cons_of_ne_nil some

theorem join_modifyHead (separator front : Text) {texts : List Text} (some : texts ≠ []) :
    join separator (texts.modifyHead (front ++ ·)) = front ++ join separator texts :=
  intercalate_modifyHead separator front some

theorem words_join {c : Char} (cut : isDelimiter c = true) (texts : List Text) :
    words (join [c] texts) = texts.flatMap words := by
  induction texts with
  | nil => rfl
  | cons t rest ih =>
    by_cases last : rest = []
    · simp [join, last]
    · rw [join_cons [c] t last, List.append_assoc, List.singleton_append, words_append_cut cut,
        List.flatMap_cons, ih]

theorem mem_join {c : Char} {separator : Text} {texts : List Text}
    (member : c ∈ join separator texts) : c ∈ separator ∨ ∃ t ∈ texts, c ∈ t := by
  induction texts with
  | nil => contradiction
  | cons t rest ih =>
    by_cases last : rest = []
    · subst rest
      exact .inr ⟨t, by simp, by simpa [join] using member⟩
    · rw [join_cons separator t last, List.mem_append, List.mem_append] at member
      rcases member with (first | between) | later
      · exact .inr ⟨t, by simp, first⟩
      · exact .inl between
      · rcases ih later with between | ⟨u, inside, within⟩
        · exact .inl between
        · exact .inr ⟨u, List.mem_cons_of_mem t inside, within⟩

theorem subset_join (separator : Text) {t : Text} {texts : List Text} (member : t ∈ texts) :
    t ⊆ join separator texts := by
  induction texts with
  | nil => contradiction
  | cons first rest ih =>
    by_cases last : rest = []
    · subst rest
      obtain rfl := List.mem_singleton.mp member
      simp [join]
    · rw [join_cons separator first last]
      rcases List.mem_cons.mp member with rfl | later
      · exact fun c inside => by simp [inside]
      · exact fun c inside => List.mem_append_right _ (ih later inside)

/-! Whole words, joined. -/

theorem words_join_words {c : Char} (cut : isDelimiter c = true) {texts : List Text}
    (whole : ∀ w ∈ texts, Unbroken w ∧ w ≠ []) : words (join [c] texts) = texts := by
  rw [words_join cut]
  induction texts with
  | nil => rfl
  | cons w rest ih =>
    obtain ⟨⟨unbroken, nonempty⟩, others⟩ := List.forall_mem_cons.mp whole
    rw [List.flatMap_cons, words_unbroken unbroken nonempty, ih others, List.singleton_append]

theorem head?_join (separator : Text) {t : Text} (nonempty : t ≠ []) (rest : List Text) :
    (join separator (t :: rest)).head? = t.head? := by
  by_cases last : rest = []
  · subst rest
    exact congrArg List.head? List.intercalate_singleton
  · rw [join_cons separator t last, List.append_assoc, List.head?_append_of_ne_nil _ nonempty]

theorem getLast?_join (separator : Text) (front : List Text) {t : Text} (nonempty : t ≠ []) :
    (join separator (front ++ [t])).getLast? = t.getLast? := by
  by_cases first : front = []
  · subst front
    exact congrArg List.getLast? List.intercalate_singleton
  · have parts : join separator (front ++ [t]) = join separator front ++ separator ++ t := by
      rw [join, intercalate_append separator first (List.cons_ne_nil t []),
        List.intercalate_singleton,
        join]
    rw [parts, List.getLast?_append_of_ne_nil _ nonempty]

theorem trim_join_words (separator : Text) {texts : List Text}
    (whole : ∀ w ∈ texts, Unbroken w ∧ w ≠ []) : trim (join separator texts) = join separator texts := by
  have solid : ∀ w ∈ texts, ∀ c ∈ w, isBlankChar c = false := fun w member c inside =>
    isBlankChar_of_not_delimiter ((whole w member).1 c inside)
  refine trim_eq_self ?_ ?_
  · intro c first
    cases texts with
    | nil => contradiction
    | cons w rest =>
      rw [head?_join separator (whole w (by simp)).2] at first
      exact solid w (by simp) c (List.mem_of_head? first)
  · intro c last
    rcases List.eq_nil_or_concat texts with rfl | ⟨front, w, rfl⟩
    · contradiction
    · rw [List.concat_eq_append] at last whole solid
      rw [getLast?_join separator front (whole w (by simp)).2] at last
      exact solid w (by simp) c (List.mem_of_getLast? last)

end Imperative.Text
