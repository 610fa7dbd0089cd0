import Imperative.Highlight
import Imperative.Proofs.Report
import Imperative.Proofs.Text.Places

/-! What the colours say of a line. Each word is coloured by itself, from its own lowercase
form; the parser reads it in the lowercase form of the whole line. The two forms differ only
in a capital sigma that is final in one and not in the other. -/
namespace Imperative.Highlight
open Text Line

variable {lexicon : Lexicon} {line before word after t w s : Text} {c : Char}

theorem paintAfter_unbroken (lexicon : Lexicon) (unbroken : Unbroken w) (begun : Text) :
    paintAfter lexicon begun w = paintWord lexicon (begun.reverse ++ w) := by
  induction w generalizing begun with
  | nil => rw [paintAfter, List.append_nil]
  | cons c cs ih =>
    obtain ⟨solid, rest⟩ := unbroken_cons.mp unbroken
    rw [paintAfter, if_neg (Bool.eq_false_iff.mp solid), ih rest, List.reverse_cons,
      List.append_assoc]
    rfl

theorem paintAfter_cut (lexicon : Lexicon) (unbroken : Unbroken w) (cut : isDelimiter c = true)
    (begun rest : Text) : paintAfter lexicon begun (w ++ c :: rest) =
      paintWord lexicon (begun.reverse ++ w) ++ c :: paint lexicon rest := by
  induction w generalizing begun with
  | nil =>
    rw [List.nil_append, paintAfter, cut, List.append_nil]
    rfl
  | cons d ds ih =>
    obtain ⟨solid, tail⟩ := unbroken_cons.mp unbroken
    rw [List.cons_append, paintAfter, if_neg (Bool.eq_false_iff.mp solid), ih tail,
      List.reverse_cons, List.append_assoc]
    rfl

theorem paint_unbroken (lexicon : Lexicon) (unbroken : Unbroken w) :
    paint lexicon w = paintWord lexicon w :=
  paintAfter_unbroken lexicon unbroken []

/-- A line is coloured word by word, and delimiters are copied. -/
theorem paint_piecewise (lexicon : Lexicon) : Piecewise (paint lexicon) fun c => [c] where
  empty := rfl
  cut := fun {w c} unbroken cut rest => by
    have whole := paintAfter_cut lexicon unbroken cut [] rest
    rw [paint, whole, paint_unbroken lexicon unbroken, List.append_assoc]
    rfl

/-- The category that a word is coloured by. -/
def shownAs (lexicon : Lexicon) (word : Text) : Category := lexicon.classify (some (lower word))

def inColour (category : Category) (word : Text) : Text :=
  match colour? category with
  | some code => code ++ word ++ reset
  | none => word

theorem paintWord_eq_inColour (lexicon : Lexicon) (word : Text) :
    paintWord lexicon word = inColour (shownAs lexicon word) word := by
  cases word with
  | nil => rfl
  | cons c cs => rfl

/-- No other category has the colour of unknown words. -/
theorem inColour_eq_unknown_iff (category : Category) (word : Text) :
    inColour category word = inColour .unknown word ↔ category = .unknown := by
  refine ⟨fun same => ?_, fun same => congrArg (inColour · word) same⟩
  have plain : word ≠ inColour .unknown word := by
    intro same
    have length := congrArg List.length same
    simp only [inColour, colour?, List.length_append] at length
    have := List.length_pos_iff.mpr (show reset ≠ [] by decide)
    omega
  have coded (code : Text) (shown : code ++ word ++ reset = inColour .unknown word) :
      code = sequence "31".toList := by
    exact List.append_cancel_right (List.append_cancel_right shown)
  cases category with
  | word c => cases c <;> exact absurd (coded _ same) (by decide)
  | empty => exact absurd same plain
  | unknown => rfl
  | finish => exact absurd same plain

theorem paint_at (lexicon : Lexicon) (place : WordAt line before word after) : paint lexicon line =
    paint lexicon before ++ inColour (shownAs lexicon word) word ++ paint lexicon after := by
  rw [place.read (paint_piecewise lexicon), paint_unbroken lexicon place.unbroken,
    paintWord_eq_inColour]

/-- Texts that every lexicon classifies alike are one text. -/
theorem eq_of_classify (nonempty : s ≠ [])
    (same : ∀ lexicon : Lexicon, lexicon.classify (some s) = lexicon.classify (some t)) : s = t := by
  let only : Lexicon := Lexicon.empty.insert (.word .verb) s
  have listed : only.contains .verb s = true :=
    Lexicon.contains_insert.mpr (.inl ⟨rfl, rfl, nonempty⟩)
  have first : only.classify (some s) = .word .verb := by
    obtain ⟨c, cs, rfl⟩ := List.exists_cons_of_ne_nil nonempty
    simp [Lexicon.classify, Lexicon.classifyBy, WordClass.priority, listed]
  have second : only.classify (some t) = .word .verb := (same only).symm.trans first
  have found : only.contains .verb t = true := by
    cases t with
    | nil => contradiction
    | cons c cs =>
      simp only [Lexicon.classify, Lexicon.classifyBy] at second
      split at second
      · next d place =>
        obtain rfl := Category.word.inj second
        have held := List.find?_some place
        exact held
      · contradiction
  rcases Lexicon.contains_insert.mp found with ⟨_, same, _⟩ | other
  · exact same
  · contradiction

theorem shownAs_iff (place : WordAt line before word after) :
    (∀ lexicon : Lexicon, shownAs lexicon word =
        lexicon.classify (some (lowerIn before.reverse word after))) ↔ ¬ SigmaTurns before word after := by
  rw [← lowerIn_eq_lower_iff]
  constructor
  · intro same
    have nonempty : lower word ≠ [] := mt lower_eq_nil_iff.mp place.nonempty
    exact (eq_of_classify nonempty same).symm
  · intro same lexicon
    rw [same, shownAs]

theorem isUnknown_iff (lexicon : Lexicon) (word : Text) :
    lexicon.isUnknown word = true ↔ lexicon.classify (some word) = .unknown := decide_eq_true_iff

theorem not_blank_of_wordAt (place : WordAt line before word after) : isBlank line = false := by
  have inside : word ⊆ line := fun c member => by simp [place.split, member]
  exact not_blank_of_mem inside (place.unbroken.not_blank place.nonempty)

/-- A line has as many words for the highlighter as for the parser. Each is coloured by the
category that it is read as, whatever the lexicon, exactly when no sigma of it turns; then
it has the colour of unknown words if it is reported as one. -/
theorem coloured_as_read_exactly (line : Text) :
    (words (normalize line)).length = (words line).length ∧
    (∀ index < (words line).length, ∃ before word after,
      WordAt line before word after ∧ (words before).length = index) ∧
    ∀ before word after, WordAt line before word after → ∃ read,
      (words line)[(words before).length]? = some word ∧
      (words (normalize line))[(words before).length]? = some read ∧
      (∀ lexicon, paint lexicon line =
        paint lexicon before ++ inColour (shownAs lexicon word) word ++ paint lexicon after) ∧
      ((∀ lexicon : Lexicon, shownAs lexicon word = lexicon.classify (some read)) ↔
        ¬ SigmaTurns before word after) ∧
      ∀ lexicon, ∃ report, parse lexicon (some line) = .ok report ∧
        (¬ SigmaTurns before word after → read ≠ separator →
          (inColour (shownAs lexicon word) word = inColour .unknown word ↔ read ∈ report.unknown)) := by
  refine ⟨length_words_normalize line, exists_wordAt line, ?_⟩
  intro before word after place
  have found := place.getElem?_words_normalize
  refine ⟨_, place.getElem?_words, found, fun lexicon => paint_at lexicon place, shownAs_iff place,
    ?_⟩
  intro lexicon
  obtain ⟨report, parsed, unknown⟩ := unknown_of_parse lexicon (not_blank_of_wordAt place)
  refine ⟨report, parsed, fun still other => ?_⟩
  have shown := (shownAs_iff place).mpr still lexicon
  have member := List.mem_of_getElem? found
  rw [inColour_eq_unknown_iff, shown, unknown, List.mem_filter, ← isUnknown_iff]
  simp [member, other]

/-- At the full stop the first sigma is final for the highlighter, but not for the parser,
which sees the letters behind it: a verb is coloured and an unknown word is reported. -/
theorem coloured_as_read_at_sigma :
    let line := "ΑΣ.ΑΣ".toList
    let lexicon := Lexicon.ofLists [(.word .verb, ["ας".toList])]
    WordAt line [] "ΑΣ".toList ".ΑΣ".toList ∧ SigmaTurns [] "ΑΣ".toList ".ΑΣ".toList ∧
    (¬ ∀ lexicon : Lexicon, shownAs lexicon "ΑΣ".toList = lexicon.classify (some "ασ".toList)) ∧
    paint lexicon line =
      inColour (.word .verb) "ΑΣ".toList ++ '.' :: inColour (.word .verb) "ΑΣ".toList ∧
    ∃ report, parse lexicon (some line) = .ok report ∧ report.unknown = ["ασ".toList] := by
  intro line lexicon
  have place : WordAt line [] "ΑΣ".toList ".ΑΣ".toList :=
    ⟨by decide, by decide, by decide, by decide, by decide⟩
  have turns : SigmaTurns [] "ΑΣ".toList ".ΑΣ".toList :=
    ⟨"Α".toList, [], by decide, .inr (by decide +kernel)⟩
  obtain ⟨read, _, spelled, _, agreed, _⟩ := (coloured_as_read_exactly line).2.2 _ _ _ place
  have same : some "ασ".toList = some read := by
    rw [← spelled]
    decide +kernel
  obtain rfl := Option.some.inj same
  exact ⟨place, turns, fun all => agreed.mp all turns, by decide +kernel, _, rfl, by decide +kernel⟩

end Imperative.Highlight
