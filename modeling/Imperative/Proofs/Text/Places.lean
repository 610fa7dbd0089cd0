import Imperative.Proofs.Text.Lower

/-! Words at their places. A place of a text is a word with what stands before and after
it. There is one for each word of the text, and lowercasing keeps them all: the words of
the lowered text are the words of the text, each lowercased between its surroundings. -/
namespace Imperative.Text
open Line

variable {line before word after t : Text} {c : Char}

structure WordAt (line before word after : Text) : Prop where
  split : line = before ++ word ++ after
  nonempty : word ≠ []
  unbroken : Unbroken word
  opens : isBoundary before.getLast? = true
  closes : isBoundary after.head? = true

namespace WordAt

theorem later (place : WordAt line before word after) (cut : isDelimiter c = true) (front : Text) :
    WordAt (front ++ c :: line) (front ++ c :: before) word after where
  split := by simp [place.split]
  nonempty := place.nonempty
  unbroken := place.unbroken
  opens := by
    rcases List.eq_nil_or_concat before with rfl | ⟨start, d, rfl⟩
    · simpa [isBoundary] using cut
    · simpa [List.getLast?_cons] using place.opens
  closes := place.closes

theorem append (place : WordAt line before word after)
    (cut : isDelimiter c = true) (rest : Text) :
    WordAt (line ++ c :: rest) before word (after ++ c :: rest) where
  split := by simp [place.split]
  nonempty := place.nonempty
  unbroken := place.unbroken
  opens := place.opens
  closes := by
    cases after with
    | nil => exact cut
    | cons d ds => exact place.closes

theorem whole (unbroken : Unbroken word) (nonempty : word ≠ []) : WordAt word [] word [] :=
  ⟨by simp, nonempty, unbroken, rfl, rfl⟩

/-- What is read word by word is read before the word, of the word and after it. -/
theorem read {α : Type} {f : Text → List α} {mark : Char → List α} (piecewise : Piecewise f mark)
    (place : WordAt line before word after) : f line = f before ++ f word ++ f after := by
  rw [place.split, piecewise.append (.inr place.closes)]
  have apart : isBoundary before.getLast? = true ∨ isBoundary word.head? = true := .inl place.opens
  rw [piecewise.append apart]

theorem words_eq (place : WordAt line before word after) :
    words line = words before ++ word :: words after := by
  rw [place.read words_piecewise, words_unbroken place.unbroken place.nonempty, List.append_assoc,
    List.singleton_append]

theorem getElem?_words (place : WordAt line before word after) :
    (words line)[(words before).length]? = some word := by
  rw [place.words_eq, List.getElem?_append_right (Nat.le_refl _), Nat.sub_self]
  rfl

end WordAt

theorem length_words_unbroken (unbroken : Unbroken t) :
    (words t).length = if t = [] then 0 else 1 := by
  by_cases empty : t = []
  · subst t
    rfl
  · rw [words_unbroken unbroken empty, if_neg empty, List.length_singleton]

theorem index_of_unbroken (unbroken : Unbroken t) {index : Nat} (bound : index < (words t).length) :
    t ≠ [] ∧ index = 0 := by
  rw [length_words_unbroken unbroken] at bound
  split at bound
  · contradiction
  · next nonempty => exact ⟨nonempty, Nat.lt_one_iff.mp bound⟩

/-- Every word of a text has a place, with as many words before it as the list has. -/
theorem exists_wordAt (line : Text) : ∀ index < (words line).length,
    ∃ before word after, WordAt line before word after ∧ (words before).length = index := by
  induction line using word_induction with
  | last w unbroken =>
    intro index bound
    obtain ⟨nonempty, first⟩ := index_of_unbroken unbroken bound
    exact ⟨[], w, [], .whole unbroken nonempty, first.symm⟩
  | more w c rest unbroken cut ih =>
    intro index bound
    rw [words_append_cut cut, List.length_append] at bound
    by_cases here : index < (words w).length
    · obtain ⟨nonempty, first⟩ := index_of_unbroken unbroken here
      exact ⟨[], w, _, (WordAt.whole unbroken nonempty).append cut rest, first.symm⟩
    · have behind : index - (words w).length < (words rest).length := by omega
      obtain ⟨before, word, after, place, count⟩ := ih (index - (words w).length) behind
      refine ⟨w ++ c :: before, word, after, place.later cut w, ?_⟩
      rw [words_append_cut cut, List.length_append, count]
      omega

theorem wordAt_of_mem (member : word ∈ words line) :
    ∃ before after, WordAt line before word after := by
  obtain ⟨index, bound, found⟩ := List.getElem_of_mem member
  obtain ⟨before, other, after, place, count⟩ := exists_wordAt line index bound
  have read := place.getElem?_words
  rw [count, List.getElem?_eq_getElem bound, found] at read
  obtain rfl := Option.some.inj read
  exact ⟨before, after, place⟩

/-! Places under lowercasing. -/

theorem length_words_lowerIn (before t after : Text) :
    (words (lowerIn before t after)).length = (words t).length := by
  have run (w before after : Text) (unbroken : Unbroken w) :
      (words (lowerIn before w after)).length = (words w).length := by
    rw [length_words_unbroken unbroken,
      length_words_unbroken (unbroken_lowerIn unbroken before after)]
    simp only [lowerIn_eq_nil_iff]
  induction t using word_induction generalizing before with
  | last w unbroken => exact run w before after unbroken
  | more w c rest unbroken cut ih =>
    rw [lowerIn_cut before w rest after cut, words_append_cut cut, List.length_append, ih,
      run w _ _ unbroken, words_append_cut cut, List.length_append]

theorem length_words_normalize (line : Text) :
    (words (normalize line)).length = (words line).length := by
  rw [Line.normalize, words_trim, lower_eq_lowerIn, length_words_lowerIn]

theorem getLast?_lowerIn (ends : isBoundary t.getLast? = true) (before after : Text) :
    isBoundary (lowerIn before t after).getLast? = true := by
  rcases List.eq_nil_or_concat t with rfl | ⟨start, c, rfl⟩
  · rfl
  · have cut : isDelimiter c = true := by simpa [isBoundary] using ends
    rw [List.concat_eq_append, lowerIn_append, lowerIn_delimiter cut, List.getLast?_append]
    exact cut

theorem head?_lowerIn (begins : isBoundary t.head? = true) (before after : Text) :
    isBoundary (lowerIn before t after).head? = true := by
  cases t with
  | nil => rfl
  | cons c cs =>
    rw [lowerIn_delimiter begins]
    exact begins

/-- A word keeps its place when the text around it is lowercased with it. -/
theorem WordAt.lowered (place : WordAt line before word after) :
    WordAt (lower line) (lowerIn [] before (word ++ after)) (lowerIn before.reverse word after)
      (lowerIn (word.reverse ++ before.reverse) after []) where
  split := by
    rw [lower_eq_lowerIn, place.split, lowerIn_append, lowerIn_append, List.append_nil,
      List.append_nil, List.reverse_append, List.append_nil]
  nonempty := mt lowerIn_eq_nil_iff.mp place.nonempty
  unbroken := unbroken_lowerIn place.unbroken _ _
  opens := getLast?_lowerIn place.opens _ _
  closes := head?_lowerIn place.closes _ _

theorem WordAt.getElem?_words_normalize (place : WordAt line before word after) :
    (words (normalize line))[(words before).length]? = some (lowerIn before.reverse word after) := by
  rw [Line.normalize, words_trim, ← length_words_lowerIn [] before (word ++ after)]
  exact place.lowered.getElem?_words

/-- A sigma between the parts of a word has another form in a text than in the word alone.
Either no letter of the word precedes it but one before the word does, and it becomes final;
or it ends the word but a letter follows after the word, and it is final no longer. -/
def TurnsBetween (before front back after : Text) : Prop :=
  (front.all isCaseIgnorable = true ∧ meetsCased before.reverse = true ∧
    meetsCased (back ++ after) = false) ∨
  (meetsCased front.reverse = true ∧ back.all isCaseIgnorable = true ∧ meetsCased after = true)

def SigmaTurns (before word after : Text) : Prop :=
  ∃ front back, word = front ++ capitalSigma :: back ∧ TurnsBetween before front back after

theorem lowerSigma_eq_alone_iff (before front back after : Text) :
    lowerSigma (front.reverse ++ before.reverse) (back ++ after) =
      lowerSigma (front.reverse ++ []) (back ++ []) ↔ ¬ TurnsBetween before front back after := by
  rw [TurnsBetween, lowerSigma_eq_iff, List.append_nil, List.append_nil, meetsCased_append front.reverse,
    meetsCased_append back, List.all_reverse]
  cases passed : front.all isCaseIgnorable with
  | true =>
    have none : meetsCased front.reverse = false :=
      meetsCased_of_ignorable (by rw [List.all_reverse, passed])
    cases met : meetsCased before.reverse <;> simp [none]
  | false =>
    cases ends : back.all isCaseIgnorable with
    | true =>
      have last : meetsCased back = false := meetsCased_of_ignorable ends
      cases meetsCased front.reverse <;> cases meetsCased after <;> simp [last]
    | false => simp

/-- A word is lowercased in a text as it is alone, exactly when no sigma of it turns. -/
theorem lowerIn_eq_lower_iff (before word after : Text) :
    lowerIn before.reverse word after = lower word ↔ ¬ SigmaTurns before word after := by
  rw [lower_eq_lowerIn, lowerIn_eq_iff]
  constructor
  · rintro same ⟨front, back, split, turns⟩
    exact (lowerSigma_eq_alone_iff before front back after).mp (same front back split) turns
  · intro still front back split
    apply (lowerSigma_eq_alone_iff before front back after).mpr
    intro turns
    exact still ⟨front, back, split, turns⟩

end Imperative.Text
