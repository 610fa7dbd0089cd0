import Imperative.Lexicon.Definition
import Imperative.Proofs.Completion.LastToken
import Imperative.Proofs.Text.Places

/-! What part of a word brings up the word. The typed part is lowercased by itself, and the
word was lowercased as a whole. The part begins the word, unless it breaks off behind a
capital sigma: there a word seems to end, and the sigma gets its final form. -/
namespace Imperative
open Text

variable {lexicon : Lexicon} {t u w : Text}

namespace Text

/-- A text that breaks off behind a sigma, marks apart, which is final as far as the text goes,
though a letter is still to come. -/
def BreaksAtSigma (t u : Text) : Prop :=
  ∃ front marks, t = front ++ capitalSigma :: marks ∧ meetsCased front.reverse = true ∧
    marks.all isCaseIgnorable = true ∧ meetsCased u = true

/-- Where nothing stands before a text, a sigma turns only if the text breaks off at it. -/
theorem sigmaTurns_nil_iff : SigmaTurns [] t u ↔ BreaksAtSigma t u := by
  refine exists_congr fun front => exists_congr fun marks => and_congr_right fun _ => ?_
  have none : meetsCased [] = false := rfl
  simp [TurnsBetween, none]

/-- A text goes on being a part of its continuation when both are lowercased, unless it breaks
off at a sigma. -/
theorem lower_prefix_iff : lower t <+: lower (t ++ u) ↔ ¬ BreaksAtSigma t u := by
  have parts : lower (t ++ u) = lowerIn [] t u ++ lowerIn t.reverse u [] := by
    rw [lower_eq_lowerIn, lowerIn_append, List.append_nil, List.append_nil]
  have length : (lower t).length = (lowerIn [] t u).length := by
    rw [lower_eq_lowerIn, length_lowerIn]
  have first : lowerIn [] t u <+: lower (t ++ u) := parts ▸ List.prefix_append _ _
  have alone : lowerIn [] t u = lower t ↔ ¬ BreaksAtSigma t u := by
    rw [← sigmaTurns_nil_iff]
    exact lowerIn_eq_lower_iff [] t u
  rw [← alone]
  constructor
  · intro begins
    have same := List.prefix_of_prefix_length_le begins first (Nat.le_of_eq length)
    exact (same.eq_of_length length).symm
  · intro same
    rwa [same] at first

end Text

namespace Completion

/-- With the cursor at its end, the line is completed from its start, and the word is offered. -/
def Offers (lexicon : Lexicon) (line word : Text) : Prop :=
  ∃ completion, complete? lexicon line (byteSize line) = some completion ∧
    completion.start = 0 ∧ .ofWord word ∈ completion.candidates

theorem complete?_unbroken (lexicon : Lexicon) (unbroken : Unbroken t) :
    complete? lexicon t (byteSize t) = some ⟨0, continuations lexicon t⟩ := by
  have place : PieceAt isDelimiter t [] t [] := ⟨by simp, unbroken, by simp, by simp⟩
  have whole := complete?_eq lexicon place []
  rwa [List.append_nil] at whole

theorem ofWord_mem_continuations : .ofWord w ∈ continuations lexicon t ↔
    w ∈ lexicon.allWords ∧ lower t <+: w := by
  rw [← mem_inserted]
  constructor
  · exact fun member => List.mem_map_of_mem member
  · intro member
    obtain ⟨candidate, inside, rfl⟩ := List.mem_map.mp member
    obtain ⟨word, _, rfl⟩ := List.mem_map.mp inside
    exact inside

theorem offers_iff (unbroken : Unbroken (t ++ u)) (listed : lower (t ++ u) ∈ lexicon.allWords) :
    Offers lexicon t (lower (t ++ u)) ↔ ¬ BreaksAtSigma t u := by
  have found := complete?_unbroken lexicon (unbroken_append.mp unbroken).1
  rw [← lower_prefix_iff]
  constructor
  · rintro ⟨completion, same, _, member⟩
    obtain rfl := Option.some.inj (found.symm.trans same)
    exact (ofWord_mem_continuations.mp member).2
  · intro begins
    exact ⟨_, found, rfl, ofWord_mem_continuations.mpr ⟨listed, begins⟩⟩

/-- Any part of a listed word, in any case, is completed from the start of the line. The word is
among the candidates exactly if the part does not break off at a sigma. So a word that is not
offered comes up as more of it is typed exactly if what was typed broke off at a sigma and
does so no longer. -/
theorem offered_exactly (unbroken : Unbroken (t ++ u)) (listed : lower (t ++ u) ∈ lexicon.allWords) :
    (∃ completion, complete? lexicon t (byteSize t) = some completion ∧ completion.start = 0) ∧
    (Offers lexicon t (lower (t ++ u)) ↔ ¬ BreaksAtSigma t u) ∧
    ∀ v rest, u = v ++ rest →
      (¬ Offers lexicon t (lower (t ++ u)) ∧ Offers lexicon (t ++ v) (lower (t ++ u)) ↔
        BreaksAtSigma t u ∧ ¬ BreaksAtSigma (t ++ v) rest) := by
  refine ⟨⟨_, complete?_unbroken lexicon (unbroken_append.mp unbroken).1, rfl⟩,
    offers_iff unbroken listed, ?_⟩
  rintro v rest rfl
  have now := offers_iff unbroken listed
  rw [← List.append_assoc] at unbroken listed now ⊢
  rw [now, offers_iff unbroken listed, not_not]

/-- A word of the source is lowercased to one with a sigma inside it. What is typed of it breaks
off there and brings up nothing; the next letter brings up the word. -/
theorem offered_at_medial_sigma :
    let typed : Text := "ΒΑΣ".toList
    let untyped : Text := "ΙΛΙΆΣ".toList
    let word : Text := "βασιλιάς".toList
    ∃ lexicon, Lexicon.read "noun: Βασιλιάς".toList = .ok lexicon ∧ lexicon.allWords = [word] ∧
      Unbroken (typed ++ untyped) ∧ lower (typed ++ untyped) = word ∧ BreaksAtSigma typed untyped ∧
      complete? lexicon typed (byteSize typed) = some ⟨0, []⟩ ∧
      ¬ Offers lexicon typed word ∧ Offers lexicon (typed ++ ['Ι']) word := by
  intro typed untyped word
  obtain ⟨lexicon, given⟩ : ∃ lexicon, Lexicon.read "noun: Βασιλιάς".toList = .ok lexicon := ⟨_, rfl⟩
  have listed : lexicon.allWords = [word] := by
    rw [← Except.ok.inj given]
    decide +kernel
  have unbroken : Unbroken (typed ++ untyped) := by decide
  have spelled : lower (typed ++ untyped) = word := by decide +kernel
  have breaks : BreaksAtSigma typed untyped :=
    ⟨"ΒΑ".toList, [], by decide, by decide +kernel, rfl, by decide +kernel⟩
  have on : ¬ BreaksAtSigma (typed ++ ['Ι']) "ΛΙΆΣ".toList := by
    refine lower_prefix_iff.mp ?_
    decide +kernel
  have member : lower (typed ++ untyped) ∈ lexicon.allWords := by simp [spelled, listed]
  obtain ⟨_, _, comesUp⟩ := offered_exactly unbroken member
  have appears := (comesUp ['Ι'] "ΛΙΆΣ".toList (by decide)).mpr ⟨breaks, on⟩
  rw [spelled] at appears
  have found : complete? lexicon typed (byteSize typed) = some ⟨0, []⟩ := by
    rw [← Except.ok.inj given]
    decide +kernel
  exact ⟨lexicon, given, listed, unbroken, spelled, breaks, found, appears⟩

end Completion
end Imperative
