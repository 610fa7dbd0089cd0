import Imperative.Proofs.Text.Lower
import Mathlib.Data.Bool.AllAny

/-! Capitals of the Latin alphabet. They differ from the small letters in nothing that
lowercasing looks at, so a text may be typed with any of them. -/
namespace Imperative.Text

variable {c : Char}

def capitals : Text := "ABCDEFGHIJKLMNOPQRSTUVWXYZ".toList

theorem toLower_eq_or_mem_capitals (c : Char) : c.toLower = c ∨ c ∈ capitals := by
  by_cases upper : c.val ≥ 'A'.val ∧ c.val ≤ 'Z'.val
  · right
    have low : 65 ≤ c.toNat := UInt32.le_iff_toNat_le.mp upper.1
    have high : c.toNat ≤ 90 := UInt32.le_iff_toNat_le.mp upper.2
    have listed : ∀ n < 26, Char.ofNat (65 + n) ∈ capitals := by decide
    have place := listed (c.toNat - 65) (by omega)
    rwa [Nat.add_sub_cancel' low, Char.ofNat_toNat] at place
  · left
    exact dif_neg upper

theorem capitals_data : ∀ c ∈ capitals, lowerChar c = [c.toLower] ∧ isCased c = true ∧
    isCased c.toLower = true ∧ c ≠ capitalSigma ∧ 65 ≤ c.toNat ∧ c.toNat ≤ 90 ∧
    97 ≤ c.toLower.toNat ∧ c.toLower.toNat ≤ 122 :=
  List.all_iff_forall_prop.mp (by decide +kernel)

theorem capital_not_ignorable (capital : c ∈ capitals) :
    isCaseIgnorable c = false ∧ isCaseIgnorable c.toLower = false := by
  obtain ⟨_, _, _, _, low, high, smallLow, smallHigh⟩ := capitals_data c capital
  have large : caseIgnorableRanges.apart 65 90 = true := by decide +kernel
  have small : caseIgnorableRanges.apart 97 122 = true := by decide +kernel
  exact ⟨Ranges.not_holds_of_apart large low high,
    Ranges.not_holds_of_apart small smallLow smallHigh⟩

theorem meetsCased_map_toLower (t : Text) : meetsCased (t.map Char.toLower) = meetsCased t := by
  have data (c : Char) : isCased c.toLower = isCased c ∧
      isCaseIgnorable c.toLower = isCaseIgnorable c := by
    rcases toLower_eq_or_mem_capitals c with same | capital
    · rw [same]
      exact ⟨rfl, rfl⟩
    · obtain ⟨_, large, small, _⟩ := capitals_data c capital
      obtain ⟨passes, passesSmall⟩ := capital_not_ignorable capital
      exact ⟨small.trans large.symm, passesSmall.trans passes.symm⟩
  unfold meetsCased
  have passed : isCaseIgnorable ∘ Char.toLower = isCaseIgnorable := funext fun c => (data c).2
  rw [List.dropWhile_map, passed]
  cases t.dropWhile isCaseIgnorable with
  | nil => rfl
  | cons c cs => exact (data c).1

theorem lowerCharIn_toLower {before after earlier later : Text} (c : Char)
    (back : meetsCased before = meetsCased earlier) (ahead : meetsCased after = meetsCased later) :
    lowerCharIn before after c.toLower = lowerCharIn earlier later c := by
  rcases toLower_eq_or_mem_capitals c with same | capital
  · rw [same, lowerCharIn, lowerCharIn, lowerSigma_congr back ahead]
  · obtain ⟨form, _, _, other, _⟩ := capitals_data c capital
    have settled : Settled c.toLower := settled_of_mem_lowerChar (c := c) (by simp [form])
    rw [lowerCharIn_settled settled, lowerCharIn, if_neg other, form]

theorem lowerIn_map_toLower (before t after : Text) :
    lowerIn (before.map Char.toLower) (t.map Char.toLower) (after.map Char.toLower) =
      lowerIn before t after := by
  induction t generalizing before with
  | nil => rfl
  | cons c cs ih =>
    have ahead : meetsCased (cs.map Char.toLower ++ after.map Char.toLower) =
        meetsCased (cs ++ after) := by
      rw [← List.map_append, meetsCased_map_toLower]
    have first := lowerCharIn_toLower c (meetsCased_map_toLower before) ahead
    rw [List.map_cons, lowerIn, first, lowerIn]
    exact congrArg _ (ih (c :: before))

/-- Lowercasing a text does not see in which case its ASCII letters were typed. -/
theorem lower_map_toLower (t : Text) : lower (t.map Char.toLower) = lower t := by
  rw [lower_eq_lowerIn, lower_eq_lowerIn]
  exact lowerIn_map_toLower [] t []

theorem isBlankChar_toLower (c : Char) : isBlankChar c.toLower = isBlankChar c := by
  have data : ∀ c ∈ capitals, isBlankChar c.toLower = isBlankChar c :=
    List.all_iff_forall_prop.mp (by decide)
  rcases toLower_eq_or_mem_capitals c with same | capital
  · rw [same]
  · exact data c capital

end Imperative.Text
