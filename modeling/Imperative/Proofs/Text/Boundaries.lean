import Imperative.Text.Offset

/-! Offsets between characters. They are the valid positions in the UTF-8 form of a text. A
slice exists exactly between two of them, the second of which is not before the first. -/
namespace Imperative.Text

variable {t : Text} {offset first last : Nat}

/-- The UTF-8 form of a text can be divided at an offset: no character lies across it. -/
def AtBoundary (t : Text) (offset : Nat) : Prop :=
  String.Pos.Raw.IsValid (String.ofList t) ⟨offset⟩

theorem byteSize_eq_utf8ByteSize (t : Text) : byteSize t = (String.ofList t).utf8ByteSize := by
  induction t with
  | nil => rfl
  | cons c cs ih =>
    have first : (String.ofList [c]).utf8ByteSize = c.utf8Size := by
      rw [← String.singleton_eq_ofList, String.utf8ByteSize_singleton]
    rw [byteSize, ih, ← List.singleton_append, String.ofList_append, String.utf8ByteSize_append, first]

theorem atBoundary_iff : AtBoundary t offset ↔ ∃ a b, t = a ++ b ∧ byteSize a = offset := by
  rw [AtBoundary, String.Pos.Raw.isValid_ofList]
  constructor
  · rintro ⟨count, size⟩
    exact ⟨t.take count, t.drop count, (List.take_append_drop count t).symm,
      (byteSize_eq_utf8ByteSize _).trans size.symm⟩
  · rintro ⟨a, b, rfl, rfl⟩
    refine ⟨a.length, ?_⟩
    rw [List.take_left, ← byteSize_eq_utf8ByteSize]

theorem AtBoundary.le (boundary : AtBoundary t offset) : offset ≤ byteSize t := by
  obtain ⟨a, b, rfl, rfl⟩ := atBoundary_iff.mp boundary
  rw [byteSize_append]
  exact Nat.le_add_right _ _

/-- A slice is missing only if its ends are out of order or one of them is no boundary. -/
theorem slice?_exists_iff : (∃ part, slice? t first last = some part) ↔
    first ≤ last ∧ AtBoundary t first ∧ AtBoundary t last := by
  constructor
  · rintro ⟨part, found⟩
    obtain ⟨a, b, rfl, rfl, rfl⟩ := slice?_eq_some_iff.mp found
    refine ⟨?_, atBoundary_iff.mpr ⟨a, part ++ b, List.append_assoc .., rfl⟩,
      atBoundary_iff.mpr ⟨a ++ part, b, rfl, rfl⟩⟩
    rw [byteSize_append]
    exact Nat.le_add_right _ _
  · rintro ⟨ordered, opens, closes⟩
    obtain ⟨a, rest, rfl, rfl⟩ := atBoundary_iff.mp opens
    obtain ⟨front, b, split, rfl⟩ := atBoundary_iff.mp closes
    rcases List.append_eq_append_iff.mp split with ⟨part, rfl, rfl⟩ | ⟨excess, rfl, rfl⟩
    · exact ⟨part, slice?_eq_some_iff.mpr ⟨a, b, (List.append_assoc ..).symm, rfl, rfl⟩⟩
    · rw [byteSize_append] at ordered
      obtain rfl : excess = [] := byteSize_eq_zero_iff.mp (by omega)
      exact ⟨[], slice?_eq_some_iff.mpr ⟨front, rest, by simp, by simp, by simp⟩⟩

end Imperative.Text
