import Imperative.Text

/-! Offsets counted in UTF-8 bytes. A cut exists only between two characters, so
slicing is partial: it fails at an offset inside a character or past the end. -/
namespace Imperative.Text

def byteSize : Text → Nat
  | [] => 0
  | c :: cs => c.utf8Size + byteSize cs

/-- The two parts of a text at a byte offset. -/
def cutAt? : Text → Nat → Option (Text × Text)
  | [], offset => if offset = 0 then some ([], []) else none
  | c :: cs, offset =>
    if offset = 0 then some ([], c :: cs)
    else if c.utf8Size ≤ offset then
      (cutAt? cs (offset - c.utf8Size)).map fun parts => (c :: parts.1, parts.2)
    else none

/-- The characters of a text with the offsets at which they stand, the first of them given. -/
def offsetsFrom (first : Nat) : Text → List (Nat × Char)
  | [] => []
  | c :: cs => (first, c) :: offsetsFrom (first + c.utf8Size) cs

/-- The part between two byte offsets. -/
def slice? (t : Text) (first last : Nat) : Option Text :=
  if first ≤ last then
    (t.cutAt? first).bind fun parts => (parts.2.cutAt? (last - first)).map (·.1)
  else none

theorem byteSize_append (a b : Text) : byteSize (a ++ b) = byteSize a + byteSize b := by
  induction a with
  | nil => simp [byteSize]
  | cons c cs ih => simp only [List.cons_append, byteSize, ih, Nat.add_assoc]

theorem byteSize_eq_zero_iff {t : Text} : byteSize t = 0 ↔ t = [] := by
  cases t with
  | nil => exact iff_of_true rfl rfl
  | cons c cs =>
    have := c.utf8Size_pos
    simp only [byteSize, List.cons_ne_nil, iff_false]
    omega

/-- A cut after a part is always possible, and finds that part. -/
theorem cutAt?_append (a b : Text) : cutAt? (a ++ b) (byteSize a) = some (a, b) := by
  induction a with
  | nil => cases b <;> simp [byteSize, cutAt?]
  | cons c cs ih =>
    have pos := c.utf8Size_pos
    rw [byteSize, List.cons_append, cutAt?, if_neg (by omega), if_pos (by omega),
      Nat.add_sub_cancel_left, ih]
    rfl

@[simp]
theorem byteSize_nil : byteSize [] = 0 := rfl

theorem map_offsetsFrom (first : Nat) (t : Text) : (offsetsFrom first t).map (·.2) = t := by
  induction t generalizing first with
  | nil => rfl
  | cons c cs ih => rw [offsetsFrom, List.map_cons, ih]

theorem offsetsFrom_append (first : Nat) (a b : Text) :
    offsetsFrom first (a ++ b) = offsetsFrom first a ++ offsetsFrom (first + byteSize a) b := by
  induction a generalizing first with
  | nil => rfl
  | cons c cs ih => rw [List.cons_append, offsetsFrom, ih, offsetsFrom, byteSize, Nat.add_assoc]; rfl

theorem getElem?_offsetsFrom (first : Nat) (t : Text) (count : Nat) :
    (offsetsFrom first t)[count]? = t[count]?.map (first + byteSize (t.take count), ·) := by
  induction t generalizing first count with
  | nil => rfl
  | cons c cs ih =>
    cases count with
    | zero => rfl
    | succ count =>
      rw [offsetsFrom, List.getElem?_cons_succ, ih, List.getElem?_cons_succ, List.take_succ_cons,
        byteSize, Nat.add_assoc]

/-- A part of a text is what stands between the offsets of its ends. -/
theorem slice?_append (a b c : Text) :
    slice? (a ++ b ++ c) (byteSize a) (byteSize a + byteSize b) = some b := by
  rw [slice?, if_pos (Nat.le_add_right _ _), List.append_assoc, cutAt?_append, Nat.add_sub_cancel_left,
    Option.bind_some, cutAt?_append]
  rfl

/-- Every cut loses nothing and stands at its offset. -/
theorem eq_append_of_cutAt? {t : Text} {offset : Nat} {a b : Text}
    (cut : cutAt? t offset = some (a, b)) : t = a ++ b ∧ byteSize a = offset := by
  induction t generalizing offset a with
  | nil =>
    simp only [cutAt?] at cut
    split at cut <;> simp_all
  | cons c cs ih =>
    simp only [cutAt?] at cut
    split at cut
    · simp_all
    · split at cut
      · obtain ⟨⟨a', b'⟩, inner, same⟩ := Option.map_eq_some_iff.mp cut
        obtain ⟨rfl, rfl⟩ := Prod.mk.inj same
        obtain ⟨rfl, size⟩ := ih inner
        refine ⟨rfl, ?_⟩
        simp only [byteSize]
        omega
      · contradiction

theorem slice?_eq_some_iff {t part : Text} {first last : Nat} : slice? t first last = some part ↔
    ∃ a b, t = a ++ part ++ b ∧ byteSize a = first ∧ byteSize (a ++ part) = last := by
  constructor
  · intro found
    rw [slice?] at found
    split at found
    · next ordered =>
      obtain ⟨⟨a, rest⟩, front, found⟩ := Option.bind_eq_some_iff.mp found
      obtain ⟨⟨middle, b⟩, back, rfl⟩ := Option.map_eq_some_iff.mp found
      obtain ⟨rfl, start⟩ := eq_append_of_cutAt? front
      obtain ⟨rfl, size⟩ := eq_append_of_cutAt? back
      refine ⟨a, b, (List.append_assoc ..).symm, start, ?_⟩
      rw [byteSize_append, start, size, Nat.add_sub_cancel' ordered]
    · contradiction
  · rintro ⟨a, b, rfl, rfl, rfl⟩
    rw [byteSize_append]
    exact slice?_append a part b

/-- A part that begins a text can be cut off at its end. -/
theorem slice?_zero_iff {t a : Text} {offset : Nat} :
    slice? t 0 offset = some a ↔ ∃ b, t = a ++ b ∧ byteSize a = offset := by
  rw [slice?_eq_some_iff]
  constructor
  · rintro ⟨front, b, rfl, none, size⟩
    obtain rfl := byteSize_eq_zero_iff.mp none
    exact ⟨b, rfl, size⟩
  · rintro ⟨b, rfl, size⟩
    exact ⟨[], b, rfl, rfl, size⟩

end Imperative.Text
