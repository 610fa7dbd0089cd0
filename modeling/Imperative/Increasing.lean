/-! Finite sets as strictly increasing lists. The order decides both where an
element stands and whether it is already there, so equal sets are equal lists. -/
namespace Imperative

structure Increasing (α : Type) [LT α] where
  toList : List α
  increasing : toList.Pairwise (· < ·)

namespace Increasing

variable {α : Type} [LT α]

/-- Puts an element at its place; one that is already there stays alone. -/
def place [DecidableLT α] (a : α) : List α → List α
  | [] => [a]
  | b :: bs =>
    if a < b then a :: b :: bs
    else if b < a then b :: place a bs
    else b :: bs

theorem mem_place [DecidableLT α] [Std.Trichotomous (α := α) (· < ·)] {a x : α} {l : List α} :
    x ∈ place a l ↔ x = a ∨ x ∈ l := by
  induction l with
  | nil => simp [place]
  | cons b bs ih =>
    unfold place
    split
    · simp
    · split
      · simp only [List.mem_cons, ih]
        grind
      · next above below =>
        obtain rfl := Std.Trichotomous.trichotomous (r := (· < · : α → α → Prop)) a b above below
        simp

theorem pairwise_place [DecidableLT α] [Trans (α := α) (β := α) (γ := α) (· < ·) (· < ·) (· < ·)]
    [Std.Trichotomous (α := α) (· < ·)] {a : α} {l : List α} (sorted : l.Pairwise (· < ·)) :
    (place a l).Pairwise (· < ·) := by
  induction l with
  | nil => simp [place]
  | cons b bs ih =>
    obtain ⟨least, rest⟩ := List.pairwise_cons.mp sorted
    unfold place
    split
    · next above =>
      refine List.pairwise_cons.mpr ⟨fun x member => ?_, sorted⟩
      rcases List.mem_cons.mp member with rfl | member
      · exact above
      · exact Trans.trans above (least x member)
    · split
      · next below =>
        refine List.pairwise_cons.mpr ⟨fun x member => ?_, ih rest⟩
        rcases mem_place.mp member with rfl | member
        · exact below
        · exact least x member
      · exact sorted

def empty : Increasing α := ⟨[], .nil⟩

variable [DecidableLT α] [Trans (α := α) (β := α) (γ := α) (· < ·) (· < ·) (· < ·)]
  [Std.Trichotomous (α := α) (· < ·)]

def insert (s : Increasing α) (a : α) : Increasing α :=
  ⟨place a s.toList, pairwise_place s.increasing⟩

def insertAll (s : Increasing α) (elements : List α) : Increasing α :=
  elements.foldl insert s

def ofList (elements : List α) : Increasing α := empty.insertAll elements

theorem mem_insert {s : Increasing α} {a x : α} :
    x ∈ (s.insert a).toList ↔ x = a ∨ x ∈ s.toList := mem_place

theorem mem_insertAll {s : Increasing α} {elements : List α} {x : α} :
    x ∈ (s.insertAll elements).toList ↔ x ∈ elements ∨ x ∈ s.toList := by
  induction elements generalizing s with
  | nil => simp [insertAll]
  | cons a rest ih =>
    rw [insertAll, List.foldl_cons]
    refine ih.trans ?_
    rw [mem_insert, List.mem_cons]
    grind

theorem mem_ofList {elements : List α} {x : α} : x ∈ (ofList elements).toList ↔ x ∈ elements := by
  simp [ofList, mem_insertAll, empty]

end Increasing
end Imperative
