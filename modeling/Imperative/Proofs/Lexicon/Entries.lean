import Imperative.Lexicon
import Mathlib.Data.List.Sort

/-! A lexicon by its entries. It is no more than the set of them: two lexicons that list the
same words under the same classes are one. A word counts as the first class in the order
of priority that lists it, and as unknown if none does. -/
namespace Imperative

namespace WordClass

variable {c d : WordClass}

theorem nodup_priority : priority.Nodup := by decide

theorem getElem_rank (c : WordClass) : priority[c.rank]? = some c := by
  cases c <;> rfl

theorem rank_le_of_find? {p : WordClass → Bool} (found : priority.find? p = some c)
    (other : p d = true) : c.rank ≤ d.rank := by
  obtain ⟨_, place, bound, here, earlier⟩ := List.find?_eq_some_iff_getElem.mp found
  have rank : c.rank = place := by
    rw [← here]
    exact nodup_priority.idxOf_getElem place bound
  rw [rank]
  by_contra below
  have skipped := earlier d.rank (by omega)
  obtain ⟨_, same⟩ := List.getElem?_eq_some_iff.mp (getElem_rank d)
  rw [same, other] at skipped
  contradiction

/-- The first class in the order of priority is the one of least rank. -/
theorem find?_priority_iff {p : WordClass → Bool} :
    priority.find? p = some c ↔ p c = true ∧ ∀ d, p d = true → c.rank ≤ d.rank := by
  constructor
  · intro found
    exact ⟨List.find?_some found, fun d other => rank_le_of_find? found other⟩
  · rintro ⟨here, least⟩
    cases found : priority.find? p with
    | none => exact absurd here (List.find?_eq_none.mp found c (mem_priority c))
    | some d =>
      have below := rank_le_of_find? found here
      have above := least d (List.find?_some found)
      rw [rank_injective (Nat.le_antisymm below above)]

end WordClass

namespace Entry

instance : Std.Asymm (α := Entry) (· < ·) where
  asymm a b below above := by
    rcases lt_iff.mp (Trans.trans below above : a < a) with rank | ⟨_, word⟩
    · exact Nat.lt_irrefl _ rank
    · exact List.lt_irrefl _ word

end Entry

namespace Lexicon

variable {lexicon other : Lexicon} {c d : WordClass} {word : Text}

theorem ne_nil_of_contains (listed : lexicon.contains c word = true) : word ≠ [] := by
  obtain ⟨entry, _, _, rfl⟩ := contains_iff.mp listed
  exact entry.nonempty

theorem contains_empty (c : WordClass) (word : Text) : empty.contains c word = false := rfl

theorem contains_insertAll {category : Category} {words : List Text} :
    (lexicon.insertAll category words).contains c word = true ↔
      (category = .word c ∧ word ∈ words ∧ word ≠ []) ∨ lexicon.contains c word = true := by
  induction words generalizing lexicon with
  | nil => simp [insertAll]
  | cons first rest ih =>
    rw [insertAll, List.foldl_cons]
    refine ih.trans ?_
    rw [contains_insert, List.mem_cons]
    grind

theorem mem_entries {entry : Entry} :
    entry ∈ lexicon.entries.toList ↔ lexicon.contains entry.wordClass entry.word = true := by
  rw [contains_iff]
  constructor
  · intro member
    exact ⟨entry, member, rfl, rfl⟩
  · rintro ⟨⟨c, word, _⟩, member, rfl, rfl⟩
    exact member

/-- Lexicons with the same entries are equal: the order in which they were listed is lost. -/
theorem ext_contains (same : ∀ c word, lexicon.contains c word = true ↔ other.contains c word = true) :
    lexicon = other := by
  have entries : lexicon.entries.toList = other.entries.toList :=
    lexicon.entries.increasing.eq_of_mem_iff other.entries.increasing fun entry => by
      rw [mem_entries, mem_entries, same]
  obtain ⟨⟨list, _⟩⟩ := lexicon
  obtain ⟨⟨otherList, _⟩⟩ := other
  obtain rfl : list = otherList := entries
  rfl

theorem mem_allWords : word ∈ lexicon.allWords ↔ ∃ c, lexicon.contains c word = true := by
  simp only [allWords, Increasing.mem_ofList, List.mem_map, contains_iff]
  constructor
  · rintro ⟨entry, member, rfl⟩
    exact ⟨entry.wordClass, entry, member, rfl, rfl⟩
  · rintro ⟨c, entry, member, _, rfl⟩
    exact ⟨entry, member, rfl⟩

theorem classify_of_ne_nil (nonempty : word ≠ []) : lexicon.classify (some word) =
    ((WordClass.priority.find? (lexicon.contains · word)).map Category.word).getD .unknown := by
  obtain ⟨first, rest, rfl⟩ := List.exists_cons_of_ne_nil nonempty
  simp only [classify, classifyBy]
  cases WordClass.priority.find? (lexicon.contains · (first :: rest)) <;> rfl

/-- A word that is listed counts as one of its classes, the first in the order of priority. -/
theorem classify_eq_word_iff : lexicon.classify (some word) = .word c ↔
    lexicon.contains c word = true ∧ ∀ d, lexicon.contains d word = true → c.rank ≤ d.rank := by
  by_cases empty : word = []
  · subst word
    have unlisted : lexicon.contains c [] ≠ true := fun listed => ne_nil_of_contains listed rfl
    simp [classify, classifyBy, unlisted]
  · refine Iff.trans ?_ (WordClass.find?_priority_iff (p := (lexicon.contains · word)))
    rw [classify_of_ne_nil empty]
    cases WordClass.priority.find? (lexicon.contains · word) <;> simp

theorem classify_eq_unknown_iff : lexicon.classify (some word) = .unknown ↔
    word ≠ [] ∧ ∀ c, lexicon.contains c word = false := by
  by_cases empty : word = []
  · subst word
    simp [classify, classifyBy]
  · have unlisted : WordClass.priority.find? (lexicon.contains · word) = none ↔
        ∀ c, lexicon.contains c word = false := by
      simp [List.find?_eq_none, WordClass.mem_priority]
    rw [← unlisted, classify_of_ne_nil empty]
    cases WordClass.priority.find? (lexicon.contains · word) <;> simp [empty]

end Lexicon
end Imperative
