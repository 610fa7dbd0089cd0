import Imperative.Proofs.Lexicon.Building
import Mathlib.Algebra.BigOperators.Group.Finset.Basic
import Mathlib.Algebra.GroupWithZero.Nat
import Mathlib.Data.List.Perm.Basic

/-! Words for which the order of priority matters. They are the words of more than one class, and
these are the conflicts. Counted by words, the size of a lexicon is one entry for each word and
one more for each further class; where it is the number of words, the order decides nothing. -/
namespace Imperative

namespace Lexicon

variable {lexicon : Lexicon} {c d : WordClass} {word : Text} {order : List WordClass}

/-! The classes of a word. -/

theorem mem_classesOf : c ∈ lexicon.classesOf word ↔ lexicon.contains c word = true := by
  simp [classesOf, WordClass.mem_priority]

theorem nodup_classesOf (lexicon : Lexicon) (word : Text) : (lexicon.classesOf word).Nodup :=
  WordClass.nodup_priority.filter _

theorem length_classesOf_pos (listed : word ∈ lexicon.allWords) :
    0 < (lexicon.classesOf word).length := by
  obtain ⟨c, here⟩ := mem_allWords.mp listed
  exact List.length_pos_of_mem (mem_classesOf.mpr here)

theorem classifyBy_of_ne_nil (order : List WordClass) (nonempty : word ≠ []) :
    lexicon.classifyBy order (some word) =
      ((order.filter (lexicon.contains · word)).head?.map Category.word).getD .unknown := by
  obtain ⟨first, rest, rfl⟩ := List.exists_cons_of_ne_nil nonempty
  simp only [classifyBy, List.head?_filter]
  cases order.find? (lexicon.contains · (first :: rest)) <;> rfl

/-- A listed word counts as the first of its classes. -/
theorem classify_eq_head (listed : word ∈ lexicon.allWords) : ∃ c,
    (lexicon.classesOf word).head? = some c ∧ lexicon.classify (some word) = .word c := by
  obtain ⟨c, here⟩ := mem_allWords.mp listed
  have some := List.ne_nil_of_length_pos (length_classesOf_pos listed)
  obtain ⟨first, rest, split⟩ := List.exists_cons_of_ne_nil some
  refine ⟨first, by rw [split]; rfl, ?_⟩
  rw [classify, classifyBy_of_ne_nil _ (ne_nil_of_contains here)]
  exact congrArg (fun classes : List WordClass => (classes.head?.map Category.word).getD .unknown) split

/-! Orders of the classes. -/

/-- A word of one class at most counts the same in every order. -/
theorem classifyBy_eq_of_length_le (perm : order.Perm WordClass.priority)
    (single : (lexicon.classesOf word).length ≤ 1) :
    lexicon.classifyBy order (some word) = lexicon.classify (some word) := by
  by_cases empty : word = []
  · subst word
    rfl
  · have same : (order.filter (lexicon.contains · word)).Perm (lexicon.classesOf word) := perm.filter _
    have equal : order.filter (lexicon.contains · word) = lexicon.classesOf word := by
      cases classes : lexicon.classesOf word with
      | nil => exact (classes ▸ same).eq_nil
      | cons first rest =>
        rw [classes, List.length_cons] at single
        obtain rfl : rest = [] := List.length_eq_zero_iff.mp (by omega)
        rw [classes] at same
        exact List.perm_singleton.mp same
    rw [classify, classifyBy_of_ne_nil _ empty, classifyBy_of_ne_nil _ empty, equal]
    rfl

/-- A class that lists a word goes before all others in some order. -/
theorem exists_order_first (listed : lexicon.contains c word = true) :
    ∃ order, order.Perm WordClass.priority ∧ lexicon.classifyBy order (some word) = .word c := by
  refine ⟨c :: WordClass.priority.erase c, ?_, ?_⟩
  · exact (List.perm_cons_erase (WordClass.mem_priority c)).symm
  · have first : (c :: WordClass.priority.erase c).filter (lexicon.contains · word) =
        c :: (WordClass.priority.erase c).filter (lexicon.contains · word) :=
      List.filter_cons_of_pos listed
    rw [classifyBy_of_ne_nil _ (ne_nil_of_contains listed), first]
    rfl

/-- The order matters to a word exactly if it has more classes than one: the second goes first
in another order. -/
theorem one_lt_length_iff : 1 < (lexicon.classesOf word).length ↔ ∃ order,
    order.Perm WordClass.priority ∧
      lexicon.classifyBy order (some word) ≠ lexicon.classify (some word) := by
  constructor
  · intro several
    cases classes : lexicon.classesOf word with
    | nil => simp [classes] at several
    | cons c others =>
      cases others with
      | nil => simp [classes] at several
      | cons d rest =>
        have there : lexicon.contains d word = true := mem_classesOf.mp (by simp [classes])
        have other : c ≠ d := by
          have once := nodup_classesOf lexicon word
          rw [classes, List.nodup_cons] at once
          rintro rfl
          exact once.1 List.mem_cons_self
        obtain ⟨first, head, counts⟩ := classify_eq_head (mem_allWords.mpr ⟨d, there⟩)
        obtain rfl : c = first := by simpa [classes] using head
        obtain ⟨order, perm, instead⟩ := exists_order_first there
        refine ⟨order, perm, ?_⟩
        rw [instead, counts]
        exact fun same => other (Category.word.inj same).symm
  · rintro ⟨order, perm, changes⟩
    by_contra single
    exact changes (classifyBy_eq_of_length_le perm (Nat.not_lt.mp single))

/-! The conflicts. -/

theorem conflicts_eq (lexicon : Lexicon) : lexicon.conflicts =
    (lexicon.allWords.filter fun word => 1 < (lexicon.classesOf word).length).map
      fun word => (word, lexicon.classesOf word) := by
  rw [conflicts, List.filter_map]
  rfl

theorem mem_conflicts {classes : List WordClass} : (word, classes) ∈ lexicon.conflicts ↔
    classes = lexicon.classesOf word ∧ 1 < classes.length := by
  rw [conflicts_eq, List.mem_map]
  constructor
  · rintro ⟨other, member, same⟩
    obtain ⟨rfl, rfl⟩ := Prod.mk.inj same
    exact ⟨rfl, of_decide_eq_true (List.mem_filter.mp member).2⟩
  · rintro ⟨rfl, several⟩
    obtain ⟨c, member⟩ := List.exists_mem_of_length_pos (Nat.lt_of_succ_lt several)
    have listed : word ∈ lexicon.allWords := mem_allWords.mpr ⟨c, mem_classesOf.mp member⟩
    exact ⟨word, List.mem_filter.mpr ⟨listed, decide_eq_true several⟩, rfl⟩

theorem map_conflicts (lexicon : Lexicon) : lexicon.conflicts.map (·.1) =
    lexicon.allWords.filter fun word => 1 < (lexicon.classesOf word).length := by
  rw [conflicts_eq, List.map_map]
  exact List.map_id _

/-! The size, counted by words. -/

/-- The pairs of one word are its classes. -/
theorem card_pairs_of (lexicon : Lexicon) (word : Text) :
    (lexicon.pairs.filter (·.2 = word)).card = (lexicon.classesOf word).length := by
  have once : ((lexicon.classesOf word).map fun c => (c, word)).Nodup :=
    (nodup_classesOf lexicon word).map fun c d same => (Prod.mk.inj same).1
  have same : lexicon.pairs.filter (·.2 = word) =
      ((lexicon.classesOf word).map fun c => (c, word)).toFinset := by
    ext ⟨c, other⟩
    rw [Finset.mem_filter, mem_pairs, List.mem_toFinset, List.mem_map]
    constructor
    · rintro ⟨listed, rfl⟩
      exact ⟨c, mem_classesOf.mpr listed, rfl⟩
    · rintro ⟨d, member, same⟩
      obtain ⟨rfl, rfl⟩ := Prod.mk.inj same
      exact ⟨mem_classesOf.mp member, rfl⟩
  rw [same, List.toFinset_card_of_nodup once, List.length_map]

theorem size_eq_sum (lexicon : Lexicon) :
    lexicon.size = (lexicon.allWords.map fun word => (lexicon.classesOf word).length).sum := by
  have once : lexicon.allWords.Nodup := by
    refine (pairwise_allWords lexicon).imp fun {a b} below same => ?_
    rw [same] at below
    exact List.lt_irrefl _ below
  have inside : ∀ pair ∈ lexicon.pairs, pair.2 ∈ lexicon.allWords.toFinset := fun pair member =>
    List.mem_toFinset.mpr (mem_allWords.mpr ⟨pair.1, mem_pairs.mp member⟩)
  rw [← card_pairs, Finset.card_eq_sum_card_fiberwise inside, ← List.sum_toFinset _ once]
  exact Finset.sum_congr rfl fun word _ => card_pairs_of lexicon word

/-- A sum of positive numbers is one for each, and what those above one go beyond it. -/
theorem sum_eq_length_add {α : Type} {items : List α} {count : α → Nat}
    (positive : ∀ item ∈ items, 0 < count item) : (items.map count).sum =
      items.length + ((items.filter (1 < count ·)).map (count · - 1)).sum := by
  induction items with
  | nil => rfl
  | cons item rest ih =>
    obtain ⟨first, others⟩ := List.forall_mem_cons.mp positive
    have tail := ih others
    by_cases several : 1 < count item
    · simp only [List.filter_cons, several, decide_true, if_true, List.map_cons, List.sum_cons,
        List.length_cons, tail]
      omega
    · simp only [List.filter_cons, several, decide_false, Bool.false_eq_true, if_false,
        List.map_cons, List.sum_cons, List.length_cons, tail]
      omega

theorem size_eq (lexicon : Lexicon) : lexicon.size =
    lexicon.allWords.length + (lexicon.conflicts.map (·.2.length - 1)).sum := by
  rw [size_eq_sum, sum_eq_length_add fun word listed => length_classesOf_pos listed, conflicts_eq,
    List.map_map]
  rfl

theorem conflicts_eq_nil_iff :
    lexicon.conflicts = [] ↔ lexicon.size = lexicon.allWords.length := by
  have counted := size_eq lexicon
  constructor
  · intro none
    rw [counted, none]
    rfl
  · intro same
    cases conflicts : lexicon.conflicts with
    | nil => rfl
    | cons conflict rest =>
      have listed : conflict ∈ lexicon.conflicts := conflicts ▸ List.mem_cons_self
      have counts : 1 ≤ conflict.2.length - 1 := Nat.le_sub_of_add_le (mem_conflicts.mp listed).2
      rw [conflicts, List.map_cons, List.sum_cons] at counted
      omega

theorem classifyBy_eq_of_no_conflicts (none : lexicon.conflicts = [])
    (perm : order.Perm WordClass.priority) : lexicon.classifyBy order = lexicon.classify := by
  funext token
  cases token with
  | none => rfl
  | some word =>
    refine classifyBy_eq_of_length_le perm (Nat.not_lt.mp fun several => ?_)
    have member : (word, lexicon.classesOf word) ∈ lexicon.conflicts :=
      mem_conflicts.mpr ⟨rfl, several⟩
    rw [none] at member
    contradiction

/-- The conflicts of a lexicon are the words for which the order of priority matters: those that
some other order of the classes would have count as something else. They stand in the order of
their characters, each once and with all its classes in the order of priority, the first of
which it counts as. The size is the number of words, and one more for each further class of
a conflict. So there are no conflicts exactly if the size is the number of words, and then all
lines are read alike in all orders. -/
theorem conflicts_by_priority (lexicon : Lexicon) :
    (lexicon.conflicts.map (·.1)).Pairwise (· < ·) ∧
    (∀ word, word ∈ lexicon.conflicts.map (·.1) ↔ ∃ order, order.Perm WordClass.priority ∧
      lexicon.classifyBy order (some word) ≠ lexicon.classify (some word)) ∧
    (∀ word classes, (word, classes) ∈ lexicon.conflicts →
      classes = WordClass.priority.filter (lexicon.contains · word) ∧
      ∃ c, classes.head? = some c ∧ lexicon.classify (some word) = .word c) ∧
    lexicon.size = lexicon.allWords.length + (lexicon.conflicts.map (·.2.length - 1)).sum ∧
    (lexicon.conflicts = [] ↔ lexicon.size = lexicon.allWords.length) ∧
    (lexicon.conflicts = [] → ∀ order, order.Perm WordClass.priority →
      lexicon.classifyBy order = lexicon.classify ∧
      ∀ line, Line.parseBy (lexicon.classifyBy order) line = Line.parse lexicon line) := by
  refine ⟨?sorted, fun word => ?words, fun word classes member => ?classes, size_eq lexicon,
    conflicts_eq_nil_iff, fun none order perm => ?independent⟩
  case sorted =>
    rw [map_conflicts]
    exact (pairwise_allWords lexicon).filter _
  case words =>
    rw [← one_lt_length_iff, List.mem_map]
    constructor
    · rintro ⟨⟨other, classes⟩, member, rfl⟩
      obtain ⟨rfl, several⟩ := mem_conflicts.mp member
      exact several
    · intro several
      exact ⟨(word, _), mem_conflicts.mpr ⟨rfl, several⟩, rfl⟩
  case classes =>
    obtain ⟨rfl, several⟩ := mem_conflicts.mp member
    obtain ⟨c, member⟩ := List.exists_mem_of_length_pos (Nat.lt_of_succ_lt several)
    exact ⟨rfl, classify_eq_head (mem_allWords.mpr ⟨c, mem_classesOf.mp member⟩)⟩
  case independent =>
    have same := classifyBy_eq_of_no_conflicts none perm
    refine ⟨same, fun line => ?_⟩
    rw [same, Line.parse]

/-- Listed twice under one class, a word is no conflict. -/
example : (ofLists [(.word .pronoun, ["her".toList]), (.word .noun, ["key".toList, "key".toList]),
    (.word .adjective, ["her".toList])]).conflicts = [("her".toList, [.adjective, .pronoun])] := by
  decide +kernel

end Lexicon
end Imperative
