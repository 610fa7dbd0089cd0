import Imperative.Category
import Imperative.Increasing

/-! A lexicon is a finite set of entries, each listing one word under one word
class. A word may be listed several times; classification follows an order of
the classes. -/
namespace Imperative

structure Entry where
  wordClass : WordClass
  word : Text
  nonempty : word ≠ []
  deriving DecidableEq

namespace Entry

/-- Entries stand by class, then by word. -/
instance : LT Entry where
  lt a b := a.wordClass.rank < b.wordClass.rank ∨ a.wordClass = b.wordClass ∧ a.word < b.word

instance : DecidableLT Entry := fun a b =>
  inferInstanceAs (Decidable
    (a.wordClass.rank < b.wordClass.rank ∨ a.wordClass = b.wordClass ∧ a.word < b.word))

theorem lt_iff {a b : Entry} : a < b ↔
    a.wordClass.rank < b.wordClass.rank ∨ a.wordClass = b.wordClass ∧ a.word < b.word := Iff.rfl

instance : Trans (α := Entry) (β := Entry) (γ := Entry) (· < ·) (· < ·) (· < ·) where
  trans {a b c} below above := by
    rcases lt_iff.mp below with rank₁ | ⟨same₁, word₁⟩ <;>
      rcases lt_iff.mp above with rank₂ | ⟨same₂, word₂⟩
    · exact .inl (Nat.lt_trans rank₁ rank₂)
    · exact .inl (same₂ ▸ rank₁)
    · exact .inl (same₁ ▸ rank₂)
    · exact .inr ⟨same₁.trans same₂, List.lt_trans word₁ word₂⟩

instance : Std.Trichotomous (α := Entry) (· < ·) where
  trichotomous a b notBelow notAbove := by
    obtain ⟨c, v, _⟩ := a
    obtain ⟨d, w, _⟩ := b
    simp only [lt_iff, not_or, not_and, Nat.not_lt] at notBelow notAbove
    obtain rfl : c = d := WordClass.rank_injective (Nat.le_antisymm notAbove.1 notBelow.1)
    obtain rfl : v = w :=
      List.le_antisymm (List.not_lt.mp (notAbove.2 rfl)) (List.not_lt.mp (notBelow.2 rfl))
    rfl

end Entry

structure Lexicon where
  entries : Increasing Entry

namespace Lexicon

def empty : Lexicon := ⟨.empty⟩

/-- Lists a word. Signals hold no words, and the empty text is none. -/
def insert (lexicon : Lexicon) (category : Category) (word : Text) : Lexicon :=
  match category with
  | .word c => if spelled : word ≠ [] then ⟨lexicon.entries.insert ⟨c, word, spelled⟩⟩ else lexicon
  | _ => lexicon

def insertAll (lexicon : Lexicon) (category : Category) (words : List Text) : Lexicon :=
  words.foldl (·.insert category ·) lexicon

/-- The lexicon of lists of words, each under its category. -/
def ofLists (lists : List (Category × List Text)) : Lexicon :=
  lists.foldl (fun lexicon list => lexicon.insertAll list.1 list.2) empty

def contains (lexicon : Lexicon) (c : WordClass) (word : Text) : Bool :=
  lexicon.entries.toList.any fun entry => entry.wordClass = c && entry.word = word

def words (lexicon : Lexicon) (c : WordClass) : List Text :=
  (lexicon.entries.toList.filter (·.wordClass = c)).map Entry.word

/-- Every word once, whatever it is listed under. -/
def allWords (lexicon : Lexicon) : List Text :=
  (Increasing.ofList (lexicon.entries.toList.map Entry.word)).toList

def size (lexicon : Lexicon) : Nat := lexicon.entries.toList.length

def isEmpty (lexicon : Lexicon) : Bool := lexicon.entries.toList.isEmpty

/-- The classes that list a word, first in priority first. -/
def classesOf (lexicon : Lexicon) (word : Text) : List WordClass :=
  WordClass.priority.filter (lexicon.contains · word)

/-- Reads a token by the first class of the order that lists it. -/
def classifyBy (order : List WordClass) (lexicon : Lexicon) : Option Text → Category
  | none => .finish
  | some [] => .empty
  | some word =>
    match order.find? (lexicon.contains · word) with
    | some c => .word c
    | none => .unknown

def classify (lexicon : Lexicon) (token : Option Text) : Category :=
  lexicon.classifyBy WordClass.priority token

/-- The words listed under more than one class. -/
def conflicts (lexicon : Lexicon) : List (Text × List WordClass) :=
  (lexicon.allWords.map fun word => (word, lexicon.classesOf word)).filter (1 < ·.2.length)

theorem contains_iff {lexicon : Lexicon} {c : WordClass} {word : Text} :
    lexicon.contains c word = true ↔
      ∃ entry ∈ lexicon.entries.toList, entry.wordClass = c ∧ entry.word = word := by
  simp [contains]

theorem contains_insert {lexicon : Lexicon} {category : Category} {c : WordClass}
    {added word : Text} : (lexicon.insert category added).contains c word = true ↔
      (category = .word c ∧ added = word ∧ word ≠ []) ∨ lexicon.contains c word = true := by
  simp only [contains_iff]
  unfold insert
  split
  · split
    · next d spelled =>
      simp only [Increasing.mem_insert]
      constructor
      · rintro ⟨entry, rfl | member, rfl, rfl⟩
        · exact .inl ⟨rfl, rfl, spelled⟩
        · exact .inr ⟨entry, member, rfl, rfl⟩
      · rintro (⟨same, rfl, _⟩ | ⟨entry, member, rfl, rfl⟩)
        · exact ⟨_, .inl rfl, Category.word.inj same, rfl⟩
        · exact ⟨entry, .inr member, rfl, rfl⟩
    · grind
  · grind

end Lexicon
end Imperative
