import Imperative.Text.Case

/-! What a token can count as: one of nine word classes, or a signal that it is
empty, unknown or not there. Only word classes have names that a vocabulary can
list words under. -/
namespace Imperative

inductive WordClass where
  | verb
  | adverb
  | article
  | adjective
  | number
  | noun
  | preposition
  | pronoun
  | conjunction
  deriving DecidableEq, Repr

namespace WordClass

/-- A word listed under several classes counts as the first of them here. -/
def priority : List WordClass :=
  [.verb, .adverb, .article, .adjective, .number, .noun, .preposition, .pronoun, .conjunction]

def rank (c : WordClass) : Nat := priority.idxOf c

def name : WordClass → Text
  | verb => "verb".toList
  | adverb => "adverb".toList
  | article => "article".toList
  | adjective => "adjective".toList
  | number => "number".toList
  | noun => "noun".toList
  | preposition => "preposition".toList
  | pronoun => "pronoun".toList
  | conjunction => "conjunction".toList

/-- A name stands for its class in the singular and in the plural. -/
def isNamed (c : WordClass) (t : Text) : Bool :=
  t = c.name || t = c.name ++ ['s']

/-- Reads the name of a word class, whatever its case and the blanks around it. -/
def ofName? (t : Text) : Option WordClass :=
  priority.find? (·.isNamed (Text.lower (Text.trim t)))

theorem mem_priority (c : WordClass) : c ∈ priority := by
  cases c <;> decide

theorem rank_injective {c d : WordClass} (same : c.rank = d.rank) : c = d := by
  cases c <;> cases d <;> first | rfl | exact absurd same (by decide)

end WordClass

inductive Category where
  | word (wordClass : WordClass)
  | empty
  | unknown
  | finish
  deriving DecidableEq, Repr

namespace Category

def name : Category → Text
  | word c => c.name
  | empty => "empty".toList
  | unknown => "unknown".toList
  | finish => "end".toList

def isWord : Category → Bool
  | word _ => true
  | _ => false

def wordClass? : Category → Option WordClass
  | word c => some c
  | _ => none

end Category
end Imperative
