import Imperative.Lexicon

/-! The standard adventure vocabulary. Every form is written out, under one class. -/
namespace Imperative.Lexicon

def standardWords : WordClass → List Text
  | .verb => ["ask", "give", "run", "fly", "put", "eat", "drink", "catch", "take", "drop", "open",
      "kill"].map String.toList
  | .adverb => ["gently", "softly", "viciously"].map String.toList
  | .article => ["a", "an", "the"].map String.toList
  | .adjective => ["red", "blue", "green", "yellow", "white", "black", "silver"].map String.toList
  | .number => ["one", "two", "three", "four", "five", "1", "2", "3"].map String.toList
  | .noun => ["dog", "cat", "birds", "mouse", "potion", "key", "lock", "sword",
      "monster"].map String.toList
  | .preposition => ["about", "to", "for", "at", "in", "on", "of", "with", "from"].map String.toList
  | .pronoun => ["him", "her", "his", "its", "self"].map String.toList
  | .conjunction => ["and", "then"].map String.toList

def standard : Lexicon :=
  ofLists (WordClass.priority.map fun c => (.word c, standardWords c))

end Imperative.Lexicon
