import Imperative.Line
import Imperative.Proofs.Lexicon.Entries
import Mathlib.Data.Finset.Card

/-! Lexicons put together step by step. Whatever is listed, once or several times, in one
step or in many, a lexicon is the set of the pairs of a class and a word that were given. Its
views are those of the set: membership, the order of priority, sorted words and the size. -/
namespace Imperative.Lexicon

variable {lexicon : Lexicon} {c : WordClass} {word : Text}

/-! The views of a lexicon. -/

theorem mem_words : word ∈ lexicon.words c ↔ lexicon.contains c word = true := by
  rw [contains_iff]
  simp [words, and_assoc]

/-- The words of a class stand in the order of their characters, each once. -/
theorem pairwise_words (lexicon : Lexicon) (c : WordClass) :
    (lexicon.words c).Pairwise (· < ·) := by
  rw [words, List.pairwise_map, List.pairwise_filter]
  refine lexicon.entries.increasing.imp fun {a b} below first second => ?_
  have same : a.wordClass = b.wordClass := by
    rw [of_decide_eq_true first, of_decide_eq_true second]
  rcases Entry.lt_iff.mp below with rank | ⟨_, word⟩
  · rw [same] at rank
    exact absurd rank (Nat.lt_irrefl _)
  · exact word

theorem pairwise_allWords (lexicon : Lexicon) : lexicon.allWords.Pairwise (· < ·) :=
  (Increasing.ofList (lexicon.entries.toList.map Entry.word)).increasing

/-- A lexicon as the set of its pairs. -/
def pairs (lexicon : Lexicon) : Finset (WordClass × Text) :=
  (lexicon.entries.toList.map fun entry => (entry.wordClass, entry.word)).toFinset

theorem mem_pairs : (c, word) ∈ lexicon.pairs ↔ lexicon.contains c word = true := by
  simp [pairs, contains_iff]

/-- No pair is counted twice. -/
theorem card_pairs (lexicon : Lexicon) : lexicon.pairs.card = lexicon.size := by
  have once : (lexicon.entries.toList.map fun entry => (entry.wordClass, entry.word)).Nodup := by
    rw [List.Nodup, List.pairwise_map]
    refine lexicon.entries.increasing.imp fun {a b} below same => ?_
    obtain ⟨classes, words⟩ := Prod.mk.inj same
    rcases Entry.lt_iff.mp below with rank | ⟨_, word⟩
    · rw [classes] at rank
      exact Nat.lt_irrefl _ rank
    · rw [words] at word
      exact List.lt_irrefl _ word
  rw [pairs, List.toFinset_card_of_nodup once, List.length_map, size]

theorem isEmpty_iff : lexicon.isEmpty = true ↔ lexicon.pairs = ∅ := by
  rw [← Finset.card_eq_zero, card_pairs, size, isEmpty, List.isEmpty_iff, List.length_eq_zero_iff]

/-! Listing words. -/

/-- One step of listing: several words under a category, or a single one. -/
inductive Listing where
  | list (category : Category) (words : List Text)
  | one (category : Category) (word : Text)
  deriving DecidableEq, Repr

namespace Listing

def addTo (lexicon : Lexicon) : Listing → Lexicon
  | list category words => lexicon.insertAll category words
  | one category word => lexicon.insert category word

def category : Listing → Category
  | list category _ | one category _ => category

def words : Listing → List Text
  | list _ words => words
  | one _ word => [word]

/-- The pairs that a step gives. Signals give none, and the empty text is in none. -/
def pairs (listing : Listing) : List (WordClass × Text) :=
  listing.category.wordClass?.toList.flatMap fun c =>
    (listing.words.filter (· ≠ [])).map fun word => (c, word)

variable {listing : Listing}

theorem mem_pairs : (c, word) ∈ listing.pairs ↔
    listing.category = .word c ∧ word ∈ listing.words ∧ word ≠ [] := by
  have named : c ∈ listing.category.wordClass?.toList ↔ listing.category = .word c := by
    cases listing.category <;> simp [Category.wordClass?, eq_comm]
  rw [← named]
  simp [pairs]

/-- A single word is listed as a list of one is. -/
theorem addTo_eq_insertAll (lexicon : Lexicon) (listing : Listing) :
    listing.addTo lexicon = lexicon.insertAll listing.category listing.words := by
  cases listing <;> rfl

theorem contains_addTo : (listing.addTo lexicon).contains c word = true ↔
    (c, word) ∈ listing.pairs ∨ lexicon.contains c word = true := by
  rw [addTo_eq_insertAll, contains_insertAll, mem_pairs]

end Listing

variable {listings others : List Listing}

def built (listings : List Listing) : Lexicon := listings.foldl Listing.addTo empty

/-- All the pairs that were given, by whichever step. -/
def given (listings : List Listing) : Finset (WordClass × Text) :=
  (listings.flatMap Listing.pairs).toFinset

theorem mem_given : (c, word) ∈ given listings ↔ ∃ listing ∈ listings,
    listing.category = .word c ∧ word ∈ listing.words ∧ word ≠ [] := by
  simp only [given, List.mem_toFinset, List.mem_flatMap, Listing.mem_pairs]

theorem contains_foldl : (listings.foldl Listing.addTo lexicon).contains c word = true ↔
    (c, word) ∈ given listings ∨ lexicon.contains c word = true := by
  induction listings generalizing lexicon with
  | nil => simp [given]
  | cons listing rest ih =>
    rw [List.foldl_cons, ih, Listing.contains_addTo]
    simp only [given, List.flatMap_cons, List.toFinset_append, Finset.mem_union, List.mem_toFinset]
    rw [or_left_comm, or_assoc]

theorem contains_built :
    (built listings).contains c word = true ↔ (c, word) ∈ given listings := by
  rw [built, contains_foldl, contains_empty]
  simp

theorem pairs_built (listings : List Listing) : (built listings).pairs = given listings := by
  ext ⟨c, word⟩
  rw [mem_pairs, contains_built]

theorem built_eq_iff : built others = built listings ↔ given others = given listings := by
  constructor
  · intro same
    rw [← pairs_built, same, pairs_built]
  · intro same
    refine ext_contains fun c word => ?_
    rw [contains_built, contains_built, same]

theorem classify_built (nonempty : word ≠ []) : (built listings).classify (some word) =
    ((WordClass.priority.find? fun c => (c, word) ∈ given listings).map Category.word).getD
      .unknown := by
  have listed : ((built listings).contains · word) = fun c => decide ((c, word) ∈ given listings) :=
    funext fun c => Bool.eq_iff_iff.mpr (contains_built.trans decide_eq_true_iff.symm)
  rw [classify_of_ne_nil nonempty, listed]

/-- A lexicon is the set of what was listed, signals and empty words apart. It contains a
word under a class exactly if the pair was given; a word counts as the first class in the
order of priority that it was given under, or as unknown; the words of a class and all words
are those given, strictly in the order of their characters; and the size is the number of
pairs. So steps that give the same pairs, in another order, again or divided otherwise,
build the same lexicon, and every line is read alike. -/
theorem built_as_given (listings : List Listing) :
    let lexicon := built listings
    (∀ c word, (c, word) ∈ given listings ↔ ∃ listing ∈ listings,
      listing.category = .word c ∧ word ∈ listing.words ∧ word ≠ []) ∧
    (∀ c word, lexicon.contains c word = true ↔ (c, word) ∈ given listings) ∧
    (∀ word, word ≠ [] → lexicon.classify (some word) =
      ((WordClass.priority.find? fun c => (c, word) ∈ given listings).map Category.word).getD
        .unknown) ∧
    (∀ c, (∀ word, word ∈ lexicon.words c ↔ (c, word) ∈ given listings) ∧
      (lexicon.words c).Pairwise (· < ·)) ∧
    (∀ word, word ∈ lexicon.allWords ↔ ∃ c, (c, word) ∈ given listings) ∧
    lexicon.allWords.Pairwise (· < ·) ∧
    lexicon.size = (given listings).card ∧
    (lexicon.isEmpty = true ↔ given listings = ∅) ∧
    ∀ others, (built others = lexicon ↔ given others = given listings) ∧
      (given others = given listings →
        ∀ line, Line.parse (built others) line = Line.parse lexicon line) := by
  intro lexicon
  refine ⟨fun c word => mem_given, fun c word => contains_built, fun word => classify_built,
    fun c => ⟨fun word => mem_words.trans contains_built, pairwise_words lexicon c⟩, fun word => ?_,
    pairwise_allWords lexicon, ?_, ?_, fun others => ⟨built_eq_iff, fun same line => ?_⟩⟩
  · rw [mem_allWords]
    exact exists_congr fun c => contains_built
  · rw [← card_pairs, pairs_built]
  · rw [isEmpty_iff, pairs_built]
  · rw [built_eq_iff.mpr same]

/-- The other steps list the words in another order, one by one and again, among signals,
empty words and a class without words. -/
theorem built_as_given_again :
    let listings : List Listing := [.list (.word .noun) ["take".toList, "key".toList],
      .list (.word .verb) ["take".toList]]
    let others : List Listing := [.one (.word .verb) "take".toList, .list .unknown ["zork".toList],
      .one (.word .noun) "key".toList, .one (.word .noun) [], .list (.word .pronoun) [],
      .list (.word .noun) ["key".toList, [], "take".toList]]
    let line := some "Take key and zork".toList
    given others = given listings ∧
    Line.parse (built others) line = Line.parse (built listings) line ∧
    "take".toList ≠ [] ∧ (built listings).classify (some "take".toList) = .word .verb ∧
    (built others).words .noun = ["key".toList, "take".toList] ∧ (built others).size = 3 := by
  intro listings others line
  have same : given others = given listings := by decide +kernel
  obtain ⟨_, _, counted, _, _, _, _, _, read⟩ := built_as_given listings
  have again := built_as_given others
  have nonempty : "take".toList ≠ [] := by decide
  refine ⟨same, (read others).2 same line, nonempty, (counted _ nonempty).trans ?_, ?_,
    again.2.2.2.2.2.2.1.trans ?_⟩ <;> decide +kernel

end Imperative.Lexicon
