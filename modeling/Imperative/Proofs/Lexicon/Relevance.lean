import Imperative.Proofs.Answering
import Imperative.Proofs.Lexicon.Extension

/-! What a line needs of the vocabulary. No clause holds the separator as a word, so all that
is looked up for a line is how its other words count. Two lexicons that agree on these cannot
be told apart by the line: it has one report, one log and one answer. -/
namespace Imperative
open Text Line

variable {first second lexicon : Lexicon} {line clause word : Text} {texts : List Text}

namespace Lexicon

/-- The words of a list count alike in both lexicons, whatever the separator counts as. -/
def AgreeOn (first second : Lexicon) (words : List Text) : Prop :=
  ∀ word ∈ words, word ≠ separator → first.classify (some word) = second.classify (some word)

instance (first second : Lexicon) (words : List Text) : Decidable (first.AgreeOn second words) :=
  List.decidableBAll _ words

/-- Both lexicons list the same words under the same classes, the separator apart. -/
def AgreeBeyondSeparator (first second : Lexicon) : Prop :=
  ∀ c word, word ≠ separator → first.contains c word = second.contains c word

theorem AgreeBeyondSeparator.agreeOn (alike : first.AgreeBeyondSeparator second)
    (words : List Text) : first.AgreeOn second words := by
  intro word _ other
  have listed : (first.contains · word) = (second.contains · word) :=
    funext fun c => alike c word other
  cases word with
  | nil => rfl
  | cons c rest =>
    simp only [classify, classifyBy]
    rw [listed]

/-- Listing the separator, under whatever it is, changes nothing else. -/
theorem agreeBeyondSeparator_insert (lexicon : Lexicon) (category : Category) :
    (lexicon.insert category separator).AgreeBeyondSeparator lexicon := by
  intro c word other
  rw [Bool.eq_iff_iff, contains_insert]
  refine or_iff_right ?_
  rintro ⟨_, rfl, _⟩
  exact other rfl

end Lexicon

/-! What is looked up for a clause are its words, and the empty text and the end, which count
alike in all lexicons. -/

theorem Text.mem_tokens {token : Token} (member : token ∈ tokens clause) :
    token = .finish ∨ token = .empty ∨ ∃ word ∈ words clause, token = .word word := by
  rcases List.mem_append.mp member with inside | last
  · obtain ⟨piece, found, rfl⟩ := List.mem_map.mp inside
    by_cases empty : piece = []
    · exact .inr (.inl (by simp [Token.ofPiece, empty]))
    · refine .inr (.inr ⟨piece, ?_, by simp [Token.ofPiece, empty]⟩)
      exact List.mem_filter.mpr ⟨found, decide_eq_true empty⟩
  · exact .inl (List.mem_singleton.mp last)

theorem classify_token
    (alike : ∀ word ∈ words clause, first.classify (some word) = second.classify (some word))
    {token : Token} (member : token ∈ tokens clause) :
    first.classify token.text? = second.classify token.text? := by
  rcases mem_tokens member with rfl | rfl | ⟨word, inside, rfl⟩
  · rfl
  · rfl
  · exact alike word inside

theorem Log.clauseNotes_congr
    (alike : ∀ word ∈ words clause, first.classify (some word) = second.classify (some word)) :
    clauseNotes first clause = clauseNotes second clause := by
  refine List.flatMap_congr fun token member => ?_
  rw [classify_token alike member]

theorem Clause.parse_congr
    (alike : ∀ word ∈ words clause, first.classify (some word) = second.classify (some word)) :
    parse first clause = parse second clause := by
  rw [parse_eq_outcome, parse_eq_outcome, readWords_congr alike]

/-! From the clauses to the line. -/

namespace Line

/-- Lexicons that agree on a line agree on all words of its clauses. -/
theorem classify_of_mem_clauses (agree : first.AgreeOn second (words (normalize line)))
    (inside : clause ∈ clauses (lower line)) :
    ∀ word ∈ words clause, first.classify (some word) = second.classify (some word) := by
  intro word member
  obtain ⟨listed, other⟩ := mem_words_of_mem_clauses inside member
  refine agree word ?_ other
  rwa [normalize, words_trim]

theorem reports_eq (agree : first.AgreeOn second (words (normalize line))) :
    reports first (clauses (lower line)) = reports second (clauses (lower line)) := by
  refine List.map_congr_left fun text inside => ?_
  rw [Clause.parse_congr (classify_of_mem_clauses agree inside)]

theorem reportNotes_eq (agree : first.AgreeOn second (words (normalize line))) :
    Log.reportNotes first ⟨reports lexicon (clauses (lower line))⟩ =
      Log.reportNotes second ⟨reports lexicon (clauses (lower line))⟩ := by
  unfold Log.reportNotes
  congr 1
  refine List.flatMap_congr fun clause member => ?_
  obtain ⟨text, inside, rfl⟩ := List.mem_map.mp member
  exact Log.clauseNotes_congr (classify_of_mem_clauses agree inside)

/-- Nothing that comes of a line tells the two lexicons apart: it has the same result, the
same commands are given to a handler between the same notes, and a session gives the same
answer. -/
structure Indistinct (first second : Lexicon) (line : Option Text) : Prop where
  parsed : parse first line = parse second line
  dispatched : ∀ handle, dispatch first handle line = dispatch second handle line
  answered : ∀ settings text, line = some text →
    Session.eval ⟨first, settings⟩ text = Session.eval ⟨second, settings⟩ text

theorem parse_eq_of_agree {line : Option Text}
    (agree : ∀ text ∈ line, first.AgreeOn second (words (normalize text))) :
    parse first line = parse second line := by
  rcases parse_cases first line with ⟨absent, none⟩ | ⟨text, rfl, filled, parsed⟩
  · rcases parse_cases second line with ⟨_, again⟩ | ⟨text, rfl, filled, _⟩
    · rw [none, again]
    · exact absurd absent (Bool.eq_false_iff.mp filled)
  · rw [parsed, parse_of_not_blank second filled, reports_eq (agree text rfl)]

theorem dispatch_eq_of_agree {line : Option Text}
    (agree : ∀ text ∈ line, first.AgreeOn second (words (normalize text)))
    (handle : Command → Transcript) : dispatch first handle line = dispatch second handle line := by
  rw [dispatch, dispatch, ← parse_eq_of_agree agree]
  rcases parse_cases first line with ⟨_, none⟩ | ⟨text, rfl, _, parsed⟩
  · rw [none]
  · simp only [parsed, reportNotes_eq (agree text rfl)]

theorem indistinct_of_agree {line : Option Text}
    (agree : ∀ text ∈ line, first.AgreeOn second (words (normalize text))) :
    Indistinct first second line where
  parsed := parse_eq_of_agree agree
  dispatched := dispatch_eq_of_agree agree
  answered := by
    rintro settings text rfl
    have handled : (⟨first, settings⟩ : Session).handle = (⟨second, settings⟩ : Session).handle :=
      rfl
    simp only [Session.eval, handled, dispatch_eq_of_agree agree]

/-- The vocabulary does not see the separator. Two lexicons that agree on the words of the
line other than the separator cannot be told apart by it, whatever else they list; so two
that differ in the separator only, which may be a verb in one, a noun in the other or not
listed at all, are not told apart by any line. -/
theorem separator_unseen (first second : Lexicon) :
    (∀ line : Option Text, (∀ text ∈ line, first.AgreeOn second (words (normalize text))) →
      Indistinct first second line) ∧
    (first.AgreeBeyondSeparator second → ∀ line, Indistinct first second line) ∧
    ∀ category line, Indistinct (first.insert category separator) first line := by
  refine ⟨fun line => indistinct_of_agree, fun alike line => ?_, fun category line => ?_⟩
  · exact indistinct_of_agree fun text _ => alike.agreeOn _
  · exact indistinct_of_agree fun text _ =>
      (Lexicon.agreeBeyondSeparator_insert first category).agreeOn _

/-- In one lexicon the separator is a verb and a noun. One of the others lacks it, the other
one also has a verb that does not occur in the line. -/
theorem separator_unseen_at_quotes :
    let bare := Lexicon.ofLists [(.word .verb, ["take".toList]), (.word .noun, ["key".toList])]
    let first := (bare.insert (.word .verb) separator).insert (.word .noun) separator
    let second := Lexicon.ofLists [(.word .noun, ["key".toList]),
      (.word .verb, ["drop".toList, "take".toList])]
    let line := "Take key AND 'and' (Key, and) zork".toList
    first.classify (some separator) = .word .verb ∧
    first.AgreeBeyondSeparator bare ∧ parse first (some line) = parse bare (some line) ∧
    (∀ text ∈ some line, first.AgreeOn second (words (normalize text))) ∧
    parse first (some line) = parse second (some line) ∧
    (Session.eval ⟨first, {}⟩ line).1.carriedOut =
      [{ action := "take".toList, directObject := "key".toList }] ∧
    Session.eval ⟨first, {}⟩ line = Session.eval ⟨second, {}⟩ line := by
  intro bare first second line
  have alike : first.AgreeBeyondSeparator bare := by
    intro c word other
    calc first.contains c word = (bare.insert (.word .verb) separator).contains c word :=
          Lexicon.agreeBeyondSeparator_insert _ _ c word other
      _ = bare.contains c word := Lexicon.agreeBeyondSeparator_insert _ _ c word other
  have agree : ∀ text ∈ some line, first.AgreeOn second (words (normalize text)) := by
    intro text same
    obtain rfl := Option.some.inj same
    decide +kernel
  have beside := (separator_unseen first bare).2.1 alike (some line)
  have seen := (separator_unseen first second).1 (some line) agree
  refine ⟨?_, alike, beside.parsed, agree, seen.parsed, ?_, seen.answered {} line rfl⟩ <;>
    decide +kernel

end Line
end Imperative
