import Imperative.Proofs.Splitting

/-! Clauses read word by word. Empty tokens and the end change nothing, so a reading is a
fold over the words: each slot holds the last word of its class, and the unknown words are
kept in order. -/
namespace Imperative

/-- The slot that a word fills in a lexicon, if any. -/
def Lexicon.slotOf (lexicon : Lexicon) (word : Text) : Option Slot :=
  (lexicon.classify (some word)).wordClass?.bind Slot.ofClass?

/-- The lexicon does not list the word. -/
def Lexicon.isUnknown (lexicon : Lexicon) (word : Text) : Bool :=
  lexicon.classify (some word) = .unknown

theorem Lexicon.isUnknown_of_slotOf {lexicon : Lexicon} {word : Text} {slot : Slot}
    (fills : lexicon.slotOf word = some slot) : lexicon.isUnknown word = false := by
  unfold slotOf at fills
  unfold isUnknown
  cases found : lexicon.classify (some word) with
  | word c => rfl
  | empty => rfl
  | finish => rfl
  | unknown =>
    rw [found] at fills
    contradiction

/-- The words that a clause was rejected for. -/
def Outcome.unknown : Outcome → List Text
  | .error (.unknownWords words _) => words
  | _ => []

/-- The command that a clause gives, or what was understood of one that gives none. -/
def Outcome.understood? : Outcome → Option Command
  | .ok command => some command
  | .error rejection => rejection.understood?

def Report.unknown (report : Report) : List Text := report.clauses.flatMap (·.outcome.unknown)

namespace Clause
open Text

variable {lexicon : Lexicon} {reading : Reading} {slot : Slot} {word held : Text}

def Reading.takeWord (lexicon : Lexicon) (reading : Reading) (word : Text) : Reading :=
  reading.take word (lexicon.classify (some word))

def readWords (lexicon : Lexicon) (words : List Text) : Reading :=
  words.foldl (Reading.takeWord lexicon) .start

theorem readToken_piece (lexicon : Lexicon) (reading : Reading) (piece : Text) :
    readTokenBy lexicon.classify reading (Token.ofPiece piece) =
      if piece ≠ [] then reading.takeWord lexicon piece else reading := by
  by_cases empty : piece = []
  · subst piece
    rfl
  · simp only [Token.ofPiece, empty, if_false, ne_eq, not_false_eq_true, if_true]
    rfl

theorem foldl_tokens (lexicon : Lexicon) (clause : Text) :
    (tokens clause).foldl (readTokenBy lexicon.classify) .start = readWords lexicon (words clause) := by
  have last (reading : Reading) : readTokenBy lexicon.classify reading .finish = reading := rfl
  rw [tokens, List.foldl_append, List.foldl_cons, List.foldl_nil, last, List.foldl_map,
    readWords, words, List.foldl_filter]
  simp only [readToken_piece, decide_eq_true_eq]

theorem parse_eq_outcome (lexicon : Lexicon) (clause : Text) :
    parse lexicon clause = (readWords lexicon (words clause)).outcome := by
  rw [parse, parseBy, foldl_tokens]

theorem unknown_takeWord (lexicon : Lexicon) (reading : Reading) (word : Text) :
    (reading.takeWord lexicon word).unknown = reading.unknown ++ [word].filter lexicon.isUnknown := by
  unfold Reading.takeWord Lexicon.isUnknown Reading.take
  cases found : lexicon.classify (some word) with
  | word c => cases filled : Slot.ofClass? c <;> simp [found, filled]
  | empty => simp [found]
  | unknown => simp [found]
  | finish => simp [found]

theorem get_takeWord (lexicon : Lexicon) (reading : Reading) (word : Text) (slot : Slot) :
    (reading.takeWord lexicon word).command.get slot =
      if lexicon.slotOf word = some slot then some word else reading.command.get slot := by
  unfold Reading.takeWord Lexicon.slotOf Reading.take
  cases lexicon.classify (some word) with
  | word c =>
    cases filled : Slot.ofClass? c with
    | none => simp [Category.wordClass?, filled]
    | some other => simp [Category.wordClass?, filled, Command.get_set]
  | empty => rfl
  | unknown => rfl
  | finish => rfl

theorem unknown_foldl (lexicon : Lexicon) (reading : Reading) (words : List Text) :
    (words.foldl (Reading.takeWord lexicon) reading).unknown =
      reading.unknown ++ words.filter lexicon.isUnknown := by
  induction words generalizing reading with
  | nil => simp
  | cons word rest ih =>
    rw [List.foldl_cons, ih, unknown_takeWord, List.append_assoc, ← List.filter_append,
      List.singleton_append]

theorem get_foldl (lexicon : Lexicon) (reading : Reading) (words : List Text) (slot : Slot) :
    (words.foldl (Reading.takeWord lexicon) reading).command.get slot =
      (words.filter (lexicon.slotOf · = some slot)).getLast?.or (reading.command.get slot) := by
  induction words generalizing reading with
  | nil => rfl
  | cons word rest ih =>
    rw [List.foldl_cons, ih, get_takeWord]
    by_cases fills : lexicon.slotOf word = some slot
    · rw [List.filter_cons_of_pos (by simpa using fills), List.getLast?_cons, if_pos fills]
      cases (rest.filter (lexicon.slotOf · = some slot)).getLast? <;> rfl
    · rw [List.filter_cons_of_neg (by simpa using fills), if_neg fills]

theorem unknown_readWords (lexicon : Lexicon) (words : List Text) :
    (readWords lexicon words).unknown = words.filter lexicon.isUnknown :=
  unknown_foldl lexicon .start words

/-- Each slot holds the last of the words that fill it. -/
theorem get_readWords (lexicon : Lexicon) (words : List Text) (slot : Slot) :
    (readWords lexicon words).command.get slot =
      (words.filter (lexicon.slotOf · = some slot)).getLast? := by
  rw [readWords, get_foldl]
  cases slot <;> exact Option.or_none

theorem of_get_readWords {texts : List Text}
    (held : (readWords lexicon texts).command.get slot = some word) :
    word ∈ texts ∧ lexicon.slotOf word = some slot := by
  rw [get_readWords] at held
  have member := List.mem_filter.mp (List.mem_of_getLast? held)
  exact ⟨member.1, of_decide_eq_true member.2⟩

/-- What comes of a reading: unknown words outweigh a missing action. -/
theorem outcome_cases (reading : Reading) :
    (reading.unknown ≠ [] ∧
      reading.outcome = .error (.unknownWords reading.unknown reading.command)) ∨
    (reading.unknown = [] ∧ reading.outcome = .ok reading.command) ∨
    (reading.unknown = [] ∧ reading.outcome = .error (.incomplete reading.command)) := by
  unfold Reading.outcome
  split
  · next unknown => exact .inl ⟨unknown, rfl⟩
  · next known =>
    have none := of_not_not known
    split
    · exact .inr (.inl ⟨none, rfl⟩)
    · exact .inr (.inr ⟨none, rfl⟩)

theorem outcome_of_unknown_eq_nil (known : reading.unknown = []) : reading.outcome =
    if reading.command.isComplete then .ok reading.command else .error (.incomplete reading.command) := by
  simp [Reading.outcome, known]

theorem outcome_eq_ok_iff {command : Command} : reading.outcome = .ok command ↔
    reading.unknown = [] ∧ reading.command = command ∧ command.isComplete = true := by
  by_cases known : reading.unknown = []
  · rw [outcome_of_unknown_eq_nil known]
    constructor
    · intro given
      split at given
      · next complete =>
        obtain rfl := Except.ok.inj given
        exact ⟨known, rfl, complete⟩
      · contradiction
    · rintro ⟨_, rfl, complete⟩
      rw [if_pos complete]
  · simp [Reading.outcome, known]

theorem understood_outcome (reading : Reading) :
    Outcome.understood? reading.outcome = some reading.command := by
  unfold Reading.outcome
  split
  · rfl
  · split <;> rfl

theorem unknown_outcome (reading : Reading) :
    Outcome.unknown reading.outcome = reading.unknown := by
  by_cases known : reading.unknown = []
  · rw [outcome_of_unknown_eq_nil known, known]
    split <;> rfl
  · simp [Reading.outcome, known, Outcome.unknown]

theorem unknown_parse (lexicon : Lexicon) (clause : Text) :
    Outcome.unknown (parse lexicon clause) = (words clause).filter lexicon.isUnknown := by
  rw [parse_eq_outcome, unknown_outcome, unknown_readWords]

end Clause
end Imperative
