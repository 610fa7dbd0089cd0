import Imperative.Reply
import Imperative.Lexicon.Standard
import Imperative.Proofs.Reading
import Mathlib.Data.List.Basic
import Mathlib.Logic.Relation

/-! What a clause means. Its words are all looked up, and what comes of it is said by the last
word of each category and by the unknown words. Neither the delimiters between the words
matter nor in which order words of different categories stand. -/
namespace Imperative
open Text Line

variable {lexicon : Lexicon} {category : Category} {slot : Slot} {word clause front gap other back : Text}
  {texts others : List Text}

namespace Slot

/-- The class whose words fill the slot. -/
def wordClass : Slot → WordClass
  | action => .verb
  | mode => .adverb
  | quantity => .number
  | quality => .adjective
  | directObject => .noun
  | indirectObject => .pronoun

theorem ofClass?_eq_some_iff {c : WordClass} : ofClass? c = some slot ↔ c = slot.wordClass := by
  cases c <;> cases slot <;> decide

end Slot

/-! The meaning of a list of words. -/

namespace Lexicon

/-- The words that count as a category, in order and with repetitions. -/
def ofCategory (lexicon : Lexicon) (category : Category) (texts : List Text) : List Text :=
  texts.filter fun word => lexicon.classify (some word) = category

/-- The last of the words that count as one of a class. -/
def lastOf (lexicon : Lexicon) (c : WordClass) (texts : List Text) : Option Text :=
  (lexicon.ofCategory (.word c) texts).getLast?

theorem slotOf_eq_some_iff :
    lexicon.slotOf word = some slot ↔ lexicon.classify (some word) = .word slot.wordClass := by
  unfold slotOf
  cases lexicon.classify (some word) with
  | word c => simpa [Category.wordClass?] using Slot.ofClass?_eq_some_iff
  | empty => simp [Category.wordClass?]
  | unknown => simp [Category.wordClass?]
  | finish => simp [Category.wordClass?]

theorem classify_of_lastOf {c : WordClass} (last : lexicon.lastOf c texts = some word) :
    lexicon.classify (some word) = .word c :=
  of_decide_eq_true (List.mem_filter.mp (List.mem_of_getLast? last)).2

end Lexicon

namespace Clause

/-- Every slot holds the last word of its class. -/
def commandOf (lexicon : Lexicon) (texts : List Text) : Command where
  action := lexicon.lastOf .verb texts
  mode := lexicon.lastOf .adverb texts
  quantity := lexicon.lastOf .number texts
  quality := lexicon.lastOf .adjective texts
  directObject := lexicon.lastOf .noun texts
  indirectObject := lexicon.lastOf .pronoun texts

/-- What comes of a clause with these words. Unknown words outweigh a missing action. -/
def meaning (lexicon : Lexicon) (texts : List Text) : Outcome :=
  let unknown := lexicon.ofCategory .unknown texts
  let command := commandOf lexicon texts
  if unknown ≠ [] then .error (.unknownWords unknown command)
  else if command.action = none then .error (.incomplete command)
  else .ok command

theorem get_commandOf (lexicon : Lexicon) (texts : List Text) (slot : Slot) :
    (commandOf lexicon texts).get slot = lexicon.lastOf slot.wordClass texts := by
  cases slot <;> rfl

theorem readWords_eq (lexicon : Lexicon) (texts : List Text) :
    readWords lexicon texts = ⟨commandOf lexicon texts, lexicon.ofCategory .unknown texts⟩ := by
  have command : (readWords lexicon texts).command = commandOf lexicon texts := by
    apply Command.ext_get
    intro slot
    rw [get_readWords, get_commandOf]
    simp only [Lexicon.slotOf_eq_some_iff]
    rfl
  have unknown : (readWords lexicon texts).unknown = lexicon.ofCategory .unknown texts :=
    unknown_readWords lexicon texts
  rw [← command, ← unknown]

theorem isComplete_commandOf (lexicon : Lexicon) (texts : List Text) :
    (commandOf lexicon texts).isComplete = true ↔ (commandOf lexicon texts).action ≠ none := by
  cases held : (commandOf lexicon texts).action with
  | none => simp [Command.isComplete, held]
  | some word =>
    have nonempty : word ≠ [] := by
      rintro rfl
      have counts := Lexicon.classify_of_lastOf (c := .verb) held
      contradiction
    simp [Command.isComplete, held, nonempty]

theorem outcome_readWords (lexicon : Lexicon) (texts : List Text) :
    (readWords lexicon texts).outcome = meaning lexicon texts := by
  rw [readWords_eq, Reading.outcome, meaning]
  simp only [isComplete_commandOf]
  split
  · rfl
  · by_cases absent : (commandOf lexicon texts).action = none <;> simp [absent]

theorem parse_eq_meaning (lexicon : Lexicon) (clause : Text) :
    parse lexicon clause = meaning lexicon (words clause) := by
  rw [parse_eq_outcome, outcome_readWords]

/-- The unknown words and the last words of the classes can be told from the outcome. -/
theorem meaning_eq_iff : meaning lexicon texts = meaning lexicon others ↔
    lexicon.ofCategory .unknown texts = lexicon.ofCategory .unknown others ∧
      commandOf lexicon texts = commandOf lexicon others := by
  constructor
  · intro same
    rw [← outcome_readWords, ← outcome_readWords] at same
    have unknown := congrArg Outcome.unknown same
    have understood := congrArg Outcome.understood? same
    rw [unknown_outcome, unknown_outcome, readWords_eq, readWords_eq] at unknown
    rw [understood_outcome, understood_outcome, readWords_eq, readWords_eq] at understood
    exact ⟨unknown, Option.some.inj understood⟩
  · rintro ⟨unknown, command⟩
    rw [meaning, meaning, unknown, command]

end Clause

/-! Words of different categories that change places. -/

namespace Lexicon

/-- Two neighbours of different categories change places. Words that stand apart do so step by
step, and none of them ever goes past a word of its own category. -/
inductive Exchange (lexicon : Lexicon) : List Text → List Text → Prop where
  | neighbours (front back : List Text) {first second : Text}
      (different : lexicon.classify (some first) ≠ lexicon.classify (some second)) :
      Exchange lexicon (front ++ first :: second :: back) (front ++ second :: first :: back)

/-- Words of different categories change places, however many of them and how often. -/
def Rearranged (lexicon : Lexicon) : List Text → List Text → Prop :=
  Relation.ReflTransGen lexicon.Exchange

theorem ofCategory_append (lexicon : Lexicon) (category : Category) (front back : List Text) :
    lexicon.ofCategory category (front ++ back) =
      lexicon.ofCategory category front ++ lexicon.ofCategory category back :=
  List.filter_append front back

theorem Exchange.ofCategory_eq (exchange : lexicon.Exchange texts others) (category : Category) :
    lexicon.ofCategory category texts = lexicon.ofCategory category others := by
  obtain ⟨front, back, different⟩ := exchange
  rename_i first second
  rw [ofCategory_append, ofCategory_append]
  congr 1
  by_cases here : lexicon.classify (some first) = category
  · have there : lexicon.classify (some second) ≠ category := fun same =>
      different (here.trans same.symm)
    simp [ofCategory, here, there]
  · simp [ofCategory, List.filter_cons, here]

/-- In a rearranged list the words of each category are still in the same order. -/
theorem Rearranged.ofCategory_eq (rearranged : lexicon.Rearranged texts others)
    (category : Category) :
    lexicon.ofCategory category texts = lexicon.ofCategory category others := by
  induction rearranged with
  | refl => rfl
  | tail _ exchange ih => exact ih.trans (exchange.ofCategory_eq category)

theorem Exchange.cons (exchange : lexicon.Exchange texts others) (word : Text) :
    lexicon.Exchange (word :: texts) (word :: others) := by
  obtain ⟨front, back, different⟩ := exchange
  exact .neighbours (word :: front) back different

theorem Rearranged.cons (rearranged : lexicon.Rearranged texts others) (word : Text) :
    lexicon.Rearranged (word :: texts) (word :: others) :=
  rearranged.lift (word :: ·) fun _ _ exchange => exchange.cons word

/-- A word goes past words of other categories. -/
theorem rearranged_past {front : List Text} (back : List Text)
    (others : ∀ passed ∈ front, lexicon.classify (some word) ≠ lexicon.classify (some passed)) :
    lexicon.Rearranged (word :: (front ++ back)) (front ++ word :: back) := by
  induction front with
  | nil => exact .refl
  | cons passed rest ih =>
    obtain ⟨different, others⟩ := List.forall_mem_cons.mp others
    have first : lexicon.Exchange (word :: passed :: (rest ++ back)) (passed :: word :: (rest ++ back)) :=
      .neighbours [] _ different
    exact .head first ((ih others).cons passed)

/-- One list is rearranged to another exactly if each category has the same words in both, in
the same order. -/
theorem rearranged_iff : lexicon.Rearranged texts others ↔
    ∀ category, lexicon.ofCategory category texts = lexicon.ofCategory category others := by
  refine ⟨fun rearranged => rearranged.ofCategory_eq, fun same => ?_⟩
  induction texts generalizing others with
  | nil =>
    cases others with
    | nil => exact .refl
    | cons word rest => simpa [ofCategory] using same (lexicon.classify (some word))
  | cons word rest ih =>
    have first := (same (lexicon.classify (some word))).symm
    rw [ofCategory, ofCategory, List.filter_cons_of_pos (by simp)] at first
    obtain ⟨front, back, rfl, passed, _, later⟩ := List.filter_eq_cons_iff.mp first
    have different : ∀ other ∈ front,
        lexicon.classify (some word) ≠ lexicon.classify (some other) := by
      intro other member counts
      exact passed other member (decide_eq_true counts.symm)
    refine .trans (Rearranged.cons (ih fun category => ?_) word) (rearranged_past back different)
    have whole := same category
    rw [ofCategory_append] at whole ⊢
    by_cases own : lexicon.classify (some word) = category
    · subst category
      have clear : lexicon.ofCategory (lexicon.classify (some word)) front = [] :=
        List.filter_eq_nil_iff.mpr passed
      rw [clear, List.nil_append]
      exact later.symm
    · simpa [ofCategory, List.filter_cons, own] using whole

end Lexicon

/-! Delimiters around words. -/

namespace Text

/-- Delimiters and nothing else. -/
def IsBreak (t : Text) : Prop := ∀ c ∈ t, isDelimiter c = true

instance (t : Text) : Decidable (IsBreak t) := List.decidableBAll _ t

theorem words_break_append (broken : IsBreak gap) (back : Text) :
    words (gap ++ back) = words back := by
  induction gap with
  | nil => rfl
  | cons c rest ih =>
    obtain ⟨cut, others⟩ := List.forall_mem_cons.mp broken
    rw [List.cons_append, words_cons cut, ih others]

/-- What stands on either side of delimiters is read by itself. -/
theorem words_around_break (broken : IsBreak gap) (apart : gap ≠ [] ∨
    isBoundary front.getLast? = true ∨ isBoundary back.head? = true) :
    words (front ++ gap ++ back) = words front ++ words back := by
  cases gap with
  | nil =>
    rw [List.append_nil]
    exact words_append (apart.resolve_left (· rfl))
  | cons c rest =>
    obtain ⟨cut, others⟩ := List.forall_mem_cons.mp broken
    rw [List.append_assoc, List.cons_append, words_append_cut cut, words_break_append others]

end Text

/-! Every word of a clause is looked up. -/

/-- The word that a record shows to have been looked up, and what it counted as. -/
def Log.Record.lookUp? : Log.Record → Option (Text × Category)
  | classified (some (c :: rest)) category => some (c :: rest, category)
  | _ => none

theorem Log.lookUps_clauseNotes (lexicon : Lexicon) (clause : Text) :
    (clauseNotes lexicon clause).filterMap Record.lookUp? =
      (words clause).map fun word => (word, lexicon.classify (some word)) := by
  unfold clauseNotes tokens words
  rw [List.flatMap_append, List.filterMap_append]
  refine (List.append_nil _).trans ?_
  induction pieces clause with
  | nil => rfl
  | cons piece rest ih =>
    rw [List.map_cons, List.flatMap_cons, List.filterMap_append, ih]
    cases piece with
    | nil => rfl
    | cons c cs =>
      cases counts : lexicon.classify (some (c :: cs)) <;>
        simp [Token.ofPiece, Token.text?, Record.lookUp?, counts]

theorem Lexicon.classify_some_ne_finish (lexicon : Lexicon) (word : Text) :
    lexicon.classify (some word) ≠ .finish := by
  cases word with
  | nil => exact Category.noConfusion
  | cons c cs =>
    unfold classify classifyBy
    simp only
    split <;> exact Category.noConfusion

/-- Only the last token of a clause counts as the end. -/
theorem Token.finish_iff {token : Token} {front back : List Token}
    (split : tokens clause = front ++ token :: back) :
    lexicon.classify token.text? = .finish ↔ back = [] := by
  constructor
  · intro counts
    by_contra more
    obtain ⟨start, last, rfl⟩ := (List.eq_nil_or_concat back).resolve_left more
    rw [tokens, List.concat_eq_append, ← List.cons_append, ← List.append_assoc] at split
    have inside : token ∈ (pieces clause).map Token.ofPiece := by
      rw [(List.append_inj' split rfl).1]
      simp
    obtain ⟨piece, _, rfl⟩ := List.mem_map.mp inside
    rw [Token.text?_ofPiece] at counts
    exact lexicon.classify_some_ne_finish piece counts
  · rintro rfl
    have last := (List.append_inj' split rfl).2
    obtain rfl := List.head_eq_of_cons_eq last
    rfl

namespace Clause

/-- The meaning of a clause lies in its words. All of them are looked up, and none but the last
token is taken for the end. If some of them are unknown, the clause is rejected for these;
else it gives a command, if there is a verb among them; and in each case every slot holds the
last word of its class. So the outcome is the same when delimiters are added, replaced or
repeated between words, and when words of different categories change places; two clauses
have one outcome exactly if they have the same unknown words and the same last words. -/
theorem parsed_by_last_words (lexicon : Lexicon) (clause : Text) :
    (Log.clauseNotes lexicon clause).filterMap Log.Record.lookUp? =
      (words clause).map (fun word => (word, lexicon.classify (some word))) ∧
    (∀ front token back, tokens clause = front ++ token :: back →
      (lexicon.classify token.text? = .finish ↔ back = [])) ∧
    parse lexicon clause = meaning lexicon (words clause) ∧
    (∀ front gap other back, clause = front ++ gap ++ back → IsBreak gap → IsBreak other →
      (gap ≠ [] ∧ other ≠ [] ∨ isBoundary front.getLast? = true ∨ isBoundary back.head? = true) →
      parse lexicon (front ++ other ++ back) = parse lexicon clause) ∧
    (∀ other, lexicon.Rearranged (words clause) (words other) →
      parse lexicon other = parse lexicon clause) ∧
    ∀ other, parse lexicon other = parse lexicon clause ↔
      lexicon.ofCategory .unknown (words other) = lexicon.ofCategory .unknown (words clause) ∧
        commandOf lexicon (words other) = commandOf lexicon (words clause) := by
  refine ⟨Log.lookUps_clauseNotes lexicon clause, fun front token back => Token.finish_iff,
    parse_eq_meaning lexicon clause, ?delimiters, ?exchanged, ?exactly⟩
  case delimiters =>
    rintro front gap other back rfl broken again apart
    have before := apart.imp_left And.left
    have after := apart.imp_left And.right
    rw [parse_eq_meaning, parse_eq_meaning, words_around_break broken before,
      words_around_break again after]
  case exchanged =>
    intro other rearranged
    have same := rearranged.ofCategory_eq
    rw [parse_eq_meaning, parse_eq_meaning, meaning_eq_iff]
    refine ⟨(same .unknown).symm, Command.ext_get fun slot => ?_⟩
    rw [get_commandOf, get_commandOf, Lexicon.lastOf, Lexicon.lastOf, same]
  case exactly =>
    intro other
    rw [parse_eq_meaning, parse_eq_meaning, meaning_eq_iff]

/-- Other delimiters between two words, and words that change places: the verbs stay in order. -/
theorem parsed_by_last_words_at_drop :
    let lexicon := Lexicon.ofLists [(.word .verb, ["take".toList, "drop".toList]),
      (.word .article, ["the".toList]), (.word .noun, ["key".toList])]
    let clause := "take drop, the xyzzy key!".toList
    let mixed := "the take xyzzy key drop".toList
    let reversed := "drop the xyzzy key; take".toList
    IsBreak ", ".toList ∧ IsBreak "...[".toList ∧
    parse lexicon "take drop...[the xyzzy key!".toList = parse lexicon clause ∧
    lexicon.Rearranged (words clause) (words mixed) ∧ parse lexicon mixed = parse lexicon clause ∧
    parse lexicon clause = .error (.unknownWords ["xyzzy".toList]
      { action := "drop".toList, directObject := "key".toList }) ∧
    parse lexicon reversed ≠ parse lexicon clause := by
  intro lexicon clause mixed reversed
  have broken : IsBreak ", ".toList := by decide
  have again : IsBreak "...[".toList := by decide
  have rearranged : lexicon.Rearranged (words clause) (words mixed) := by
    apply Lexicon.rearranged_iff.mpr
    rintro (c | _ | _ | _)
    · cases c <;> decide +kernel
    · decide +kernel
    · decide +kernel
    · decide +kernel
  obtain ⟨_, _, meant, delimiters, exchanged, exactly⟩ := parsed_by_last_words lexicon clause
  have respaced := delimiters "take drop".toList ", ".toList "...[".toList "the xyzzy key!".toList
    rfl broken again (.inl (by decide))
  refine ⟨broken, again, respaced, rearranged, exchanged mixed rearranged, ?_, ?_⟩
  · rw [meant]
    decide +kernel
  · rw [ne_eq, exactly]
    decide +kernel

end Clause
end Imperative
