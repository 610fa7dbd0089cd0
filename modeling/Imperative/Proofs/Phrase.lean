import Imperative.Proofs.Report
import Imperative.Proofs.Text.Places

/-! Commands read out and read again. What a slot holds is a whole word that the lexicon
reads into that slot, so the words of a command, in the order of the slots, give the
command again, whatever other words the clause had. -/
namespace Imperative
open Text

variable {lexicon : Lexicon} {command : Command} {slot : Slot} {word : Text}

/-- Every slot holds a whole word that the lexicon reads into it. -/
structure Command.Fits (lexicon : Lexicon) (command : Command) : Prop where
  whole : ∀ slot word, command.get slot = some word → Unbroken word ∧ word ≠ []
  fills : ∀ slot word, command.get slot = some word → lexicon.slotOf word = some slot

namespace Command

def contents (command : Command) : List Text := command.filled.map (·.2)

theorem mem_filled {pair : Slot × Text} :
    pair ∈ command.filled ↔ command.get pair.1 = some pair.2 := by
  have every (slot : Slot) : slot ∈ Slot.all := by cases slot <;> decide
  simp only [filled, List.mem_filterMap, Option.map_eq_some_iff]
  constructor
  · rintro ⟨slot, _, word, held, rfl⟩
    exact held
  · intro held
    exact ⟨pair.1, every _, pair.2, held, rfl⟩

theorem mem_contents : word ∈ command.contents ↔ ∃ slot, command.get slot = some word := by
  simp only [contents, List.mem_map, mem_filled]
  constructor
  · rintro ⟨⟨slot, _⟩, held, rfl⟩
    exact ⟨slot, held⟩
  · rintro ⟨slot, held⟩
    exact ⟨(slot, word), held, rfl⟩

theorem filled_filter (command : Command) (slot : Slot) : command.filled.filter (·.1 = slot) =
    ((command.get slot).map fun word => (slot, word)).toList := by
  have only : Slot.all.filter (· = slot) = [slot] := by cases slot <;> rfl
  have kept : command.filled.filter (·.1 = slot) = (Slot.all.filter (· = slot)).filterMap fun slot =>
      (command.get slot).map fun word => (slot, word) := by
    rw [filled, List.filter_filterMap, List.filterMap_filter]
    congr 1
    funext other
    cases command.get other <;> simp [Option.filter]
  rw [kept, only]
  cases held : command.get slot <;> simp [held]

namespace Fits

theorem whole_contents (fits : command.Fits lexicon) :
    ∀ word ∈ command.contents, Unbroken word ∧ word ≠ [] := by
  intro word member
  obtain ⟨slot, held⟩ := mem_contents.mp member
  exact fits.whole slot word held

theorem words_phrase (fits : command.Fits lexicon) : words command.phrase = command.contents :=
  words_join_words (by decide) fits.whole_contents

/-- The words of a command are read into the slots they came from. -/
theorem readWords_contents (fits : command.Fits lexicon) :
    Clause.readWords lexicon command.contents = ⟨command, []⟩ := by
  have unknown : (Clause.readWords lexicon command.contents).unknown = [] := by
    rw [Clause.unknown_readWords, List.filter_eq_nil_iff]
    intro word member
    obtain ⟨slot, held⟩ := mem_contents.mp member
    exact Bool.eq_false_iff.mp (Lexicon.isUnknown_of_slotOf (fits.fills slot word held))
  have filled : (Clause.readWords lexicon command.contents).command = command := by
    apply ext_get
    intro slot
    have same : command.filled.filter (fun pair => lexicon.slotOf pair.2 = some slot) =
        command.filled.filter (·.1 = slot) := by
      apply List.filter_congr
      intro pair member
      rw [fits.fills pair.1 pair.2 (mem_filled.mp member)]
      simp only [Option.some.injEq]
    have held : command.contents.filter (lexicon.slotOf · = some slot) = (command.get slot).toList := by
      rw [contents, List.filter_map]
      have pairs := congrArg (List.map (·.2)) (same.trans (filled_filter command slot))
      refine pairs.trans ?_
      cases command.get slot <;> rfl
    rw [Clause.get_readWords, held]
    cases command.get slot <;> rfl
  exact congrArg₂ Clause.Reading.mk filled unknown

theorem isComplete_eq (fits : command.Fits lexicon) :
    command.isComplete = command.action.isSome := by
  cases held : command.action with
  | none => simp [isComplete, held]
  | some word =>
    have nonempty := (fits.whole .action word held).2
    simp [isComplete, held, nonempty]

/-- A command that is read out is read again, or found incomplete if it has no action. -/
theorem parse_phrase (fits : command.Fits lexicon) : Clause.parse lexicon command.phrase =
    if command.action.isSome then .ok command else .error (.incomplete command) := by
  rw [Clause.parse_eq_outcome, fits.words_phrase, fits.readWords_contents,
    Clause.outcome_of_unknown_eq_nil rfl, fits.isComplete_eq]

end Fits
end Command

namespace Clause

/-- What is understood of a clause fits the lexicon, and its words are words of the clause. -/
theorem understood_fits (lexicon : Lexicon) (clause : Text) : ∃ command,
    Outcome.understood? (parse lexicon clause) = some command ∧ command.Fits lexicon ∧
      command.contents ⊆ words clause := by
  refine ⟨(readWords lexicon (words clause)).command, ?_, ⟨?_, ?_⟩, ?_⟩
  · rw [parse_eq_outcome, understood_outcome]
  · intro slot word held
    obtain ⟨before, after, place⟩ := wordAt_of_mem (of_get_readWords held).1
    exact ⟨place.unbroken, place.nonempty⟩
  · intro slot word held
    exact (of_get_readWords held).2
  · intro word member
    obtain ⟨slot, held⟩ := Command.mem_contents.mp member
    exact (of_get_readWords held).1

theorem isComplete_of_parse {clause : Text} (parsed : parse lexicon clause = .ok command) :
    command.isComplete = true := by
  rw [parse_eq_outcome, outcome_eq_ok_iff] at parsed
  exact parsed.2.2

end Clause

namespace Line

/-- A word as it comes out of a line: lowercased, and not the separator. -/
def Plain (word : Text) : Prop := word ≠ separator ∧ ∀ c ∈ word, Settled c

theorem plain_of_mem {line clause : Text} (inside : clause ∈ clauses (lower line))
    (member : word ∈ words clause) : Plain word := by
  obtain ⟨listed, other⟩ := mem_words_of_mem_clauses inside member
  obtain ⟨before, after, place⟩ := wordAt_of_mem listed
  refine ⟨other, fun c within => ?_⟩
  have part : c ∈ lower line := by simp [place.split, within]
  exact settled_of_mem_lower part

theorem clauses_phrase (fits : command.Fits lexicon)
    (plain : ∀ word ∈ command.contents, Plain word) :
    clauses command.phrase = [command.phrase] := by
  have absent : separator ∉ words command.phrase := by
    rw [fits.words_phrase]
    exact fun member => (plain separator member).1 rfl
  have trimmed : trim command.phrase = command.phrase := trim_join_words [' '] fits.whole_contents
  rw [clauses, segments_of_not_mem absent, List.map_singleton, trimmed]

theorem lower_phrase (plain : ∀ word ∈ command.contents, Plain word) :
    lower command.phrase = command.phrase := by
  apply lower_settled
  intro c member
  rcases mem_join member with space | ⟨word, inside, within⟩
  · obtain rfl := List.mem_singleton.mp space
    exact settled_of_isDelimiter (by decide)
  · exact (plain word inside).2 c within

theorem parse_phrase (fits : command.Fits lexicon) (plain : ∀ word ∈ command.contents, Plain word)
    (acts : command.action.isSome = true) :
    parse lexicon (some command.phrase) = .ok ⟨[⟨command.phrase, .ok command⟩]⟩ := by
  have filled : isBlank command.phrase = false := by
    apply Bool.eq_false_iff.mpr
    intro blank
    obtain ⟨word, held⟩ := Option.isSome_iff_exists.mp acts
    have member : word ∈ command.contents := Command.mem_contents.mpr ⟨.action, held⟩
    rw [← fits.words_phrase, words_blank blank] at member
    contradiction
  rw [parse_of_not_blank lexicon filled, lower_phrase plain, clauses_phrase fits plain, reports,
    List.map_singleton, fits.parse_phrase, if_pos acts]

/-- What was understood of a clause of a line fits the lexicon and is written in plain words. -/
theorem understood_of_parse {line : Text} {report : Report} {clause : ClauseReport}
    (parsed : parse lexicon (some line) = .ok report) (member : clause ∈ report.clauses) :
    ∃ understood, clause.outcome.understood? = some understood ∧ understood.Fits lexicon ∧
      (∀ word ∈ understood.contents, Plain word) ∧
      ∀ command, clause.outcome = .ok command → command.isComplete = true := by
  rw [clauses_of_parse parsed] at member
  obtain ⟨text, inside, rfl⟩ := List.mem_map.mp member
  obtain ⟨understood, same, fits, contents⟩ := Clause.understood_fits lexicon text
  exact ⟨understood, same, fits, fun word held => plain_of_mem inside (contents held),
    fun command given => Clause.isComplete_of_parse given⟩

/-- Commands read out and read again. Each command of a line, written as a line, is a line
of one clause that gives this command. What was understood of a rejected clause, written as
a clause, gives a command if there is an action in it, and is incomplete if there is none. -/
theorem phrase_read_back {line : Text} {report : Report}
    (parsed : parse lexicon (some line) = .ok report) :
    (∀ command ∈ report.commands,
      parse lexicon (some command.phrase) = .ok ⟨[⟨command.phrase, .ok command⟩]⟩) ∧
    ∀ rejection ∈ report.rejections, ∃ understood, rejection.understood? = some understood ∧
      Clause.parse lexicon understood.phrase =
        if understood.action.isSome then .ok understood else .error (.incomplete understood) := by
  constructor
  · intro command member
    obtain ⟨clause, inside, given⟩ := mem_commands.mp member
    obtain ⟨understood, same, fits, plain, complete⟩ := understood_of_parse parsed inside
    rw [given] at same
    obtain rfl : command = understood := Option.some.inj same
    have acts := complete command given
    rw [fits.isComplete_eq] at acts
    exact parse_phrase fits plain acts
  · intro rejection member
    obtain ⟨clause, inside, given⟩ := mem_rejections.mp member
    obtain ⟨understood, same, fits, _, _⟩ := understood_of_parse parsed inside
    rw [given] at same
    exact ⟨understood, same, fits.parse_phrase⟩

/-- The separator is listed as a verb, and two words are listed twice. -/
theorem phrase_read_back_at_sigma :
    let lexicon := Lexicon.ofLists [(.word .verb, ["and".toList, "take".toList]),
      (.word .noun, ["take".toList, "ας".toList]), (.word .number, ["2".toList]),
      (.word .pronoun, ["ας".toList])]
    let command : Command :=
      { action := "take".toList, quantity := "2".toList, directObject := "ας".toList }
    let understood : Command := { quantity := "2".toList }
    ∃ report, parse lexicon (some "Take: ΑΣ! 2 AND 'and' 2 Zork".toList) = .ok report ∧
      command ∈ report.commands ∧ .unknownWords ["zork".toList] understood ∈ report.rejections ∧
      parse lexicon (some "take 2 ας".toList) = .ok ⟨[⟨"take 2 ας".toList, .ok command⟩]⟩ ∧
      Clause.parse lexicon "2".toList = .error (.incomplete understood) := by
  intro lexicon command understood
  have filled : isBlank "Take: ΑΣ! 2 AND 'and' 2 Zork".toList = false := by decide
  have parsed := parse_of_not_blank lexicon filled
  refine ⟨_, parsed, ?_⟩
  have given : command ∈ Report.commands
      ⟨reports lexicon (clauses (lower "Take: ΑΣ! 2 AND 'and' 2 Zork".toList))⟩ := by
    decide +kernel
  have rejected : .unknownWords ["zork".toList] understood ∈ Report.rejections
      ⟨reports lexicon (clauses (lower "Take: ΑΣ! 2 AND 'and' 2 Zork".toList))⟩ := by
    decide +kernel
  obtain ⟨commands, rejections⟩ := phrase_read_back parsed
  obtain ⟨found, same, again⟩ := rejections _ rejected
  obtain rfl : understood = found := Option.some.inj same
  exact ⟨given, rejected, commands command given, again⟩

end Line
end Imperative
