import Imperative.Proofs.Accounting
import Imperative.Proofs.Lexicon.Entries
import Mathlib.Data.List.Flatten

/-! Lexicons that list more. A word that is listed never becomes unknown when others are
added, but it may come to count as another class, if it is added under one that goes before
its own. Where no word does, the clauses whose words are all known are read as before. -/
namespace Imperative
open Text Line

variable {lexicon other : Lexicon} {word : Text} {words : List Text}

namespace Lexicon

/-- The other lexicon lists every word of this one under its classes, and perhaps more. -/
def ExtendedBy (lexicon other : Lexicon) : Prop :=
  ∀ c word, lexicon.contains c word = true → other.contains c word = true

/-- In the other lexicon every listed word counts as it does in this one. -/
def KeptBy (lexicon other : Lexicon) : Prop :=
  ∀ word c, lexicon.classify (some word) = .word c → other.classify (some word) = .word c

theorem extendedBy_insertAll (lexicon : Lexicon) (category : Category) (added : List Text) :
    lexicon.ExtendedBy (lexicon.insertAll category added) := by
  intro c word listed
  exact contains_insertAll.mpr (.inr listed)

theorem ExtendedBy.isUnknown (extended : lexicon.ExtendedBy other)
    (unknown : other.isUnknown word = true) : lexicon.isUnknown word = true := by
  obtain ⟨nonempty, unlisted⟩ := classify_eq_unknown_iff.mp (of_decide_eq_true unknown)
  apply decide_eq_true
  refine classify_eq_unknown_iff.mpr ⟨nonempty, fun c => Bool.eq_false_iff.mpr ?_⟩
  intro listed
  exact absurd (extended c word listed) (Bool.eq_false_iff.mp (unlisted c))

/-- Listed words count as before exactly if no class that is added to them goes before the
one they count as. -/
theorem ExtendedBy.keptBy_iff (extended : lexicon.ExtendedBy other) :
    lexicon.KeptBy other ↔ ∀ word c, lexicon.classify (some word) = .word c →
      ∀ d, other.contains d word = true → lexicon.contains d word = false → c.rank < d.rank := by
  constructor
  · intro kept word c counts d added new
    have below : c.rank ≤ d.rank := (classify_eq_word_iff.mp (kept word c counts)).2 d added
    refine Nat.lt_of_le_of_ne below fun same => ?_
    obtain rfl := WordClass.rank_injective same
    rw [(classify_eq_word_iff.mp counts).1] at new
    contradiction
  · intro later word c counts
    obtain ⟨listed, least⟩ := classify_eq_word_iff.mp counts
    refine classify_eq_word_iff.mpr ⟨extended c word listed, fun d inside => ?_⟩
    cases before : lexicon.contains d word with
    | true => exact least d before
    | false => exact Nat.le_of_lt (later word c counts d inside before)

theorem KeptBy.classify_eq (kept : lexicon.KeptBy other) (known : lexicon.isUnknown word = false) :
    other.classify (some word) = lexicon.classify (some word) := by
  by_cases empty : word = []
  · subst word
    rfl
  · have counts : lexicon.classify (some word) = _ := classify_of_ne_nil empty
    cases found : WordClass.priority.find? (lexicon.contains · word) with
    | some c =>
      rw [found] at counts
      exact (kept word c counts).trans counts.symm
    | none =>
      rw [found] at counts
      exact absurd counts (of_decide_eq_false known)

end Lexicon

namespace Clause

theorem readWords_congr
    (alike : ∀ word ∈ words, other.classify (some word) = lexicon.classify (some word)) :
    readWords other words = readWords lexicon words := by
  apply List.foldl_ext
  intro reading word member
  rw [Reading.takeWord, Reading.takeWord, alike word member]

theorem unknown_sublist (extended : lexicon.ExtendedBy other) (clause : Text) :
    (Outcome.unknown (parse other clause)).Sublist (Outcome.unknown (parse lexicon clause)) := by
  rw [unknown_parse, unknown_parse]
  apply List.monotone_filter_right
  intro word unknown
  exact extended.isUnknown unknown

/-- A clause without unknown words is read as before. -/
theorem parse_eq_of_known (kept : lexicon.KeptBy other) {clause : Text}
    (known : Outcome.unknown (parse lexicon clause) = []) :
    parse other clause = parse lexicon clause := by
  rw [unknown_parse, List.filter_eq_nil_iff] at known
  rw [parse_eq_outcome, parse_eq_outcome]
  refine congrArg Reading.outcome (readWords_congr fun word member => ?_)
  exact kept.classify_eq (Bool.eq_false_iff.mpr (known word member))

theorem parse_eq_of_settled (kept : lexicon.KeptBy other) {clause : Text} {command : Command}
    (settled : parse lexicon clause = .ok command ∨
      parse lexicon clause = .error (.incomplete command)) :
    parse other clause = parse lexicon clause := by
  apply parse_eq_of_known kept
  rcases settled with given | given <;> rw [given] <;> rfl

end Clause

/-- Commands stay where clauses keep theirs. -/
theorem Report.commands_sublist {clauses later : List ClauseReport}
    (kept : List.Forall₂ (fun clause next => ∀ command, clause.outcome = .ok command →
      next.outcome = .ok command) clauses later) :
    (commands ⟨clauses⟩).Sublist (commands ⟨later⟩) := by
  induction kept with
  | nil => exact .slnil
  | @cons clause next rest later same kept ih =>
    cases given : clause.outcome with
    | ok command =>
      rw [commands_ok given, commands_ok (same command given)]
      exact ih.cons_cons command
    | error rejection =>
      rw [commands_error given]
      cases gained : next.outcome with
      | ok command =>
        rw [commands_ok gained]
        exact ih.cons command
      | error rejection => rwa [commands_error gained]

namespace Line

theorem forall₂_reports {related : ClauseReport → ClauseReport → Prop}
    (each : ∀ text, related ⟨text, Clause.parse lexicon text⟩ ⟨text, Clause.parse other text⟩)
    (texts : List Text) : List.Forall₂ related (reports lexicon texts) (reports other texts) := by
  rw [reports, reports, List.forall₂_map_left_iff, List.forall₂_map_right_iff, List.forall₂_same]
  intro text _
  exact each text

theorem commands_reports_sublist (kept : lexicon.KeptBy other) (texts : List Text) :
    (Report.commands ⟨reports lexicon texts⟩).Sublist (Report.commands ⟨reports other texts⟩) := by
  apply Report.commands_sublist
  apply forall₂_reports
  intro clause command given
  exact (Clause.parse_eq_of_settled kept (.inl given)).trans given

/-- Extending a vocabulary is conservative. What is no input stays none, and a line has the
same clauses as before; the words that a clause is then rejected for are among those it was
rejected for, in the same order. If besides every listed word counts as before, which is so
exactly if no class that is added to it goes before its own, then every clause that gave a
command or lacked an action has the same outcome. So the commands of the line are among
those it then has, in the same order, and whatever a handler did for them it then does. -/
theorem extended_conservatively (extended : lexicon.ExtendedBy other) (line : Option Text) :
    (lexicon.KeptBy other ↔ ∀ word c, lexicon.classify (some word) = .word c →
      ∀ d, other.contains d word = true → lexicon.contains d word = false → c.rank < d.rank) ∧
    ((parse lexicon line = .error .emptyInput ∧ parse other line = .error .emptyInput) ∨
      ∃ report later, parse lexicon line = .ok report ∧ parse other line = .ok later ∧
        List.Forall₂ (fun clause next => next.text = clause.text ∧
          next.outcome.unknown.Sublist clause.outcome.unknown) report.clauses later.clauses ∧
        (lexicon.KeptBy other →
          List.Forall₂ (fun clause next => ∀ command, clause.outcome = .ok command ∨
              clause.outcome = .error (.incomplete command) → next.outcome = clause.outcome)
            report.clauses later.clauses ∧
          report.commands.Sublist later.commands ∧
          ∀ handle, (dispatch lexicon handle line).1.unlogged.Sublist
            (dispatch other handle line).1.unlogged)) := by
  refine ⟨extended.keptBy_iff, ?_⟩
  rcases parse_cases lexicon line with ⟨absent, none⟩ | ⟨text, rfl, filled, parsed⟩
  · rcases parse_cases other line with ⟨_, again⟩ | ⟨text, rfl, filled, _⟩
    · exact .inl ⟨none, again⟩
    · exact absurd absent (Bool.eq_false_iff.mp filled)
  · right
    have again := parse_of_not_blank other filled
    refine ⟨_, _, parsed, again, ?texts, fun kept => ?kept⟩
    case texts =>
      exact forall₂_reports (fun text => ⟨rfl, Clause.unknown_sublist extended text⟩) _
    case kept =>
      refine ⟨?outcomes, commands_reports_sublist kept _, fun handle => ?handled⟩
      case outcomes =>
        apply forall₂_reports
        intro clause command settled
        exact Clause.parse_eq_of_settled kept settled
      case handled =>
        rw [unlogged_dispatch handle parsed, unlogged_dispatch handle again]
        exact (commands_reports_sublist kept _).flatMap _

/-- Two nouns more, of which one was unknown and the other stays the verb that it is. -/
theorem extended_conservatively_at_lamp :
    let lexicon := Lexicon.ofLists [(.word .verb, ["take".toList]), (.word .noun, ["key".toList])]
    let other := lexicon.insertAll (.word .noun) ["lamp".toList, "take".toList]
    let line := "Take key AND take lamp and frob".toList
    lexicon.ExtendedBy other ∧ lexicon.KeptBy other ∧ ∃ report later,
      parse lexicon (some line) = .ok report ∧ parse other (some line) = .ok later ∧
      report.unknown = ["lamp".toList, "frob".toList] ∧ later.unknown = ["frob".toList] ∧
      report.commands = [{ action := "take".toList, directObject := "key".toList }] ∧
      later.commands = [{ action := "take".toList, directObject := "key".toList },
        { action := "take".toList, directObject := "lamp".toList }] ∧
      report.commands.Sublist later.commands := by
  intro lexicon other line
  have extended : lexicon.ExtendedBy other := lexicon.extendedBy_insertAll _ _
  obtain ⟨keptBy_iff, read⟩ := extended_conservatively extended (some line)
  have kept : lexicon.KeptBy other := by
    apply keptBy_iff.mpr
    intro word c counts d added new
    rcases Lexicon.contains_insertAll.mp added with ⟨noun, member, _⟩ | before
    · obtain rfl := Category.word.inj noun
      obtain rfl | rfl : word = "lamp".toList ∨ word = "take".toList := by simpa using member
      · have unlisted : lexicon.classify (some "lamp".toList) = .unknown := by decide +kernel
        rw [unlisted] at counts
        contradiction
      · have verb : lexicon.classify (some "take".toList) = .word .verb := by decide +kernel
        obtain rfl := Category.word.inj (counts.symm.trans verb)
        decide
    · rw [before] at new
      contradiction
  have filled : isBlank line = false := by decide
  have lowered : lower line = "take key and take lamp and frob".toList := by decide +kernel
  have parsing (vocabulary : Lexicon) : parse vocabulary (some line) =
      .ok ⟨reports vocabulary (clauses "take key and take lamp and frob".toList)⟩ := by
    rw [parse_of_not_blank vocabulary filled, lowered]
  obtain ⟨none, _⟩ | ⟨report, later, parsed, again, _, conserved⟩ := read
  · rw [parsing] at none
    contradiction
  · obtain rfl := Except.ok.inj ((parsing lexicon).symm.trans parsed)
    obtain rfl := Except.ok.inj ((parsing other).symm.trans again)
    obtain ⟨_, commands, _⟩ := conserved kept
    refine ⟨extended, kept, _, _, parsed, again, ?_, ?_, ?_, ?_, commands⟩ <;> decide +kernel

end Line
end Imperative
