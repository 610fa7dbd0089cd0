import Imperative.Reply
import Imperative.Proofs.Report

/-! What becomes of each part of a line. Its commands reach the handler and nothing else
does; each unknown word and each clause without an action is answered by one message; and
the words of the line that are neither separators nor read are the unknown ones. -/
namespace Imperative
open Text Line

namespace Transcript

/-- What a transcript holds beside the log. -/
def unlogged (events : Transcript) : Transcript := events.filter (·.noted?.isNone)

theorem unlogged_append (first second : Transcript) :
    unlogged (first ++ second) = first.unlogged ++ second.unlogged :=
  List.filter_append first second

theorem unlogged_notes (records : List Log.Record) : unlogged (records.map Event.note) = [] := by
  induction records with
  | nil => rfl
  | cons record rest ih => exact ih

theorem unlogged_flatMap {α : Type} (items : List α) (f : α → Transcript) :
    unlogged (items.flatMap f) = items.flatMap fun item => (f item).unlogged :=
  List.filter_flatMap

/-- A view that does not show the log sees no difference. -/
theorem filterMap_unlogged {α : Type} {view : Event → Option α}
    (ignores : ∀ record, view (.note record) = none) (events : Transcript) :
    events.unlogged.filterMap view = events.filterMap view := by
  rw [unlogged, List.filterMap_filter]
  congr 1
  funext event
  cases event <;> simp [Event.noted?, ignores]

end Transcript

/-- The message about a word that is not in the vocabulary. -/
def complaint (word : Text) : Text := "I don't understand '".toList ++ word ++ ['\'', '.']

/-- The message about a clause in which there is nothing to do. -/
def question : Text := "What do you want to do?".toList

namespace Outcome

/-- All words are known, but there is no action among them. -/
def isIncomplete : Outcome → Bool
  | .error (.incomplete _) => true
  | _ => false

/-- One message for each unknown word, or one for the missing action. -/
def replies (outcome : Outcome) : List Text :=
  outcome.unknown.map complaint ++ if outcome.isIncomplete then [question] else []

theorem replies_eq (rejection : Rejection) :
    replies (.error rejection) = rejection.replies := by
  cases rejection with
  | emptyInput => rfl
  | unknownWords words command => exact List.append_nil _
  | incomplete command => rfl

theorem length_replies (outcome : Outcome) :
    outcome.replies.length = outcome.unknown.length + if outcome.isIncomplete then 1 else 0 := by
  rw [replies, List.length_append, List.length_map]
  split <;> rfl

end Outcome

namespace Report

theorem diagnostics_eq (report : Report) :
    report.diagnostics = report.clauses.flatMap (·.outcome.replies) := by
  obtain ⟨clauses⟩ := report
  induction clauses with
  | nil => rfl
  | cons clause rest ih =>
    rw [diagnostics] at ih ⊢
    rw [List.flatMap_cons, ← ih]
    cases given : clause.outcome with
    | ok command => rw [rejections_ok given]; rfl
    | error rejection => rw [rejections_error given, List.flatMap_cons, Outcome.replies_eq]

theorem length_diagnostics (report : Report) : report.diagnostics.length =
    report.unknown.length + report.clauses.countP (·.outcome.isIncomplete) := by
  rw [diagnostics_eq, unknown]
  induction report.clauses with
  | nil => rfl
  | cons clause rest ih =>
    rw [List.flatMap_cons, List.flatMap_cons, List.length_append, List.length_append, ih,
      Outcome.length_replies, List.countP_cons]
    omega

end Report

namespace Clause

theorem parse_ne_emptyInput (lexicon : Lexicon) (clause : Text) :
    parse lexicon clause ≠ .error .emptyInput := by
  rw [parse_eq_outcome]
  rcases outcome_cases (readWords lexicon (words clause)) with ⟨_, same⟩ | ⟨_, same⟩ | ⟨_, same⟩ <;>
    simp [same]

/-- Only a clause that gives a command is passed over in silence. -/
theorem replies_parse_eq_nil_iff (lexicon : Lexicon) (clause : Text) :
    Outcome.replies (parse lexicon clause) = [] ↔
      ∃ command, parse lexicon clause = .ok command := by
  rw [parse_eq_outcome]
  rcases outcome_cases (readWords lexicon (words clause)) with
    ⟨unknown, same⟩ | ⟨_, same⟩ | ⟨_, same⟩
  · simp [same, Outcome.replies, Outcome.unknown, unknown]
  · simp [same, Outcome.replies, Outcome.unknown, Outcome.isIncomplete]
  · simp [same, Outcome.replies, Outcome.unknown, Outcome.isIncomplete]

end Clause

namespace Line

variable {lexicon : Lexicon} {line : Option Text} {report : Report}

theorem dispatch_result (lexicon : Lexicon) (handle : Command → Transcript) (line : Option Text) :
    (dispatch lexicon handle line).2 = parse lexicon line := by
  unfold dispatch
  split <;> simp [*]

/-- Beside the log, dispatching a line is what its handler does with the commands. -/
theorem unlogged_dispatch (handle : Command → Transcript)
    (parsed : parse lexicon line = .ok report) : (dispatch lexicon handle line).1.unlogged =
      report.commands.flatMap fun command => (handle command).unlogged := by
  rw [dispatch, parsed, Transcript.unlogged_append, Transcript.unlogged_notes,
    Transcript.unlogged_flatMap, List.nil_append]
  rfl

theorem diagnostics_reports_eq_nil_iff (lexicon : Lexicon) (texts : List Text) :
    Report.diagnostics ⟨reports lexicon texts⟩ = [] ↔
      ∀ clause ∈ reports lexicon texts, ∃ command, clause.outcome = .ok command := by
  rw [Report.diagnostics_eq, List.flatMap_eq_nil_iff]
  simp only [reports, List.forall_mem_map, Clause.replies_parse_eq_nil_iff]

/-- Accounting of a line. A line that is absent or blank is no input, and nothing is done
about it. Any other line has a report of at least one clause, each of which is dispatched or
rejected. The handler is given the commands among the outcomes, in order and once each. The
words that the clauses were rejected for are the words of the line that are neither
separators nor known; there is one message for each of them and one for each clause without
an action, clause by clause, and none only if every clause was dispatched. -/
theorem dispatch_accounted (lexicon : Lexicon) (handle : Command → Transcript)
    (line : Option Text) :
    ((dispatch lexicon handle line).2 = .error .emptyInput ↔ line.all isBlank = true) ∧
    (line.all isBlank = true → (dispatch lexicon handle line).1 = []) ∧
    ∀ text, line = some text → isBlank text = false → ∃ report,
      (dispatch lexicon handle line).2 = .ok report ∧ report.clauses ≠ [] ∧
      (∀ clause ∈ report.clauses, clause.outcome ≠ .error .emptyInput) ∧
      report.dispatchedCount + report.errorCount = report.clauses.length ∧
      report.commands.map .ok = (report.clauses.map (·.outcome)).filter Except.isOk ∧
      (dispatch lexicon handle line).1.unlogged =
        report.commands.flatMap (fun command => (handle command).unlogged) ∧
      report.unknown = (words (normalize text)).filter
        (fun word => word ≠ separator && lexicon.isUnknown word) ∧
      report.diagnostics = report.clauses.flatMap (fun clause =>
        clause.outcome.unknown.map complaint ++
          if clause.outcome.isIncomplete then [question] else []) ∧
      report.diagnostics.length =
        report.unknown.length + report.clauses.countP (·.outcome.isIncomplete) ∧
      (report.diagnostics = [] ↔
        ∀ clause ∈ report.clauses, ∃ command, clause.outcome = .ok command) := by
  rcases parse_cases lexicon line with ⟨blank, parsed⟩ | ⟨text, rfl, filled, parsed⟩
  · refine ⟨?_, fun _ => by rw [dispatch, parsed], ?_⟩
    · rw [dispatch_result, parsed]
      exact iff_of_true rfl blank
    · rintro text rfl filled
      exact absurd blank (Bool.eq_false_iff.mp filled)
  · have present : (some text).all isBlank ≠ true := Bool.eq_false_iff.mp filled
    refine ⟨?_, fun blank => absurd blank present, ?_⟩
    · rw [dispatch_result, parsed]
      exact iff_of_false (by simp) present
    · intro other same _
      obtain rfl := Option.some.inj same
      obtain ⟨report, same, unknown⟩ := unknown_of_parse lexicon filled
      obtain rfl := Except.ok.inj (parsed.symm.trans same)
      refine ⟨_, (dispatch_result lexicon handle _).trans parsed, ?_, ?_,
        Report.dispatchedCount_add_errorCount _, Report.map_commands _,
        unlogged_dispatch handle parsed, unknown, Report.diagnostics_eq _,
        Report.length_diagnostics _, diagnostics_reports_eq_nil_iff lexicon _⟩
      · simpa [reports, clauses] using segments_ne_nil (lower text)
      · intro clause member
        obtain ⟨piece, _, rfl⟩ := List.mem_map.mp member
        exact Clause.parse_ne_emptyInput lexicon piece

/-- A known command, an unknown word, a clause without an action and an empty one. The
separator is listed as a verb, which makes no clause of it. -/
theorem dispatch_accounted_at_mixture :
    let lexicon := Lexicon.ofLists [(.word .verb, ["and".toList, "take".toList]),
      (.word .noun, ["key".toList])]
    let handle : Command → Transcript := fun command => [.carryOut command]
    let line := "Take key AND take zork! and the Key and".toList
    isBlank line = false ∧ ∃ report, (dispatch lexicon handle (some line)).2 = .ok report ∧
      (dispatch lexicon handle (some line)).1.unlogged =
        [.carryOut { action := "take".toList, directObject := "key".toList }] ∧
      report.unknown = ["zork".toList, "the".toList] ∧
      report.diagnostics = [complaint "zork".toList, complaint "the".toList, question] := by
  intro lexicon handle line
  have filled : isBlank line = false := by decide
  have lowered : lower line = "take key and take zork! and the key and".toList := by
    decide +kernel
  obtain ⟨report, given, _, _, _, _, handled, unknown, _⟩ :=
    (dispatch_accounted lexicon handle (some line)).2.2 line rfl filled
  have parsed := (dispatch_result lexicon handle (some line)).symm.trans given
  rw [parse_of_not_blank lexicon filled] at parsed
  obtain rfl := Except.ok.inj parsed
  refine ⟨filled, _, given, handled.trans ?_, unknown.trans ?_, ?_⟩
  · rw [lowered]
    decide +kernel
  · rw [normalize, lowered]
    decide +kernel
  · rw [lowered]
    decide +kernel

end Line
end Imperative
