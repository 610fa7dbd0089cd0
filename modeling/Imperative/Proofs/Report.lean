import Imperative.Proofs.Composition
import Imperative.Proofs.Reading

/-! Reports of lines. A line that is not blank has a report of at least one clause. Each
clause gives a command or is rejected, and the unknown words of the rejections are those of
the line. -/
namespace Imperative

namespace Report

variable {clause : ClauseReport} {rest : List ClauseReport} {command : Command}
  {rejection : Rejection}

/-! A clause more in front of a report. -/

theorem commands_ok (given : clause.outcome = .ok command) (rest : List ClauseReport) :
    commands ⟨clause :: rest⟩ = command :: commands ⟨rest⟩ :=
  List.filterMap_cons_some (by rw [given]; rfl)

theorem commands_error (given : clause.outcome = .error rejection) (rest : List ClauseReport) :
    commands ⟨clause :: rest⟩ = commands ⟨rest⟩ :=
  List.filterMap_cons_none (by rw [given]; rfl)

theorem rejections_ok (given : clause.outcome = .ok command) (rest : List ClauseReport) :
    rejections ⟨clause :: rest⟩ = rejections ⟨rest⟩ :=
  List.filterMap_cons_none (by simp [given])

theorem rejections_error (given : clause.outcome = .error rejection) (rest : List ClauseReport) :
    rejections ⟨clause :: rest⟩ = rejection :: rejections ⟨rest⟩ :=
  List.filterMap_cons_some (by simp [given])

/-- Every clause of a report counts once, as dispatched or as rejected. -/
theorem dispatchedCount_add_errorCount (report : Report) :
    report.dispatchedCount + report.errorCount = report.clauses.length := by
  obtain ⟨clauses⟩ := report
  induction clauses with
  | nil => rfl
  | cons clause rest ih =>
    rw [dispatchedCount, errorCount] at ih ⊢
    cases given : clause.outcome with
    | ok command =>
      rw [commands_ok given, rejections_ok given, List.length_cons, List.length_cons, ← ih]
      omega
    | error rejection =>
      rw [commands_error given, rejections_error given, List.length_cons, List.length_cons, ← ih]
      omega

/-- The commands are the outcomes that are commands, in the order of the clauses. -/
theorem map_commands (report : Report) :
    report.commands.map .ok = (report.clauses.map (·.outcome)).filter Except.isOk := by
  obtain ⟨clauses⟩ := report
  induction clauses with
  | nil => rfl
  | cons clause rest ih =>
    rw [List.map_cons]
    cases given : clause.outcome with
    | ok command => rw [commands_ok given, List.map_cons, ih, List.filter_cons_of_pos rfl]
    | error rejection =>
      rw [commands_error given, ih, List.filter_cons_of_neg (Bool.eq_false_iff.mp rfl)]

end Report

namespace Line
open Text

variable {lexicon : Lexicon} {command : Command} {line : Text} {report : Report}

theorem clauses_of_parse (parsed : parse lexicon (some line) = .ok report) :
    report.clauses = reports lexicon (clauses (lower line)) := by
  cases blank : isBlank line with
  | true => simp [parse_some, blank] at parsed
  | false =>
    rw [parse_of_not_blank lexicon blank] at parsed
    rw [← Except.ok.inj parsed]

theorem mem_commands :
    command ∈ report.commands ↔ ∃ clause ∈ report.clauses, clause.outcome = .ok command := by
  refine List.mem_filterMap.trans (exists_congr fun clause => and_congr_right fun _ => ?_)
  cases clause.outcome <;> simp [Except.toOption]

theorem mem_rejections {rejection : Rejection} :
    rejection ∈ report.rejections ↔
      ∃ clause ∈ report.clauses, clause.outcome = .error rejection := by
  refine List.mem_filterMap.trans (exists_congr fun clause => and_congr_right fun _ => ?_)
  cases clause.outcome <;> simp

theorem unknown_reports (lexicon : Lexicon) (texts : List Text) :
    Report.unknown ⟨reports lexicon texts⟩ = (texts.flatMap words).filter lexicon.isUnknown := by
  simp only [Report.unknown, reports, List.flatMap_map, Clause.unknown_parse, List.filter_flatMap]

/-- The unknown words of a report are those of the line, less the separators. -/
theorem unknown_of_parse (lexicon : Lexicon) (filled : isBlank line = false) : ∃ report,
    parse lexicon (some line) = .ok report ∧ report.unknown =
      (words (normalize line)).filter fun word => word ≠ separator && lexicon.isUnknown word := by
  refine ⟨_, parse_of_not_blank lexicon filled, ?_⟩
  rw [unknown_reports, flatMap_words_clauses, Line.normalize, words_trim, List.filter_filter]
  simp only [Bool.and_comm]

/-- A line is no input, or its clauses are reported. -/
theorem parse_cases (lexicon : Lexicon) (line : Option Text) :
    (line.all isBlank = true ∧ parse lexicon line = .error .emptyInput) ∨
    ∃ text, line = some text ∧ isBlank text = false ∧
      parse lexicon line = .ok ⟨reports lexicon (clauses (lower text))⟩ := by
  cases line with
  | none => exact .inl ⟨rfl, rfl⟩
  | some text =>
    cases blank : isBlank text with
    | true => exact .inl ⟨blank, by simp [parse_some, blank]⟩
    | false => exact .inr ⟨text, rfl, blank, parse_of_not_blank lexicon blank⟩

end Line
end Imperative
