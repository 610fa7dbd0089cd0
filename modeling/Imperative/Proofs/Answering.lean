import Imperative.Proofs.Accounting
import Imperative.Proofs.Phrase
import Imperative.Session

/-! The answer to one line. The commands of the line are carried out and its unknown words
and incomplete clauses are replied to; nothing is asked or remembered for it. What is said
is made of labels and of words, so that no exclamation mark is ever said. -/
namespace Imperative
open Text

namespace Transcript

/-- A view of a transcript that shows neither the log nor warnings. -/
structure Overlooks {α : Type} (view : Event → Option α) : Prop where
  note : ∀ record, view (.note record) = none
  warn : ∀ text, view (.warn text) = none

theorem overlooks_said : Overlooks Event.said? := ⟨fun _ => rfl, fun _ => rfl⟩

theorem overlooks_prompt : Overlooks Event.prompt? := ⟨fun _ => rfl, fun _ => rfl⟩

theorem overlooks_remembered : Overlooks Event.remembered? := ⟨fun _ => rfl, fun _ => rfl⟩

theorem overlooks_command : Overlooks Event.command? := ⟨fun _ => rfl, fun _ => rfl⟩

end Transcript

namespace Line

variable {lexicon : Lexicon} {line word : Text} {command : Command} {report : Report}

/-- The report of a line, which is empty if the line is blank. -/
def reportOf (lexicon : Lexicon) (line : Text) : Report :=
  match parse lexicon (some line) with
  | .ok report => report
  | .error _ => ⟨[]⟩

theorem reportOf_blank (lexicon : Lexicon) (blank : isBlank line = true) :
    reportOf lexicon line = ⟨[]⟩ := by
  simp [reportOf, parse_some, blank]

theorem parse_eq_reportOf (lexicon : Lexicon) (filled : isBlank line = false) :
    parse lexicon (some line) = .ok (reportOf lexicon line) := by
  rw [reportOf, parse_of_not_blank lexicon filled]

theorem fits_of_mem_commands (member : command ∈ (reportOf lexicon line).commands) :
    command.Fits lexicon := by
  cases blank : isBlank line with
  | true =>
    rw [reportOf_blank lexicon blank] at member
    contradiction
  | false =>
    obtain ⟨clause, inside, given⟩ := mem_commands.mp member
    obtain ⟨understood, same, fits, _, _⟩ :=
      understood_of_parse (parse_eq_reportOf lexicon blank) inside
    rw [given] at same
    obtain rfl : command = understood := Option.some.inj same
    exact fits

theorem unbroken_of_mem_unknown (member : word ∈ (reportOf lexicon line).unknown) :
    Unbroken word := by
  cases blank : isBlank line with
  | true =>
    rw [reportOf_blank lexicon blank] at member
    contradiction
  | false =>
    obtain ⟨report, parsed, unknown⟩ := unknown_of_parse lexicon blank
    obtain rfl := Except.ok.inj ((parse_eq_reportOf lexicon blank).symm.trans parsed)
    rw [unknown] at member
    obtain ⟨before, after, place⟩ := wordAt_of_mem (List.mem_filter.mp member).1
    exact place.unbroken

end Line

/-! The exclamation mark is a delimiter: neither words nor the texts around them hold it. -/

def exclamation : Char := '!'

theorem Text.Unbroken.not_exclaimed {word : Text} (unbroken : Unbroken word) :
    exclamation ∉ word := by
  intro member
  have solid := unbroken exclamation member
  contradiction

theorem Command.Fits.not_exclaimed {lexicon : Lexicon} {command : Command}
    (fits : command.Fits lexicon) : exclamation ∉ command.describe := by
  have labels (slot : Slot) : exclamation ∉ slot.label := by
    cases slot <;> decide
  intro member
  rcases mem_join member with broken | ⟨piece, inside, within⟩
  · exact absurd broken (by decide)
  · obtain ⟨⟨slot, word⟩, held, rfl⟩ := List.mem_map.mp inside
    have unbroken := (fits.whole slot word (Command.mem_filled.mp held)).1
    rcases List.mem_append.mp within with label | rest
    · exact labels slot label
    · rcases List.mem_cons.mp rest with space | spelled
      · exact absurd space (by decide)
      · exact unbroken.not_exclaimed spelled

theorem complaint_not_exclaimed {word : Text} (unbroken : Unbroken word) :
    exclamation ∉ complaint word := by
  intro member
  rcases List.mem_append.mp member with (front | back)
  · rcases List.mem_append.mp front with start | spelled
    · exact absurd start (by decide)
    · exact unbroken.not_exclaimed spelled
  · exact absurd back (by decide)

theorem Line.diagnostics_not_exclaimed {lexicon : Lexicon} {line message : Text}
    (member : message ∈ (Line.reportOf lexicon line).diagnostics) : exclamation ∉ message := by
  rw [Report.diagnostics_eq] at member
  obtain ⟨clause, inside, replied⟩ := List.mem_flatMap.mp member
  rcases List.mem_append.mp replied with complained | asked
  · obtain ⟨word, unknown, rfl⟩ := List.mem_map.mp complained
    have listed : word ∈ (Line.reportOf lexicon line).unknown :=
      List.mem_flatMap.mpr ⟨clause, inside, unknown⟩
    exact complaint_not_exclaimed (Line.unbroken_of_mem_unknown listed)
  · split at asked
    · obtain rfl := List.mem_singleton.mp asked
      decide
    · contradiction

namespace Session

variable {session : Session} {line : Text}

theorem eval_blank (session : Session) (blank : isBlank line = true) :
    session.eval line = ([], .error .emptyInput) := by
  simp [eval, Line.dispatch, Line.parse_some, blank]

theorem eval_result (session : Session) (filled : isBlank line = false) :
    (session.eval line).2 = .ok (Line.reportOf session.lexicon line) := by
  rw [eval, Line.dispatch, Line.parse_eq_reportOf session.lexicon filled]

/-- Beside the log, a line is answered by what is done with its commands, and then by its
diagnostics. -/
theorem unlogged_eval (session : Session) (line : Text) : (session.eval line).1.unlogged =
    (Line.reportOf session.lexicon line).commands.flatMap
        (fun command => (session.handle command).unlogged) ++
      (Line.reportOf session.lexicon line).diagnostics.map .sayLine := by
  cases blank : isBlank line with
  | true => rw [eval_blank session blank, Line.reportOf_blank session.lexicon blank]; rfl
  | false =>
    have parsed := Line.parse_eq_reportOf session.lexicon blank
    have handled := Line.unlogged_dispatch session.handle parsed
    have given := (Line.dispatch_result session.lexicon session.handle (some line)).trans parsed
    have pair : Line.dispatch session.lexicon session.handle (some line) =
        ((Line.dispatch session.lexicon session.handle (some line)).1,
          .ok (Line.reportOf session.lexicon line)) := Prod.ext rfl given
    have said : Transcript.unlogged
        ((Line.reportOf session.lexicon line).diagnostics.map Event.sayLine) =
          (Line.reportOf session.lexicon line).diagnostics.map Event.sayLine :=
      List.filter_eq_self.mpr fun event member => by
        obtain ⟨message, _, rfl⟩ := List.mem_map.mp member
        rfl
    rw [eval, pair, Transcript.unlogged_append, handled, said]

/-- What a view shows of the answer to a line. -/
theorem filterMap_eval {α : Type} {view : Event → Option α} (overlooks : Transcript.Overlooks view)
    (session : Session) (line : Text) : (session.eval line).1.filterMap view =
      (Line.reportOf session.lexicon line).commands.flatMap
          (fun command => (session.handle command).filterMap view) ++
        (Line.reportOf session.lexicon line).diagnostics.filterMap
          (fun text => view (.sayLine text)) := by
  rw [← Transcript.filterMap_unlogged overlooks.note, unlogged_eval, List.filterMap_append,
    List.filterMap_flatMap, List.filterMap_map]
  simp only [Transcript.filterMap_unlogged overlooks.note]
  rfl

theorem carriedOut_handle (session : Session) (command : Command) :
    (session.handle command).filterMap Event.command? = [command] := by
  unfold handle
  split <;> rfl

/-- Of an answer, only what is said and the commands are seen. -/
theorem filterMap_eval_of_hidden {α : Type} {view : Event → Option α}
    (overlooks : Transcript.Overlooks view) (said : ∀ text, view (.say text) = none)
    (carried : ∀ command, view (.carryOut command) = none) (session : Session) (line : Text) :
    (session.eval line).1.filterMap view = [] := by
  have handled (command : Command) : (session.handle command).filterMap view = [] := by
    unfold handle
    split <;> simp [Event.sayLine, said, carried]
  rw [filterMap_eval overlooks]
  simp [handled, Event.sayLine, said]

theorem prompts_eval (session : Session) (line : Text) : (session.eval line).1.prompts = [] :=
  filterMap_eval_of_hidden Transcript.overlooks_prompt (fun _ => rfl) (fun _ => rfl) session line

theorem history_eval (session : Session) (line : Text) : (session.eval line).1.history = [] :=
  filterMap_eval_of_hidden Transcript.overlooks_remembered (fun _ => rfl) (fun _ => rfl) session
    line

/-- The commands of a line are carried out in order, once each. -/
theorem carriedOut_eval (session : Session) (line : Text) :
    (session.eval line).1.carriedOut = (Line.reportOf session.lexicon line).commands := by
  rw [Transcript.carriedOut, filterMap_eval Transcript.overlooks_command]
  simp [carriedOut_handle, Event.sayLine, Event.command?]

theorem eval_not_exclaimed (session : Session) (line : Text) :
    exclamation ∉ (session.eval line).1.said := by
  rw [Transcript.said, filterMap_eval Transcript.overlooks_said]
  intro member
  obtain ⟨text, shown, inside⟩ := List.mem_flatten.mp member
  rcases List.mem_append.mp shown with handled | replied
  · obtain ⟨command, listed, described⟩ := List.mem_flatMap.mp handled
    unfold handle at described
    split at described
    · obtain rfl : command.describe ++ ['\n'] = text := by
        simpa [Event.said?, Event.sayLine] using described
      rcases List.mem_append.mp inside with spelled | broken
      · exact (Line.fits_of_mem_commands listed).not_exclaimed spelled
      · exact absurd broken (by decide)
    · contradiction
  · obtain ⟨message, listed, rfl⟩ : ∃ message ∈ (Line.reportOf session.lexicon line).diagnostics,
        message ++ ['\n'] = text := by
      simpa [Event.said?, Event.sayLine] using replied
    rcases List.mem_append.mp inside with spelled | broken
    · exact Line.diagnostics_not_exclaimed listed spelled
    · exact absurd broken (by decide)

end Session
end Imperative
