import Imperative.Proofs.Conversation
import Imperative.Proofs.Evaluation

/-! Batches and conversations. The two put their questions to a line in different orders.
Over lines within the limit they answer the same ones, those before the quit word that are
not blank, and neither what is said nor what is carried out tells one from the other. -/
namespace Imperative
open Text

variable {limit : Nat} {line : Text} {lines : List Text} {rest : List Read}

namespace Line

/-- The lines before the quit word that are not blank. -/
def answered (lines : List Text) : List Text :=
  (lines.takeWhile (!isQuit ·)).filter (!isBlank ·)

theorem answered_quit (quits : isQuit line = true) (lines : List Text) :
    answered (line :: lines) = [] := by
  simp [answered, quits]

theorem answered_blank (blank : isBlank line = true) (lines : List Text) :
    answered (line :: lines) = answered lines := by
  simp [answered, isQuit_of_blank blank, blank]

theorem answered_filled (goesOn : isQuit line = false) (filled : isBlank line = false)
    (lines : List Text) : answered (line :: lines) = line :: answered lines := by
  simp [answered, goesOn, filled]

end Line

theorem Read.text_of_short (filled : isBlank line = false) (short : line.length ≤ limit) :
    Read.text? limit (.line line) = some line := by
  simp [Read.text?, filled, List.take_of_length_le short]

namespace Script

/-- The texts of a script of lines within the limit, whatever follows their end. -/
theorem texts_lines (short : ∀ line ∈ lines, isBlank line = false → line.length ≤ limit)
    (ends : rest.head?.getD .finished = .finished) :
    texts limit (lines.map .line ++ rest) = Line.answered lines := by
  induction lines with
  | nil =>
    cases rest with
    | nil => rfl
    | cons read later =>
      obtain rfl : read = .finished := ends
      rfl
  | cons line lines ih =>
    have later := ih fun other member => short other (List.mem_cons_of_mem line member)
    rw [List.map_cons, List.cons_append]
    cases blank : isBlank line with
    | true =>
      have given : Read.text? limit (.line line) = none := by simp [Read.text?, blank]
      have on : Read.ending? limit (.line line) = none := by simp [Read.ending?, given]
      rw [texts_cons_of_none on, given, later, Line.answered_blank blank]
      rfl
    | false =>
      have given := Read.text_of_short blank (short line List.mem_cons_self blank)
      cases quits : Line.isQuit line with
      | true =>
        have ended : Read.ending? limit (.line line) = some (.ok ()) := by
          simp [Read.ending?, given, quits]
        rw [texts_cons_of_some ended, Line.answered_quit quits]
      | false =>
        have on : Read.ending? limit (.line line) = none := by simp [Read.ending?, given, quits]
        rw [texts_cons_of_none on, given, later, Line.answered_filled quits blank]
        rfl

/-- Lines never break a conversation off. -/
theorem result_lines (limit : Nat) (lines : List Text)
    (ends : rest.head?.getD .finished = .finished) :
    result limit (lines.map .line ++ rest) = .ok () := by
  induction lines with
  | nil =>
    cases rest with
    | nil => rfl
    | cons read later =>
      obtain rfl : read = .finished := ends
      rfl
  | cons line lines ih => exact result_cons_line ih line

end Script

namespace Session

variable {session : Session}

/-- A batch of lines within the limit answers those before the quit word that are not blank. -/
theorem batch_eq
    (short : ∀ line ∈ lines, isBlank line = false → line.length ≤ session.settings.maxLength) :
    session.batch lines =
      ((Line.answered lines).flatMap fun line => (session.eval line).1,
        .ok ((Line.answered lines).map (Line.reportOf session.lexicon))) := by
  have within : ∀ line ∈ lines, ¬ session.Overlong line := by
    rintro line member ⟨filled, long⟩
    exact Nat.not_le_of_lt long (short line member filled)
  exact batch_within fun line asked => within line ((List.takeWhile_sublist _).subset asked)

/-- Prompts and history apart, no view tells a conversation from a batch. -/
theorem filterMap_converse_lines {α : Type} {view : Event → Option α}
    (overlooks : Transcript.Overlooks view) (unasked : ∀ prompt, view (.ask prompt) = none)
    (forgotten : ∀ text, view (.remember text) = none)
    (short : ∀ line ∈ lines, isBlank line = false → line.length ≤ session.settings.maxLength)
    (ends : rest.head?.getD .finished = .finished) :
    (session.converse (lines.map .line ++ rest)).events.filterMap view =
      (session.batch lines).1.filterMap view := by
  rw [filterMap_converse_of_unasked overlooks unasked, Script.texts_lines short ends,
    batch_eq short, List.filterMap_flatMap]
  refine List.flatMap_congr fun text _ => ?_
  rw [forgotten]
  rfl

/-- Conversation and batch agree. Over lines within the limit and then the end of the input,
a conversation without a banner succeeds and so does a batch of the lines. The handler is
given the same commands in the same order, and the same is said, with the farewell last. The
batch has one report for each line that the conversation remembers. -/
theorem run_agrees_with_batch (session : Session) (quiet : session.settings.banner = false)
    (lines : List Text)
    (short : ∀ line ∈ lines, isBlank line = false → line.length ≤ session.settings.maxLength)
    (rest : List Read) (ends : rest.head?.getD .finished = .finished) :
    let talk := session.run (lines.map .line ++ rest)
    ∃ events reports, session.batch lines = (events, .ok reports) ∧ talk.result = .ok () ∧
      talk.events.carriedOut = events.carriedOut ∧
      talk.events.said = events.said ++ "\nGoodbye!\n".toList ∧
      reports.length = talk.events.history.length := by
  intro talk
  have ended : (session.converse (lines.map .line ++ rest)).result = .ok () :=
    (congrArg Conversation.result (converse_eq session _)).trans
      (Script.result_lines _ lines ends)
  refine ⟨(session.batch lines).1, (Line.answered lines).map (Line.reportOf session.lexicon),
    by rw [batch_eq short], ended, ?carriedOut, ?said, ?history⟩
  case carriedOut =>
    rw [Transcript.carriedOut, filterMap_run (fun _ => rfl)]
    exact filterMap_converse_lines Transcript.overlooks_command (fun _ => rfl) (fun _ => rfl)
      short ends
  case said =>
    have silent : session.greeting = [] := by simp [greeting, quiet]
    have same := filterMap_converse_lines Transcript.overlooks_said (fun _ => rfl) (fun _ => rfl)
      short ends
    rw [said_run, ended, silent, Transcript.said, Transcript.said, same]
    rfl
  case history =>
    have remembered : talk.events.history = Line.answered lines := by
      rw [Transcript.history, filterMap_run (fun _ => rfl)]
      exact (history_converse session _).trans (Script.texts_lines short ends)
    rw [List.length_map, remembered]

/-- A blank line, a line with an unknown word, and the quit word, past which no line counts. -/
theorem run_agrees_with_batch_until_quit :
    let session : Session := ⟨Lexicon.ofLists [(.word .verb, ["look".toList])],
      { maxLength := 16, banner := false }⟩
    let lines := [" \t".toList, "Look and listen".toList, " QUIT".toList, "look".toList]
    let talk := session.run (lines.map .line ++ [.finished])
    let look : Command := { action := "look".toList }
    session.settings.banner = false ∧
    (∀ line ∈ lines, isBlank line = false → line.length ≤ session.settings.maxLength) ∧
    talk.result = .ok () ∧ talk.events.carriedOut = [look] ∧
    talk.events.said = look.describe ++ '\n' :: complaint "listen".toList ++
      "\n\nGoodbye!\n".toList ∧
    talk.events.history.length = 1 := by
  intro session lines talk look
  have short : ∀ line ∈ lines, isBlank line = false → line.length ≤ session.settings.maxLength := by
    decide
  obtain ⟨events, reports, same, ended, carried, said, counted⟩ :=
    run_agrees_with_batch session rfl lines short [.finished] rfl
  have answered : (session.batch lines).1.unlogged =
      [.carryOut look, .sayLine look.describe, .sayLine (complaint "listen".toList)] := by
    decide +kernel
  have one : (Line.answered lines).length = 1 := by decide +kernel
  rw [same] at answered
  refine ⟨rfl, short, ended, carried.trans ?_, said.trans ?_, counted.symm.trans ?_⟩
  · rw [Transcript.carriedOut, ← Transcript.filterMap_unlogged (fun _ => rfl), answered]
    rfl
  · rw [Transcript.said, ← Transcript.filterMap_unlogged (fun _ => rfl), answered]
    decide
  · obtain rfl : (Line.answered lines).map (Line.reportOf session.lexicon) = reports :=
      Except.ok.inj (congrArg Prod.snd ((batch_eq short).symm.trans same))
    rw [List.length_map, one]

end Session
end Imperative
