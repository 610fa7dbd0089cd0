import Imperative.Proofs.Answering
import Imperative.Proofs.Normalization

/-! Lines that are evaluated at once. Each is answered as it is alone, up to the quit word
or a line that is too long. What was done for the lines before it stays done; of the lines
after it nothing is looked at, not even their length. -/
namespace Imperative
open Text Line

variable {limit : Nat} {line : Text} {before lines : List Text}

theorem Line.isQuit_of_blank (blank : isBlank line = true) : isQuit line = false := by
  simp [isQuit, normalize_eq_nil_iff.mpr blank, quitWord]

theorem Line.isQuit_of_mem_asked (member : line ∈ lines.takeWhile (!isQuit ·)) :
    isQuit line = false := by
  simpa using List.mem_takeWhile_imp member

theorem Input.bound_of_short (filled : isBlank line = false) (short : line.length ≤ limit) :
    Input.bound limit line = .line line := by
  simp [Input.bound, filled, short]

namespace Session

variable {session : Session}

/-- A line that is not blank and that a batch would have to cut. -/
def Overlong (session : Session) (line : Text) : Prop :=
  isBlank line = false ∧ session.settings.maxLength < line.length

instance (session : Session) (line : Text) : Decidable (session.Overlong line) :=
  inferInstanceAs (Decidable (_ ∧ _))

/-! What comes of lines that are answered one by one. -/

def answersTo (session : Session) (lines : List Text) : Transcript :=
  (lines.filter (!isBlank ·)).flatMap fun line => (session.eval line).1

def reportsOn (session : Session) (lines : List Text) : List Report :=
  (lines.filter (!isBlank ·)).map (reportOf session.lexicon)

theorem answersTo_append (session : Session) (before after : List Text) :
    session.answersTo (before ++ after) = session.answersTo before ++ session.answersTo after := by
  rw [answersTo, List.filter_append, List.flatMap_append, answersTo, answersTo]

theorem reportsOn_append (session : Session) (before after : List Text) :
    session.reportsOn (before ++ after) = session.reportsOn before ++ session.reportsOn after := by
  rw [reportsOn, List.filter_append, List.map_append, reportsOn, reportsOn]

/-- Every line that is not blank has a report, which is what it is parsed as alone. The events
are those of the lines in order, and the handler was given the commands of the reports. -/
structure Answered (session : Session) (lines : List Text) (events : Transcript)
    (reports : List Report) : Prop where
  reports_eq : reports.map .ok =
    (lines.filter (!isBlank ·)).map fun line => parse session.lexicon (some line)
  events_eq : events = session.answersTo lines
  carriedOut_eq : events.carriedOut = reports.flatMap Report.commands

theorem answered_each (session : Session) (lines : List Text) :
    session.Answered lines (session.answersTo lines) (session.reportsOn lines) where
  reports_eq := by
    rw [reportsOn, List.map_map]
    apply List.map_congr_left
    intro line member
    have filled : isBlank line = false := by simpa using (List.mem_filter.mp member).2
    exact (parse_eq_reportOf session.lexicon filled).symm
  events_eq := rfl
  carriedOut_eq := by
    rw [Transcript.carriedOut, answersTo, List.filterMap_flatMap, reportsOn, List.flatMap_map]
    exact List.flatMap_congr fun line _ => carriedOut_eval session line

/-! The batch line by line. -/

/-- A batch with lines before it that have been answered. -/
def batchAfter (session : Session) (before : List Text)
    (rest : Transcript × Except Fault (List Report)) : Transcript × Except Fault (List Report) :=
  (session.answersTo before ++ rest.1, rest.2.map (session.reportsOn before ++ ·))

theorem batchAfter_nil (session : Session) (rest : Transcript × Except Fault (List Report)) :
    session.batchAfter [] rest = rest := by
  obtain ⟨events, result⟩ := rest
  cases result <;> rfl

theorem batchAfter_append (session : Session) (before after : List Text)
    (rest : Transcript × Except Fault (List Report)) :
    session.batchAfter (before ++ after) rest =
      session.batchAfter before (session.batchAfter after rest) := by
  obtain ⟨events, result⟩ := rest
  rw [batchAfter, batchAfter, batchAfter, answersTo_append, reportsOn_append, List.append_assoc]
  cases result with
  | error fault => rfl
  | ok reports => simp [Except.map]

theorem batch_quit (quits : Line.isQuit line = true) (lines : List Text) :
    session.batch (line :: lines) = ([], .ok []) := by
  rw [batch, if_pos quits]

theorem batch_blank (blank : isBlank line = true) (lines : List Text) :
    session.batch (line :: lines) = session.batch lines := by
  simp [batch, Line.isQuit_of_blank blank, Input.bound, blank]

/-- A line that is not blank has a report, so that none is passed over. -/
theorem batch_filled (goesOn : Line.isQuit line = false) (filled : isBlank line = false)
    (short : line.length ≤ session.settings.maxLength) (lines : List Text) :
    session.batch (line :: lines) =
      ((session.eval line).1 ++ (session.batch lines).1,
        (session.batch lines).2.map (Line.reportOf session.lexicon line :: ·)) := by
  have given := eval_result session filled
  cases answer : session.eval line with
  | mk events result =>
    obtain rfl : result = .ok (Line.reportOf session.lexicon line) := by rwa [answer] at given
    rw [batch, if_neg (Bool.eq_false_iff.mp goesOn), Input.bound_of_short filled short]
    simp only [answer]

theorem batch_overlong (goesOn : isQuit line = false) (exceeds : session.Overlong line)
    (rest : List Text) : session.batch (line :: rest) = ([], .error (session.overlong line)) := by
  obtain ⟨filled, long⟩ := exceeds
  have bounded : Input.bound session.settings.maxLength line =
      .tooLong (line.take session.settings.maxLength) := by
    simp [Input.bound, filled, long]
  simp [batch, goesOn, bounded]

/-- A line that is asked for and is not too long is answered, and the batch goes on. -/
theorem batch_step (goesOn : isQuit line = false) (within : ¬ session.Overlong line)
    (rest : List Text) :
    session.batch (line :: rest) = session.batchAfter [line] (session.batch rest) := by
  cases blank : isBlank line with
  | true =>
    have silent : session.batchAfter [line] = session.batchAfter [] := by
      funext later
      simp [batchAfter, answersTo, reportsOn, blank]
    rw [batch_blank blank, silent, batchAfter_nil]
  | false =>
    have short : line.length ≤ session.settings.maxLength := by
      by_contra long
      exact within ⟨blank, Nat.lt_of_not_le long⟩
    rw [batch_filled goesOn blank short]
    simp [batchAfter, answersTo, reportsOn, blank]

theorem batch_append (goesOn : ∀ line ∈ before, isQuit line = false)
    (within : ∀ line ∈ before, ¬ session.Overlong line) (rest : List Text) :
    session.batch (before ++ rest) = session.batchAfter before (session.batch rest) := by
  induction before with
  | nil => exact (batchAfter_nil session _).symm
  | cons line later ih =>
    obtain ⟨asked, goesOn⟩ := List.forall_mem_cons.mp goesOn
    obtain ⟨fits, within⟩ := List.forall_mem_cons.mp within
    calc session.batch (line :: later ++ rest)
        = session.batchAfter [line] (session.batch (later ++ rest)) := batch_step asked fits _
      _ = session.batchAfter [line] (session.batchAfter later (session.batch rest)) := by
        rw [ih goesOn within]
      _ = session.batchAfter (line :: later) (session.batch rest) :=
        (batchAfter_append session [line] later _).symm

/-- The lines from the quit word on are not part of a batch. -/
theorem batch_asked (session : Session) (lines : List Text) :
    session.batch lines = session.batch (lines.takeWhile (!isQuit ·)) := by
  induction lines with
  | nil => rfl
  | cons line rest ih =>
    cases quits : isQuit line with
    | true =>
      rw [batch_quit quits, List.takeWhile_cons_of_neg (by simp [quits])]
      rfl
    | false =>
      rw [List.takeWhile_cons_of_pos (by simp [quits])]
      by_cases exceeds : session.Overlong line
      · rw [batch_overlong quits exceeds, batch_overlong quits exceeds]
      · rw [batch_step quits exceeds, batch_step quits exceeds, ih]

theorem batch_within (within : ∀ line ∈ lines.takeWhile (!isQuit ·), ¬ session.Overlong line) :
    session.batch lines = (session.answersTo (lines.takeWhile (!isQuit ·)),
      .ok (session.reportsOn (lines.takeWhile (!isQuit ·)))) := by
  have whole := batch_append (fun line => isQuit_of_mem_asked) within []
  rw [List.append_nil] at whole
  rw [batch_asked, whole, batch, batchAfter]
  simp [Except.map]

/-- The lines before one that is too long are answered, though there is no report on them. -/
theorem batch_broken {after : List Text}
    (split : lines.takeWhile (!isQuit ·) = before ++ line :: after)
    (within : ∀ earlier ∈ before, ¬ session.Overlong earlier) (exceeds : session.Overlong line) :
    session.batch lines = (session.answersTo before, .error (session.overlong line)) := by
  have goesOn : ∀ asked ∈ before ++ line :: after, isQuit asked = false := by
    intro asked member
    rw [← split] at member
    exact isQuit_of_mem_asked member
  obtain ⟨starts, ends⟩ := List.forall_mem_append.mp goesOn
  rw [batch_asked, split, batch_append starts within,
    batch_overlong (ends line List.mem_cons_self) exceeds, batchAfter, List.append_nil]
  rfl

/-- A batch fails cleanly at the first line that is too long. Of the lines before the quit
word, those that are not blank are answered one by one, and there is a report on each. If
one of the lines is too long, then the first such line is named by a fault, and only the
lines before it are answered. From the quit word on, no line makes a difference. -/
theorem batch_exactly (session : Session) (lines : List Text) :
    let asked := lines.takeWhile (!isQuit ·)
    session.batch lines = session.batch asked ∧
    ((∀ line ∈ asked, ¬ session.Overlong line) → ∃ events reports,
      session.batch lines = (events, .ok reports) ∧ session.Answered asked events reports) ∧
    ((∃ line ∈ asked, session.Overlong line) → ∃ before line after,
      asked = before ++ line :: after ∧ session.Overlong line ∧
      (∀ earlier ∈ before, ¬ session.Overlong earlier) ∧ ∃ events reports,
        session.batch lines = (events, .error { kind := .configuration ("line exceeds ".toList ++
          ofNat session.settings.maxLength ++ " characters: '".toList ++ line ++ ['\'']) }) ∧
        session.Answered before events reports) := by
  intro asked
  refine ⟨batch_asked session lines, ?fits, ?fails⟩
  case fits =>
    intro within
    exact ⟨_, _, batch_within within, answered_each session asked⟩
  case fails =>
    intro some
    obtain ⟨before, line, after, split, within, exceeds⟩ := exists_first some
    exact ⟨before, line, after, split, exceeds, within, _, _, batch_broken split within exceeds,
      answered_each session before⟩

end Session
end Imperative
