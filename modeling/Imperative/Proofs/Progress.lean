import Imperative.Program
import Imperative.Proofs.Conversation

/-! The program as it is followed from read to read. What was done before a read only stands
before what comes of it; a session that converses does what a whole conversation over the
script does; and no file but the vocabulary's plays a part. -/
namespace Imperative

namespace Session

/-- Only the program asks: answers hold no prompts. -/
theorem prompts_answer (session : Session) (read : Read) :
    (session.answer read).1.prompts = [] := by
  have asked : (session.turn read).prompts = [session.settings.prompt] := by
    rw [Transcript.prompts, filterMap_turn Transcript.overlooks_prompt]
    have silent (text : Text) : (session.eval text).1.filterMap Event.prompt? = [] :=
      prompts_eval session text
    simp [silent, Event.prompt?]
  exact (List.cons.inj asked).2

/-- A session starts alike where the file of its vocabulary reads alike. -/
theorem start_congr {read other : Text → Except ReadFault Text} {settings : Settings}
    (same : ∀ path, settings.lexiconFile = some path → read path = other path) :
    start read settings = start other settings := by
  have loaded : settings.loadLexicon read = settings.loadLexicon other := by
    unfold Settings.loadLexicon
    cases chosen : settings.lexiconFile with
    | none => rfl
    | some path => simp only [Settings.readLexicon, same path chosen]
  rw [start, start, loaded]

end Session

namespace Program

variable {session : Session} {events : Transcript} {read : Read}

/-! Following a script. -/

@[simp] theorem follow_ended (done : Conclusion) (script : List Read) :
    (Progress.ended done).follow script = done := by
  cases script <;> rfl

theorem leave_append (earlier events : Transcript) (result : Except Fault Unit) :
    leave (earlier ++ events) result = (leave events result).after earlier := by
  cases result <;> simp [leave, conclude, Conclusion.after]

theorem Conclusion.after_append (earlier events : Transcript) (done : Conclusion) :
    done.after (earlier ++ events) = (done.after events).after earlier := by
  simp [Conclusion.after]

/-- What was done already stands before all that follows, and changes none of it. -/
theorem follow_after (earlier : Transcript) (progress : Progress) (script : List Read) :
    (progress.after earlier).follow script = (progress.follow script).after earlier := by
  cases progress with
  | ended done => simp [Progress.after]
  | asked events session =>
    cases script with
    | nil => exact leave_append earlier events _
    | cons read rest => exact Conclusion.after_append earlier events _

/-- A script that runs out leaves the program as the end of the input does. -/
theorem follow_finished (progress : Progress) (script : List Read) :
    progress.follow (script ++ [.finished]) = progress.follow script := by
  induction script generalizing progress with
  | nil =>
    cases progress with
    | ended done => rfl
    | asked events session =>
      have parting : (leave [] (.ok ())).after events = leave events (.ok ()) := by
        rw [← leave_append, List.append_nil]
      exact parting
  | cons read rest ih =>
    cases progress with
    | ended done => rfl
    | asked events session => exact congrArg (Conclusion.after events) (ih (respond session read))

/-! A conversation at a terminal without line editing. -/

/-- Every prompt with the note that stands before it. -/
def atPlainTerminal (events : Transcript) : Transcript :=
  events.flatMap fun
    | .ask prompt => [.note .plainTerminal, .ask prompt]
    | event => [event]

theorem atPlainTerminal_append (earlier events : Transcript) :
    atPlainTerminal (earlier ++ events) = atPlainTerminal earlier ++ atPlainTerminal events :=
  List.flatMap_append

theorem atPlainTerminal_of_unasked (unasked : events.prompts = []) :
    atPlainTerminal events = events := by
  induction events with
  | nil => rfl
  | cons event rest ih =>
    cases event with
    | ask prompt => contradiction
    | _ => exact congrArg (List.cons _) (ih unasked)

theorem atPlainTerminal_turn (session : Session) (read : Read) :
    atPlainTerminal (session.turn read) = ask session ++ (session.answer read).1 :=
  congrArg (ask session ++ ·) (atPlainTerminal_of_unasked (session.prompts_answer read))

theorem atPlainTerminal_greeting (session : Session) :
    atPlainTerminal session.greeting = session.greeting := by
  unfold Session.greeting
  split <;> rfl

theorem atPlainTerminal_closing (result : Except Fault Unit) :
    atPlainTerminal (Session.closing result) = Session.closing result := by
  cases result <;> rfl

/-! One turn of a conversation, as it goes on or ends. -/

theorem respond_on (on : (session.answer read).2 = .ok true) :
    respond session read = (Progress.asked (ask session) session).after (session.answer read).1 := by
  have pair : session.answer read = ((session.answer read).1, .ok true) := Prod.ext rfl on
  rw [respond, pair]
  rfl

theorem respond_ended (ends : (session.answer read).2 = .ok false) :
    respond session read = .ended (leave (session.answer read).1 (.ok ())) := by
  have pair : session.answer read = ((session.answer read).1, .ok false) := Prod.ext rfl ends
  rw [respond, pair]

theorem respond_broken {fault : Fault} (breaks : (session.answer read).2 = .error fault) :
    respond session read = .ended (leave (session.answer read).1 (.error fault)) := by
  have pair : session.answer read = ((session.answer read).1, .error fault) := Prod.ext rfl breaks
  rw [respond, pair]

/-- Once a session has asked, it goes through the conversation over the script. -/
theorem follow_asked (session : Session) (script : List Read) :
    (Progress.asked (ask session) session).follow script =
      leave (atPlainTerminal (session.converse script).events) (session.converse script).result := by
  induction script with
  | nil => rfl
  | cons read rest ih =>
    have step : (Progress.asked (ask session) session).follow (read :: rest) =
        ((respond session read).follow rest).after (ask session) := rfl
    rw [step]
    cases verdict : (session.answer read).2 with
    | error fault =>
      rw [respond_broken verdict, Session.converse_broken verdict, follow_ended, ← leave_append,
        atPlainTerminal_turn]
    | ok goesOn =>
      cases goesOn with
      | false =>
        rw [respond_ended verdict, Session.converse_ended verdict, follow_ended, ← leave_append,
          atPlainTerminal_turn]
      | true =>
        have events : atPlainTerminal ((session.converse rest).after (session.turn read)).events =
            ask session ++ (session.answer read).1 ++
              atPlainTerminal (session.converse rest).events := by
          rw [Session.Conversation.after, atPlainTerminal_append, atPlainTerminal_turn]
        rw [respond_on verdict, follow_after, ih, ← Conclusion.after_append, ← leave_append,
          Session.converse_on verdict, events]
        rfl

/-- A session that converses does over a script what its whole conversation holds, and the
program ends with the result of the conversation. -/
theorem follow_converse (session : Session) (script : List Read) :
    (converse session).follow script =
      conclude (atPlainTerminal (session.run script).events) (session.run script).result := by
  have opened : converse session =
      (Progress.asked (ask session) session).after session.greeting := rfl
  have whole : atPlainTerminal (session.run script).events = session.greeting ++
      (atPlainTerminal (session.converse script).events ++
        Session.closing (session.converse script).result) := by
    simp [Session.run, atPlainTerminal_append, atPlainTerminal_greeting, atPlainTerminal_closing]
  rw [opened, follow_after, follow_asked, ← leave_append, leave, List.append_assoc, ← whole]
  rfl

/-! What a terminal knows before the program starts, and when the input ends. -/

variable {read other : Text → Except ReadFault Text} {arguments : List Text}

/-- Only the file of the vocabulary plays a part. -/
theorem opening_congr
    (same : ∀ path, lexiconFile? arguments = some path → read path = other path) :
    opening read arguments = opening other arguments := by
  unfold opening
  cases parsed : Options.parse arguments with
  | error refusal => rfl
  | ok options =>
    cases asks : options.help || options.version with
    | true =>
      rcases (Bool.or_eq_true _ _).mp asks with help | version
      · simp [help]
      · simp [version]
    | false =>
      have chosen : lexiconFile? arguments = options.lexicon := by simp [lexiconFile?, parsed, asks]
      have started : Session.start read options.settings = Session.start other options.settings :=
        Session.start_congr fun path here => same path (chosen.trans here)
      simp only [serve, started]

/-- A terminal reads the one file that matters before the program starts, and reads the end of
the input like a line; the program is the same. -/
theorem run_at_terminal {file : Except ReadFault Text}
    (known : ∀ path, lexiconFile? arguments = some path → read path = file)
    (asked : Option Text) (script : List Read) :
    run (fun _ => file) asked arguments (script ++ [.finished]) =
      run read asked arguments script := by
  rw [run, run, follow_finished, opening_congr fun path chosen => (known path chosen).symm]

end Program
end Imperative
