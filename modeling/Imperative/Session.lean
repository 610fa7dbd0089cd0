import Imperative.Reply
import Imperative.Highlight
import Imperative.Input
import Imperative.Settings

/-! A session between a player and a vocabulary. In conversation it asks for lines
until the player quits, the input ends or a read fails; in a batch it takes its
lines at once and accepts none that is too long. -/
namespace Imperative

structure Session where
  lexicon : Lexicon
  settings : Settings

namespace Session

/-- A session with the vocabulary that its settings choose. -/
def start (read : Text → Except ReadFault Text) (settings : Settings) :
    Except Fault (Session × Transcript) :=
  match settings.validate with
  | .error fault => .error fault
  | .ok () =>
    match settings.loadLexicon read with
    | .error fault => .error fault
    | .ok (lexicon, notes) => .ok (⟨lexicon, settings⟩, notes)

/-- A command is carried out, and described to the player if commands are echoed. -/
def handle (session : Session) (command : Command) : Transcript :=
  .carryOut command ::
    if session.settings.echo then [.sayLine command.describe] else []

/-- Answers one line. -/
def eval (session : Session) (line : Text) : Transcript × Except Rejection Report :=
  match Line.dispatch session.lexicon session.handle (some line) with
  | (events, .error rejection) => (events, .error rejection)
  | (events, .ok report) => (events ++ report.diagnostics.map Event.sayLine, .ok report)

def version : Text := "0.1.0".toList

def banner : Transcript :=
  [.sayLine (Highlight.sequence "1;36".toList ++ "Parlance v".toList ++ version ++
      Highlight.reset),
   .sayLine (" Type '".toList ++ Line.quitWord ++ "' to exit\n".toList)]

def greeting (session : Session) : Transcript :=
  if session.settings.banner then banner else []

def farewell : Transcript := [.sayLine "\nGoodbye!".toList]

/-- What is said of a line that was cut. -/
def truncationNotice (session : Session) : Transcript :=
  [.note (.truncated session.settings.maxLength),
   .warnLine (Highlight.sequence "33".toList ++
      "That's too long; only the first ".toList ++ Text.ofNat session.settings.maxLength ++
      " characters were read.".toList ++ Highlight.reset)]

/-- Answers a line of the conversation, which goes on unless the line is the quit word. -/
def answerLine (session : Session) (line : Text) : Transcript × Bool :=
  if Line.isQuit line then ([], false)
  else (.remember line :: (session.eval line).1, true)

/-- Answers one read, and says whether the conversation goes on. -/
def answer (session : Session) (read : Read) : Transcript × Except Fault Bool :=
  match Input.accept session.settings.maxLength read with
  | .error fault => ([], .error fault)
  | .ok .finished => ([], .ok false)
  | .ok .blank => ([], .ok true)
  | .ok (.line line) =>
    let (events, goesOn) := session.answerLine line
    (events, .ok goesOn)
  | .ok (.tooLong start) =>
    let (events, goesOn) := session.answerLine start
    (session.truncationNotice ++ events, .ok goesOn)

/-- How a conversation went, with the reads that were not asked for. -/
structure Conversation where
  events : Transcript
  result : Except Fault Unit
  unread : List Read

def Conversation.after (events : Transcript) (rest : Conversation) : Conversation :=
  { rest with events := events ++ rest.events }

/-- Asks for reads until one of them ends the conversation. -/
def converse (session : Session) : List Read → Conversation
  | [] => ⟨[.ask session.settings.prompt], .ok (), []⟩
  | read :: rest =>
    match session.answer read with
    | (events, .error fault) => ⟨.ask session.settings.prompt :: events, .error fault, rest⟩
    | (events, .ok false) => ⟨.ask session.settings.prompt :: events, .ok (), rest⟩
    | (events, .ok true) => (session.converse rest).after (.ask session.settings.prompt :: events)

/-- The farewell is said only if the conversation was not broken off. -/
def closing : Except Fault Unit → Transcript
  | .ok () => farewell
  | .error _ => []

def run (session : Session) (script : List Read) : Conversation :=
  let talk := session.converse script
  ⟨session.greeting ++ talk.events ++ closing talk.result, talk.result, talk.unread⟩

/-- A line that is too long for a batch is named in full. -/
def overlong (session : Session) (line : Text) : Fault :=
  { kind := .configuration ("line exceeds ".toList ++ Text.ofNat session.settings.maxLength ++
      " characters: '".toList ++ line ++ ['\'']) }

/-- Evaluates lines up to the quit word. What was carried out before a line that is too
long stays carried out. -/
def batch (session : Session) : List Text → Transcript × Except Fault (List Report)
  | [] => ([], .ok [])
  | line :: rest =>
    if Line.isQuit line then ([], .ok [])
    else match Input.bound session.settings.maxLength line with
      | .tooLong _ => ([], .error (session.overlong line))
      | .blank | .finished => session.batch rest
      | .line text =>
        let (events, result) := session.eval text
        let (later, reports) := session.batch rest
        (events ++ later,
          match result with
          | .ok report => reports.map (report :: ·)
          | .error _ => reports)

end Session
end Imperative
