import Imperative.Line
import Imperative.Transcript

/-! What comes of a line that was read. Its commands are handed over in the order of its
clauses, and how it was read is noted. The player is told the slots of a command that was
carried out, and has a message for everything in the line that was not understood. -/
namespace Imperative

/-- A slot's name as a question, filled up with dots. -/
def Slot.label (slot : Slot) : Text :=
  let question := slot.name.map (fun c => if c = '_' then ' ' else c) ++ ['?']
  question ++ List.replicate (16 - question.length) '.'

/-- One line for each filled slot. -/
def Command.describe (command : Command) : Text :=
  Text.join ['\n'] (command.filled.map fun slot => slot.1.label ++ ' ' :: slot.2)

def Rejection.replies : Rejection → List Text
  | .emptyInput => []
  | .unknownWords words _ =>
    words.map fun word => "I don't understand '".toList ++ word ++ ['\'', '.']
  | .incomplete _ => ["What do you want to do?".toList]

def Report.diagnostics (report : Report) : List Text :=
  report.rejections.flatMap Rejection.replies

/-! Handing over. -/

namespace Log

/-- Every token of a clause is noted, and an unknown word twice. -/
def clauseNotes (lexicon : Lexicon) (clause : Text) : List Record :=
  (Text.tokens clause).flatMap fun token =>
    let category := lexicon.classify token.text?
    .classified token.text? category ::
      match token.text?, category with
      | some word, .unknown => [.unknownWord word]
      | _, _ => []

def reportNotes (lexicon : Lexicon) (report : Report) : List Record :=
  report.clauses.flatMap (fun clause => clauseNotes lexicon clause.text) ++
    [.parsedLine report.clauses.length report.dispatchedCount report.errorCount]

end Log

namespace Line

/-- Parses a line and gives each of its commands to a handler. A line that is no input
reaches no handler. -/
def dispatch (lexicon : Lexicon) (handle : Command → Transcript) (line : Option Text) :
    Transcript × Except Rejection Report :=
  match parse lexicon line with
  | .error rejection => ([], .error rejection)
  | .ok report =>
    ((Log.reportNotes lexicon report).map Event.note ++
      report.commands.flatMap fun command => .note (.dispatching command) :: handle command,
     .ok report)

end Line
end Imperative
