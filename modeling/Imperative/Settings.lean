import Imperative.Folder
import Imperative.Lexicon.Definition
import Imperative.Lexicon.Standard
import Imperative.Transcript
import Imperative.Fault

/-! The settings of a session, and the vocabulary they choose. Without a file it is
the standard one. -/
namespace Imperative

structure Settings where
  prompt : Text := " > ".toList
  maxLength : Nat := 80
  banner : Bool := true
  echo : Bool := true
  lexiconFile : Option Text := none
  deriving DecidableEq, Repr

/-- A misprint as a fault of the vocabulary that it was found in. -/
def Lexicon.Misprint.fault (misprint : Lexicon.Misprint) : Fault :=
  { kind := .lexicon misprint.line misprint.flaw.message }

namespace Settings

/-- Lines of no characters at all are refused. -/
def validate (settings : Settings) : Except Fault Unit :=
  if settings.maxLength = 0 then
    .error { kind := .configuration "max line length must be positive".toList }
  else .ok ()

/-- The vocabulary in a file. A fault names the file. -/
def readLexicon (read : Text → Except ReadFault Text) (path : Text) : Except Fault Lexicon :=
  match read path with
  | .error fault => .error (Fault.inSource { kind := .input fault.message } path)
  | .ok source =>
    match Lexicon.read source with
    | .error misprint => .error (misprint.fault.inSource path)
    | .ok lexicon => .ok lexicon

/-- What is noted of a vocabulary that came from a file. -/
def lexiconNotes (path : Text) (lexicon : Lexicon) : List Log.Record :=
  .loadedLexicon path lexicon.size ::
    lexicon.conflicts.map fun conflict => .conflict conflict.1 conflict.2

def loadLexicon (read : Text → Except ReadFault Text) (settings : Settings) :
    Except Fault (Lexicon × Transcript) :=
  match settings.lexiconFile with
  | none => .ok (.standard, [])
  | some path =>
    match readLexicon read path with
    | .error fault => .error fault
    | .ok lexicon => .ok (lexicon, (lexiconNotes path lexicon).map Event.note)

end Settings
end Imperative
