import Imperative.Command
import Imperative.Lexicon
import Imperative.Token

/-! A clause is read token by token. Each word goes to the slot of its class, the
last word of a class staying there; unknown words are collected, and do not keep
the words after them from being read. -/
namespace Imperative

/-- Why there is no command, with what was understood of the clause. -/
inductive Rejection where
  | emptyInput
  | unknownWords (words : List Text) (understood : Command)
  | incomplete (understood : Command)
  deriving DecidableEq, Repr

namespace Rejection

def message : Rejection → Text
  | emptyInput => "empty input".toList
  | unknownWords words _ =>
    (if words.length = 1 then "unknown word: " else "unknown words: ").toList ++
      Text.join [',', ' '] words
  | incomplete _ => "incomplete command: no action".toList

def understood? : Rejection → Option Command
  | emptyInput => none
  | unknownWords _ command | incomplete command => some command

end Rejection

abbrev Outcome := Except Rejection Command

namespace Clause

/-- What has been read of a clause. -/
structure Reading where
  command : Command
  unknown : List Text
  deriving DecidableEq, Repr

namespace Reading

def start : Reading := ⟨.empty, []⟩

/-- Reads one word, or an empty token, that counts as the category. -/
def take (reading : Reading) (text : Text) : Category → Reading
  | .word c =>
    match Slot.ofClass? c with
    | some slot => { reading with command := reading.command.set slot text }
    | none => reading
  | .unknown => { reading with unknown := reading.unknown ++ [text] }
  | .empty | .finish => reading

/-- An unknown word outweighs a missing action. -/
def outcome (reading : Reading) : Outcome :=
  if reading.unknown ≠ [] then .error (.unknownWords reading.unknown reading.command)
  else if reading.command.isComplete then .ok reading.command
  else .error (.incomplete reading.command)

end Reading

/-- A token counts as what a classifier says of its text; the end has none. -/
def readTokenBy (classify : Option Text → Category) (reading : Reading) (token : Token) : Reading :=
  match token.text? with
  | some text => reading.take text (classify (some text))
  | none => reading

def parseBy (classify : Option Text → Category) (clause : Text) : Outcome :=
  ((Text.tokens clause).foldl (readTokenBy classify) .start).outcome

/-- Reads a clause with the classes of a lexicon. -/
def parse (lexicon : Lexicon) (clause : Text) : Outcome := parseBy lexicon.classify clause

end Clause
end Imperative
