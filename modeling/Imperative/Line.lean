import Imperative.Clause

/-! A line is lowercased and trimmed as a whole, then cut into clauses at every
separator that stands alone. Each clause is parsed by itself, and none stops the
others. -/
namespace Imperative

structure ClauseReport where
  text : Text
  outcome : Outcome

/-- The clauses of a line in order, with what came of each. -/
structure Report where
  clauses : List ClauseReport

namespace Report

def commands (report : Report) : List Command :=
  report.clauses.filterMap fun clause => clause.outcome.toOption

def rejections (report : Report) : List Rejection :=
  report.clauses.filterMap fun clause =>
    match clause.outcome with
    | .ok _ => none
    | .error rejection => some rejection

def dispatchedCount (report : Report) : Nat := report.commands.length

def errorCount (report : Report) : Nat := report.rejections.length

end Report

namespace Line

def normalize (line : Text) : Text := Text.trim (Text.lower line)

def separator : Text := ['a', 'n', 'd']

/-- A word may begin or end next to a delimiter or the end of the text. -/
def isBoundary : Option Char → Bool
  | none => true
  | some c => isDelimiter c

/-- The text between the separators that stand alone, given the character before it. -/
def segmentsAfter (before : Option Char) : Text → List Text
  | [] => [[]]
  | 'a' :: 'n' :: 'd' :: rest =>
    if isBoundary before && isBoundary rest.head? then [] :: segmentsAfter (some 'd') rest
    else Text.consFirst 'a' (segmentsAfter (some 'a') ('n' :: 'd' :: rest))
  | c :: rest => Text.consFirst c (segmentsAfter (some c) rest)

def segments (line : Text) : List Text := segmentsAfter none line

/-- The clauses of a line, taken as it stands. -/
def clauses (line : Text) : List Text := (segments line).map Text.trim

/-- A line that is absent or blank is no input; any other has a report. -/
def parseBy (classify : Option Text → Category) : Option Text → Except Rejection Report
  | none => .error .emptyInput
  | some line =>
    if Text.isBlank line then .error .emptyInput
    else .ok ⟨(clauses (normalize line)).map fun text => ⟨text, Clause.parseBy classify text⟩⟩

/-- Reads a line with the classes of a lexicon. -/
def parse (lexicon : Lexicon) (line : Option Text) : Except Rejection Report :=
  parseBy lexicon.classify line

def quitWord : Text := ['q', 'u', 'i', 't']

def isQuit (line : Text) : Bool := normalize line = quitWord

theorem parse_some (lexicon : Lexicon) (line : Text) : parse lexicon (some line) =
    if Text.isBlank line then .error .emptyInput
    else .ok ⟨(clauses (normalize line)).map fun text => ⟨text, Clause.parse lexicon text⟩⟩ :=
  rfl

end Line
end Imperative
