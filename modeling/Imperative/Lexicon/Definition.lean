import Imperative.Lexicon

/-! The written form of a lexicon: one list a line, the name of a word class, a
colon and the words. Blank lines and lines that open with two semicolons say
nothing. Reading stops at the first line that is neither. -/
namespace Imperative.Lexicon

/-- What is wrong with a line. -/
inductive Flaw where
  | noColon (line : Text)
  | unknownName (name : Text)
  deriving DecidableEq, Repr

def Flaw.message : Flaw → Text
  | noColon line => "expected 'category: words', got '".toList ++ line ++ ['\'']
  | unknownName name => "unknown category '".toList ++ name ++ ['\'']

/-- A flaw at a line, counted from one with the lines that say nothing. -/
structure Misprint where
  line : Nat
  flaw : Flaw
  deriving DecidableEq, Repr

def commentMark : Text := [';', ';']

/-- A trimmed line that lists no words. -/
def saysNothing (line : Text) : Bool := line.isEmpty || commentMark.isPrefixOf line

/-- A trimmed line's class and words. The colon is the first one: words may hold others. -/
def readList (line : Text) : Except Flaw (WordClass × List Text) :=
  match line.dropWhile (· ≠ ':') with
  | [] => .error (.noColon line)
  | _ :: list =>
    let name := line.takeWhile (· ≠ ':')
    match WordClass.ofName? name with
    | none => .error (.unknownName (Text.trim name))
    | some c => .ok (c, (Text.blankSeparated list).map Text.lower)

/-- Adds the lists of the lines, the first of which has the given number. -/
def readLines (lexicon : Lexicon) (number : Nat) : List Text → Except Misprint Lexicon
  | [] => .ok lexicon
  | raw :: rest =>
    let line := Text.trim raw
    if saysNothing line then readLines lexicon (number + 1) rest
    else match readList line with
      | .error flaw => .error ⟨number, flaw⟩
      | .ok (c, words) => readLines (lexicon.insertAll (.word c) words) (number + 1) rest

def read (source : Text) : Except Misprint Lexicon :=
  readLines empty 1 (Text.lines source)

end Imperative.Lexicon
