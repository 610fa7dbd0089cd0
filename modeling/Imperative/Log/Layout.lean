import Imperative.Log

/-! The written form of a log record: its level, a message, and its data as names
with values. A text among the data stands between double quotes. -/
namespace Imperative

namespace Text

/-- Quotes, backslashes and control characters are escaped, a control character without an
escape of its own by its code point; characters beyond ASCII stand for themselves. -/
def escapeChar (c : Char) : Text :=
  match c with
  | '"' => ['\\', '"']
  | '\\' => ['\\', '\\']
  | '\n' => ['\\', 'n']
  | '\r' => ['\\', 'r']
  | '\t' => ['\\', 't']
  | '\x00' => ['\\', '0']
  | c =>
    if c.toNat < 0x20 ∨ c.toNat = 0x7F then
      "\\u\x7b".toList ++ Nat.toDigits 16 c.toNat ++ "\x7d".toList
    else [c]

def quoted (t : Text) : Text := '"' :: t.flatMap escapeChar ++ ['"']

end Text

namespace Log

/-- The name of a word class with a capital letter. -/
def classLabel (c : WordClass) : Text :=
  match c.name with
  | [] => []
  | first :: rest => first.toUpper :: rest

namespace Record

def message : Record → Text
  | classified _ _ => "classified token".toList
  | unknownWord _ => "unknown word".toList
  | parsedLine _ _ _ => "parsed line".toList
  | dispatching _ => "dispatching command".toList
  | loadedLexicon _ _ => "loaded lexicon".toList
  | conflict _ _ => "word listed under several categories".toList
  | truncated _ => "input line truncated".toList
  | plainTerminal => "unsupported terminal".toList

/-- What a token was looked up as; there is none at the end. -/
def tokenValue : Option Text → Text
  | none => "None".toList
  | some text => "Some(".toList ++ text.quoted ++ [')']

/-- The data in order, with unset slots left out. -/
def data : Record → List (Text × Text)
  | classified token category =>
    [("word".toList, tokenValue token), ("category".toList, category.name)]
  | unknownWord word => [("word".toList, word.quoted)]
  | parsedLine clauses dispatched errors =>
    [("clauses".toList, Text.ofNat clauses), ("dispatched".toList, Text.ofNat dispatched),
     ("errors".toList, Text.ofNat errors)]
  | dispatching command => command.filled.map fun slot => (slot.1.name, slot.2.quoted)
  | loadedLexicon path entries => [("path".toList, path), ("words".toList, Text.ofNat entries)]
  | conflict word classes =>
    [("word".toList, word),
     ("categories".toList, '[' :: Text.join [',', ' '] (classes.map classLabel) ++ [']'])]
  | truncated limit => [("max".toList, Text.ofNat limit)]
  | plainTerminal => []

def render (record : Record) : Text :=
  Text.join [' '] (record.level.name :: record.message ::
    record.data.map fun item => item.1 ++ '=' :: item.2)

/-- The line of a record that opens with its level. -/
def headLine (record : Record) : Text :=
  Text.trim (record.render.takeWhile (· ≠ '\n'))

/-- What a line break in a record's data puts on lines of its own. -/
def strayLines (record : Record) : Text :=
  match record.render.dropWhile (· ≠ '\n') with
  | [] => []
  | _ :: rest => rest ++ ['\n']

end Record
end Log
end Imperative
