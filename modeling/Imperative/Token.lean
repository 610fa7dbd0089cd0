import Imperative.Text

/-! Tokens of a clause. Every delimiter is a boundary, so two in a row leave an
empty token between them; one token marks the end. -/
namespace Imperative

/-- The delimiters besides white space. -/
def delimiterTable : Text := " .,;:!-'\"()\x7b\x7d[]<>".toList

def isDelimiter (c : Char) : Bool :=
  Text.isBlankChar c || delimiterTable.contains c

inductive Token where
  | word (text : Text)
  | empty
  | finish
  deriving DecidableEq, Repr

namespace Token

/-- The text that is looked up: none at the end, the empty text for an empty token. -/
def text? : Token → Option Text
  | word t => some t
  | empty => some []
  | finish => none

def ofPiece (piece : Text) : Token :=
  if piece = [] then empty else word piece

/-- A piece is looked up as it is. -/
theorem text?_ofPiece (piece : Text) : (ofPiece piece).text? = some piece := by
  unfold ofPiece
  split
  · next empty => rw [empty, text?]
  · rfl

end Token

namespace Text

def pieces (t : Text) : List Text := splitWhere isDelimiter t

def tokens (t : Text) : List Token := t.pieces.map Token.ofPiece ++ [.finish]

def words (t : Text) : List Text := t.pieces.filter (· ≠ [])

end Text
end Imperative
