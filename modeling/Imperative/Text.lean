/-! Texts as lists of characters, with the cutting operations that lines,
clauses and vocabularies share. Cutting at a class of characters keeps every
piece, the empty ones included, so that pieces and cuts rebuild the text. Blank are
the twenty-five code points with the Unicode property White_Space; zero-width
characters and the four information separators are not among them. -/
namespace Imperative

abbrev Text := List Char

namespace Text

/-- Puts a character in front of the first piece. -/
def consFirst (c : Char) : List Text → List Text
  | [] => [[c]]
  | piece :: pieces => (c :: piece) :: pieces

/-- Cuts at every character of the class: `n` of them leave `n + 1` pieces. -/
def splitWhere (cut : Char → Bool) : Text → List Text
  | [] => [[]]
  | c :: cs => if cut c then [] :: splitWhere cut cs else consFirst c (splitWhere cut cs)

theorem consFirst_ne_nil (c : Char) (pieces : List Text) : consFirst c pieces ≠ [] := by
  cases pieces <;> simp [consFirst]

/-- Drops the characters of a class from both ends. -/
def trimWhere (drop : Char → Bool) (t : Text) : Text :=
  ((t.dropWhile drop).reverse.dropWhile drop).reverse

def join (separator : Text) (pieces : List Text) : Text :=
  separator.intercalate pieces

/-- A line break is a line feed, with the carriage return before it if there
is one. -/
def dropReturn (line : Text) : Text :=
  if line.getLast? = some '\r' then line.dropLast else line

/-- The pieces between line feeds become lines. What follows the last line feed
ends in none: it keeps its carriage return, and is no line if it is empty. -/
def closeLines : List Text → List Text
  | [] => []
  | [last] => if last.isEmpty then [] else [last]
  | line :: rest => dropReturn line :: closeLines rest

def lines (t : Text) : List Text :=
  closeLines (splitWhere (· == '\n') t)

/-- Code points as closed intervals. -/
abbrev Ranges := List (Nat × Nat)

def Ranges.holds (ranges : Ranges) (c : Char) : Bool :=
  ranges.any fun range => range.1 ≤ c.toNat && c.toNat ≤ range.2

/-! White space. -/

def blankRanges : Ranges :=
  [(0x09, 0x0D), (0x20, 0x20), (0x85, 0x85), (0xA0, 0xA0), (0x1680, 0x1680), (0x2000, 0x200A),
   (0x2028, 0x2029), (0x202F, 0x202F), (0x205F, 0x205F), (0x3000, 0x3000)]

def isBlankChar (c : Char) : Bool := blankRanges.holds c

/-- The text without white space at its ends. -/
def trim (t : Text) : Text := trimWhere isBlankChar t

/-- The text holds nothing but white space. -/
def isBlank (t : Text) : Bool := t.all isBlankChar

/-- The pieces between white space that are not empty. -/
def blankSeparated (t : Text) : List Text :=
  (splitWhere isBlankChar t).filter (· ≠ [])

/-! Numbers. -/

/-- The decimal digits of a number. -/
def ofNat (n : Nat) : Text := Nat.toDigits 10 n

/-- Decimal digits, read after the ones before them. -/
def readDigits? (value : Nat) : Text → Option Nat
  | [] => some value
  | c :: rest => if c.isDigit then readDigits? (value * 10 + (c.toNat - 48)) rest else none

/-- A number as it is typed: decimal digits, at least one of them, perhaps after a plus sign,
and a value that fits into 64 bits. -/
def natural? (t : Text) : Option Nat :=
  let digits := if t.head? = some '+' then t.tail else t
  if digits.isEmpty then none
  else (readDigits? 0 digits).filter (· < UInt64.size)

end Text
end Imperative
