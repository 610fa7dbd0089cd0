import Imperative.Lexicon
import Imperative.Text.Offset
import Imperative.Token

/-! Completion of the word before the cursor. Offsets are counted in UTF-8 bytes,
and a cursor inside a character has no completion. -/
namespace Imperative

/-- What is shown to the player and what replaces the begun word. -/
structure Candidate where
  shown : Text
  inserted : Text
  deriving DecidableEq, Repr

def Candidate.ofWord (word : Text) : Candidate := ⟨word, word⟩

/-- The candidates for a word that begins at an offset. -/
structure Completion where
  start : Nat
  candidates : List Candidate
  deriving DecidableEq, Repr

namespace Completion

/-- Where the word before the cursor begins: behind the last delimiter of what was typed,
looked for backwards, or at the start of the line. -/
def wordStart (typed : Text) : Nat :=
  match (Text.offsetsFrom 0 typed).reverse.find? (isDelimiter ·.2) with
  | some (offset, c) => offset + c.utf8Size
  | none => 0

/-- The words of a lexicon that continue a begun word, whatever its case. -/
def continuations (lexicon : Lexicon) (begun : Text) : List Candidate :=
  (lexicon.allWords.filter ((Text.lower begun).isPrefixOf ·)).map Candidate.ofWord

def complete? (lexicon : Lexicon) (line : Text) (cursor : Nat) : Option Completion :=
  (Text.slice? line 0 cursor).bind fun typed =>
    (Text.slice? line (wordStart typed) cursor).map fun begun =>
      ⟨wordStart typed, continuations lexicon begun⟩

end Completion
end Imperative
