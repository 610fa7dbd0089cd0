import Imperative.Lexicon
import Imperative.Token

/-! Colouring of a line as it is typed. Each word takes the colour of its class;
delimiters are copied. -/
namespace Imperative.Highlight

def escape : Char := Char.ofNat 0x1B

/-- The escape sequence for a list of attributes, written as it is. -/
def sequence (attributes : Text) : Text := escape :: '[' :: attributes ++ ['m']

def reset : Text := sequence ['0']

def bold : Text := sequence ['1']

def dim : Text := sequence ['2']

/-- Verbs stand out, words without a slot of their own are dim, and unknown words are red. -/
def colour? : Category → Option Text
  | .word .verb => some (sequence "1;32".toList)
  | .word .noun => some (sequence "36".toList)
  | .word .pronoun => some (sequence "35".toList)
  | .word .adverb | .word .adjective | .word .number => some (sequence "33".toList)
  | .word .article | .word .preposition | .word .conjunction => some dim
  | .unknown => some (sequence "31".toList)
  | .empty | .finish => none

/-- A word in its colour. A word is looked up in lowercase and shown as it was typed. -/
def paintWord (lexicon : Lexicon) (word : Text) : Text :=
  match word with
  | [] => []
  | _ :: _ =>
    match colour? (lexicon.classify (some (Text.lower word))) with
    | some code => code ++ word ++ reset
    | none => word

/-- Colours what follows a part of a word, kept last character first. -/
def paintAfter (lexicon : Lexicon) (begun : Text) : Text → Text
  | [] => paintWord lexicon begun.reverse
  | c :: cs =>
    if isDelimiter c then paintWord lexicon begun.reverse ++ c :: paintAfter lexicon [] cs
    else paintAfter lexicon (c :: begun) cs

def paint (lexicon : Lexicon) (line : Text) : Text := paintAfter lexicon [] line

/-- The standing prompt is bold; a prompt of another kind is left as it is. -/
def prompt (standing : Bool) (text : Text) : Text :=
  if standing then bold ++ text ++ reset else text

def hint (text : Text) : Text := dim ++ text ++ reset

end Imperative.Highlight
