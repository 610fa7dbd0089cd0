import Imperative.Fault
import Imperative.Text

/-! One read from the player, and its bounds. A blank line is nothing to read; a
line that is too long is cut to its first characters, whatever those are. -/
namespace Imperative

/-- What one read gave. -/
inductive Read where
  | line (text : Text)
  | interrupted
  | failed (fault : Fault)
  | finished
  deriving DecidableEq, Repr

/-- What is left of a read within bounds. -/
inductive Bounded where
  | line (text : Text)
  | tooLong (start : Text)
  | blank
  | finished
  deriving DecidableEq, Repr

def Bounded.text? : Bounded → Option Text
  | line text | tooLong text => some text
  | blank | finished => none

namespace Input

/-- Bounds a line to a number of characters. -/
def bound (limit : Nat) (line : Text) : Bounded :=
  if Text.isBlank line then .blank
  else if (line.drop limit).isEmpty then .line line
  else .tooLong (line.take limit)

/-- An abandoned line counts as a blank one. -/
def accept (limit : Nat) : Read → Except Fault Bounded
  | .line text => .ok (bound limit text)
  | .interrupted => .ok .blank
  | .failed fault => .error fault
  | .finished => .ok .finished

/-- The result of the next read of a script, and the rest of it. Past its end there is
no more input. -/
def next (limit : Nat) : List Read → Except Fault Bounded × List Read
  | [] => (.ok .finished, [])
  | first :: rest => (accept limit first, rest)

/-- The results of a number of reads. -/
def take (limit : Nat) : Nat → List Read → List (Except Fault Bounded)
  | 0, _ => []
  | n + 1, script =>
    let (result, rest) := next limit script
    result :: take limit n rest

end Input
end Imperative
