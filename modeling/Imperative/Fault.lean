import Imperative.Text

/-! Failures of what surrounds the parser: reading input, vocabulary files and
settings. What a player types is never a fault. -/
namespace Imperative

/-- The file or stream a fault lies in, and the line there. -/
structure Origin where
  source : Option Text := none
  line : Option Nat := none
  deriving DecidableEq, Repr

inductive Fault.Kind where
  | input (detail : Text)
  | lexicon (line : Nat) (detail : Text)
  | configuration (detail : Text)
  | internal (detail : Text)
  deriving DecidableEq, Repr

structure Fault where
  kind : Fault.Kind
  origin : Option Origin := none
  deriving DecidableEq, Repr

/-- A line number is shown only with the source that it counts in. -/
def Origin.describe (origin : Origin) : Text :=
  match origin.source, origin.line with
  | none, _ => []
  | some source, none => "at ".toList ++ source
  | some source, some line => "at ".toList ++ source ++ ':' :: Text.ofNat line

namespace Fault

def message (fault : Fault) : Text :=
  match fault.kind with
  | .input detail => "input error: ".toList ++ detail
  | .lexicon line detail =>
    "lexicon error at line ".toList ++ Text.ofNat line ++ ':' :: ' ' :: detail
  | .configuration detail => "configuration error: ".toList ++ detail
  | .internal detail => "internal error: ".toList ++ detail

def inSource (fault : Fault) (source : Text) : Fault :=
  { fault with origin := some { source := some source } }

end Fault
end Imperative
