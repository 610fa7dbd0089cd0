import Imperative.Log

/-! What a session does, as the list of its events. What is printed, logged,
remembered or carried out are views of that list. -/
namespace Imperative

inductive Event where
  /-- Written to the player. -/
  | say (text : Text)
  /-- Written beside the conversation. -/
  | warn (text : Text)
  | note (record : Log.Record)
  /-- The prompt of a read. -/
  | ask (prompt : Text)
  | remember (line : Text)
  | carryOut (command : Command)
  deriving DecidableEq, Repr

abbrev Transcript := List Event

namespace Event

def sayLine (text : Text) : Event := .say (text ++ ['\n'])

def warnLine (text : Text) : Event := .warn (text ++ ['\n'])

def said? : Event → Option Text
  | say text => some text
  | _ => none

/-- What a terminal without line editing shows: prompts stand in the conversation. -/
def shown? : Event → Option Text
  | say text => some text
  | ask prompt => some prompt
  | _ => none

def warned? : Event → Option Text
  | warn text => some text
  | _ => none

def noted? : Event → Option Log.Record
  | note record => some record
  | _ => none

def prompt? : Event → Option Text
  | ask prompt => some prompt
  | _ => none

def remembered? : Event → Option Text
  | remember line => some line
  | _ => none

def command? : Event → Option Command
  | carryOut command => some command
  | _ => none

end Event

namespace Transcript

def said (events : Transcript) : Text := (events.filterMap Event.said?).flatten

def shown (events : Transcript) : Text := (events.filterMap Event.shown?).flatten

def warned (events : Transcript) : Text := (events.filterMap Event.warned?).flatten

def log (events : Transcript) : List Log.Record := events.filterMap Event.noted?

def prompts (events : Transcript) : List Text := events.filterMap Event.prompt?

def history (events : Transcript) : List Text := events.filterMap Event.remembered?

/-- The commands handed over, in order. -/
def carriedOut (events : Transcript) : List Command := events.filterMap Event.command?

end Transcript
end Imperative
