import Imperative.Log.Layout
import Imperative.Program

/-! The program at a terminal: events are written as they come, and lines are read
as they are asked for. -/
namespace Imperative.Terminal

def readFault : IO.Error → ReadFault
  | .noFileOrDirectory _ _ _ => .missing
  | .inappropriateType _ code _ =>
    if code = 21 then .isFolder else .notFolder
  | .invalidArgument _ code _ =>
    if code = 36 then .nameTooLong else .nulInName
  | error => .other (toString error).toList

def readFile (path : Text) : IO (Except ReadFault Text) := do
  match ← (IO.FS.readBinFile (String.ofList path)).toBaseIO with
  | .error error => return .error (readFault error)
  | .ok bytes =>
    match Text.ofBytes? bytes with
    | some text => return .ok text
    | none => return .error .notText

def showEvent : Event → IO Unit
  | .say text | .ask text => do
    let output ← IO.getStdout
    output.putStr (String.ofList text)
    output.flush
  | .warn text => IO.eprint (String.ofList text)
  | .note record => IO.eprintln (String.ofList record.render)
  | .remember _ | .carryOut _ => pure ()

def readLine : IO Read := do
  match ← ((← IO.getStdin).getLine).toBaseIO with
  | .error error => return .failed { kind := .input (toString error).toList }
  | .ok typed => return (Program.reads typed.toList).headD .finished

/-- Shows what was done, and follows the program over the lines that are typed. -/
partial def follow (filter : Log.Filter) : Program.Progress → IO UInt32
  | .ended done => do
    (Program.withFilter filter done.events).forM showEvent
    return done.code.toUInt32
  | .asked events session => do
    (Program.withFilter filter events).forM showEvent
    follow filter (Program.respond session (← readLine))

end Imperative.Terminal

open Imperative in
def main (arguments : List String) : IO UInt32 := do
  let arguments := arguments.map String.toList
  let asked ← IO.getEnv Program.filterVariable
  let file ← match Program.lexiconFile? arguments with
    | some path => Terminal.readFile path
    | none => pure (.error .missing)
  Terminal.follow (Program.logFilter (asked.map String.toList) arguments)
    (Program.opening (fun _ => file) arguments)
