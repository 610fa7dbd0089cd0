import Imperative.Log.Layout
import Imperative.Options
import Imperative.Session
import Imperative.Text.Cluster

/-! The program as a function of its arguments, its files and its input. It opens by its
arguments, and then answers one read after another until it has ended. It ends in
failure if the arguments are refused, the session cannot start, or the session ends
in a fault; help and version come before everything but the arguments. -/
namespace Imperative.Program

/-- The environment variable with the log filter. -/
def filterVariable : String := "RUST_LOG"

def heading (title : String) : Text := Highlight.bold ++ title.toList ++ Highlight.reset

def helpLines : List Text :=
  [heading "Parlance" ++ " - Imperative sentence parser for text adventures".toList,
   [],
   heading "USAGE:",
   "    parlance [OPTIONS]".toList,
   [],
   heading "OPTIONS:",
   "    -h, --help             Print help information".toList,
   "    -V, --version          Print version information".toList,
   "    -p, --prompt TEXT      Prompt shown before each line (default ' > ')".toList,
   "        --max-length N     Longest accepted line in characters (default 80)".toList,
   "    -l, --lexicon FILE     Load the vocabulary from FILE".toList,
   "    -c, --command LINE     Parse LINE and exit (repeatable)".toList,
   "    -q, --quiet            Do not print the banner".toList,
   "    -v, --verbose          Log parser decisions to stderr".toList,
   [],
   heading "LEXICON FILES:",
   "    One category per line, ';;' starts a comment:".toList,
   "        verb: take drop open".toList,
   "        noun: key lock".toList,
   [],
   heading "EXAMPLES:",
   "    parlance                                   Start interactive session".toList,
   "    parlance -c 'take sword and kill monster'  Parse one line and exit".toList,
   "    parlance -l words.lex                      Use a custom vocabulary".toList,
   "    ".toList ++ filterVariable.toList ++
     "=trace parlance                    Show every classified token".toList,
   [],
   "Type 'quit' or press Ctrl+D to exit.".toList]

def helpText : Text := Text.join ['\n'] helpLines

def versionText : Text := "parlance ".toList ++ Session.version

/-- What the program did, and its exit code. -/
structure Conclusion where
  events : Transcript
  code : Nat
  deriving DecidableEq, Repr

def failureNotice (message : Text) : Event :=
  .warnLine (Highlight.sequence "31".toList ++ "Error: ".toList ++ message ++ Highlight.reset)

def Conclusion.after (events : Transcript) (done : Conclusion) : Conclusion :=
  { done with events := events ++ done.events }

def conclude {α : Type} (events : Transcript) : Except Fault α → Conclusion
  | .ok _ => ⟨events, 0⟩
  | .error fault => ⟨events ++ [failureNotice fault.message], 1⟩

/-- How far the program has come: it is over, or a session has asked for a line. -/
inductive Progress where
  | ended (done : Conclusion)
  | asked (events : Transcript) (session : Session)

def Progress.after (events : Transcript) : Progress → Progress
  | .ended done => .ended (done.after events)
  | .asked later session => .asked (events ++ later) session

/-- A terminal without line editing is noted at every read. -/
def ask (session : Session) : Transcript := [.note .plainTerminal, .ask session.settings.prompt]

/-- A conversation begins with its greeting. -/
def converse (session : Session) : Progress := .asked (session.greeting ++ ask session) session

/-- A conversation ends with its closing words. -/
def leave (events : Transcript) (result : Except Fault Unit) : Conclusion :=
  conclude (events ++ Session.closing result) result

/-- Answers a read, and asks for the next one if the conversation goes on. -/
def respond (session : Session) (read : Read) : Progress :=
  match session.answer read with
  | (events, .error fault) => .ended (leave events (.error fault))
  | (events, .ok false) => .ended (leave events (.ok ()))
  | (events, .ok true) => .asked (events ++ ask session) session

/-- Follows the program over the reads of a script. Past its end the input is finished. -/
def Progress.follow : Progress → List Read → Conclusion
  | .ended done, _ => done
  | .asked events _, [] => leave events (.ok ())
  | .asked events session, read :: rest => ((respond session read).follow rest).after events

/-- Command lines make a batch; without any the program converses. -/
def work (session : Session) (commands : List Text) : Progress :=
  if commands.isEmpty then converse session
  else
    let (events, result) := session.batch commands
    .ended (conclude events result)

def serve (read : Text → Except ReadFault Text) (options : Options) : Progress :=
  match Session.start read options.settings with
  | .error fault => .ended (conclude [] (.error fault : Except Fault Unit))
  | .ok (session, notes) => (work session options.commands).after notes

/-- What the program does before the first line of its input. -/
def opening (read : Text → Except ReadFault Text) (arguments : List Text) : Progress :=
  match Options.parse arguments with
  | .error refusal => .ended ⟨[failureNotice refusal.message], 1⟩
  | .ok options =>
    if options.help then .ended ⟨[.sayLine helpText], 0⟩
    else if options.version then .ended ⟨[.sayLine versionText], 0⟩
    else serve read options

/-- The file that the opening reads, if it reads one. -/
def lexiconFile? (arguments : List Text) : Option Text :=
  match Options.parse arguments with
  | .error _ => none
  | .ok options => if options.help || options.version then none else options.lexicon

/-- The log that is shown. Arguments that are refused leave none. -/
def logFilter (asked : Option Text) (arguments : List Text) : Log.Filter :=
  match Options.parse arguments with
  | .error _ => []
  | .ok options => options.filter asked

/-- Leaves out the log records that are not shown. -/
def withFilter (filter : Log.Filter) (events : Transcript) : Transcript :=
  events.filter fun
    | .note record => filter.shows record
    | _ => true

def run (read : Text → Except ReadFault Text) (asked : Option Text) (arguments : List Text)
    (script : List Read) : Conclusion :=
  let done := (opening read arguments).follow script
  ⟨withFilter (logFilter asked arguments) done.events, done.code⟩

/-- The reads that lines of input give; after them the input ends. -/
def reads (input : Text) : List Read := (Text.lines input).map fun line => .line (Text.rubOut line)

/-- The log as a reader of the error stream finds it. -/
def logLines (events : Transcript) : List Text := events.log.map Log.Record.headLine

/-- What stands on the error stream beside the log. -/
def errorText (events : Transcript) : Text :=
  events.flatMap fun
    | .warn text => text
    | .note record => record.strayLines
    | _ => []

end Imperative.Program
