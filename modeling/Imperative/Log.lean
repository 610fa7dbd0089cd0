import Imperative.Command
import Imperative.Text

/-! What the program notes down about its own work. A record is of one level and
comes from one part of the program; a filter says which records are shown. -/
namespace Imperative.Log

inductive Level where
  | error
  | warn
  | info
  | debug
  | trace
  deriving DecidableEq, Repr

namespace Level

def all : List Level := [.error, .warn, .info, .debug, .trace]

/-- The more detail, the higher. -/
def detail (level : Level) : Nat := all.idxOf level

def name : Level → Text
  | error => "ERROR".toList
  | warn => "WARN".toList
  | info => "INFO".toList
  | debug => "DEBUG".toList
  | trace => "TRACE".toList

end Level

/-- The part of the program that a record comes from. -/
inductive Source where
  | clause
  | line
  | dispatch
  | settings
  | session
  | editor
  deriving DecidableEq, Repr

/-- The name by which a filter knows the part. -/
def Source.name : Source → Text
  | clause => "parlance_parser::clause".toList
  | line => "parlance_parser::compound".toList
  | dispatch => "parlance_parser::parser".toList
  | settings => "parlance_runtime::config".toList
  | session => "parlance_runtime::repl".toList
  | editor => "rustyline".toList

inductive Record where
  | classified (token : Option Text) (category : Category)
  | unknownWord (word : Text)
  | parsedLine (clauses dispatched errors : Nat)
  | dispatching (command : Command)
  | loadedLexicon (path : Text) (entries : Nat)
  | conflict (word : Text) (classes : List WordClass)
  | truncated (limit : Nat)
  | plainTerminal
  deriving DecidableEq, Repr

namespace Record

def level : Record → Level
  | classified _ _ => .trace
  | unknownWord _ | parsedLine _ _ _ | dispatching _ | plainTerminal => .debug
  | loadedLexicon _ _ => .info
  | conflict _ _ | truncated _ => .warn

def source : Record → Source
  | classified _ _ | unknownWord _ => .clause
  | parsedLine _ _ _ => .line
  | dispatching _ => .dispatch
  | loadedLexicon _ _ | conflict _ _ => .settings
  | truncated _ => .session
  | plainTerminal => .editor

end Record

/-- A directive shows the records of the sources whose name it begins, up to a level; the
empty name begins all of them. -/
structure Directive where
  source : Text
  level : Option Level

abbrev Filter := List Directive

namespace Filter

def upTo (level : Level) : Filter := [⟨[], some level⟩]

/-- The longest name that applies decides, and of two equal ones the later. -/
def decisive (filter : Filter) (source : Source) : Option Directive :=
  (filter.filter (·.source.isPrefixOf source.name)).foldl
    (fun best directive =>
      match best with
      | some former =>
        if former.source.length ≤ directive.source.length then some directive else best
      | none => some directive)
    none

def shows (filter : Filter) (record : Record) : Bool :=
  match (filter.decisive record.source).bind Directive.level with
  | some level => record.level.detail ≤ level.detail
  | none => false

/-- The level that a number stands for. Nought stands for none. -/
def numberedLevel? : Nat → Option (Option Level)
  | 0 => some none
  | n + 1 => Level.all[n]?.map some

/-- The level that a word or a number stands for, a word in any case. -/
def readLevel? (t : Text) : Option (Option Level) :=
  match (Text.natural? t).bind numberedLevel? with
  | some level => some level
  | none =>
    let name := t.map Char.toUpper
    if name = "OFF".toList then some none
    else (Level.all.find? (·.name = name)).map some

/-- A directive begins with a letter, a digit or one of three signs. -/
def beginsDirective (c : Char) : Bool :=
  c.isAlphanum || c = '-' || c = ':' || c = '_'

/-- A level for everything, a source with its level, or a source alone or with no level
written, which shows all of it. Blanks belong to what they stand next to. -/
def readDirective? (t : Text) : Option Directive :=
  if t.contains '[' || !((Text.trim t).head?.any beginsDirective) then none
  else match t.dropWhile (· ≠ '=') with
    | [] =>
      match readLevel? t with
      | some level => some ⟨[], level⟩
      | none => some ⟨t, some .trace⟩
    | _ :: level =>
      if t.head?.any Text.isBlankChar then none
      else if level = [] then some ⟨t.takeWhile (· ≠ '='), some .trace⟩
      else (readLevel? level).map fun level => ⟨t.takeWhile (· ≠ '='), level⟩

/-- Reads directives between commas. One that cannot be read spoils the whole. -/
def read? (t : Text) : Option Filter :=
  ((Text.splitWhere (· == ',') t).filter (· ≠ [])).mapM readDirective?

end Filter
end Imperative.Log
