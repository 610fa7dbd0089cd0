import Imperative.Settings

/-! The arguments of the program. A switch stands by itself, a setting takes the
argument after it, whatever that is. A later setting replaces an earlier one, but
command lines add up. -/
namespace Imperative

inductive Switch where
  | help
  | version
  | quiet
  | verbose
  deriving DecidableEq, Repr

namespace Switch

def all : List Switch := [.help, .version, .quiet, .verbose]

def spellings : Switch → List Text
  | help => ["-h", "--help"].map String.toList
  | version => ["-V", "--version"].map String.toList
  | quiet => ["-q", "--quiet"].map String.toList
  | verbose => ["-v", "--verbose"].map String.toList

def ofText? (t : Text) : Option Switch := all.find? (·.spellings.contains t)

end Switch

inductive Setting where
  | prompt
  | maxLength
  | lexicon
  | command
  deriving DecidableEq, Repr

namespace Setting

def all : List Setting := [.prompt, .maxLength, .lexicon, .command]

def spellings : Setting → List Text
  | prompt => ["-p", "--prompt"].map String.toList
  | maxLength => ["--max-length".toList]
  | lexicon => ["-l", "--lexicon"].map String.toList
  | command => ["-c", "--command"].map String.toList

def ofText? (t : Text) : Option Setting := all.find? (·.spellings.contains t)

end Setting

/-- Why arguments are refused. -/
inductive Refusal where
  | missingValue (setting : Setting)
  | badLength (value : Text)
  | unknownOption (argument : Text)
  deriving DecidableEq, Repr

def Refusal.message : Refusal → Text
  | missingValue .prompt => "--prompt requires a value".toList
  | missingValue .maxLength => "--max-length requires a value".toList
  | missingValue .lexicon => "--lexicon requires a path".toList
  | missingValue .command => "--command requires a line".toList
  | badLength value => "invalid --max-length value: ".toList ++ value
  | unknownOption argument => "unknown option: ".toList ++ argument

structure Options where
  help : Bool := false
  version : Bool := false
  quiet : Bool := false
  verbose : Bool := false
  prompt : Option Text := none
  maxLength : Option Nat := none
  lexicon : Option Text := none
  commands : List Text := []
  deriving DecidableEq, Repr

namespace Options

def turnOn (options : Options) : Switch → Options
  | .help => { options with help := true }
  | .version => { options with version := true }
  | .quiet => { options with quiet := true }
  | .verbose => { options with verbose := true }

def assign (options : Options) (setting : Setting) (value : Text) : Except Refusal Options :=
  match setting with
  | .prompt => .ok { options with prompt := some value }
  | .lexicon => .ok { options with lexicon := some value }
  | .command => .ok { options with commands := options.commands ++ [value] }
  | .maxLength =>
    match Text.natural? value with
    | some length => .ok { options with maxLength := some length }
    | none => .error (.badLength value)

/-- Reads arguments after those that gave the options. -/
def parseAfter (options : Options) : List Text → Except Refusal Options
  | [] => .ok options
  | argument :: rest =>
    match Switch.ofText? argument with
    | some switch => parseAfter (options.turnOn switch) rest
    | none =>
      match Setting.ofText? argument with
      | none => .error (.unknownOption argument)
      | some setting =>
        match rest with
        | [] => .error (.missingValue setting)
        | value :: rest =>
          match options.assign setting value with
          | .error refusal => .error refusal
          | .ok options => parseAfter options rest

def parse (arguments : List Text) : Except Refusal Options := parseAfter {} arguments

/-- A batch shows no banner. -/
def settings (options : Options) : Settings :=
  let standard : Settings := {}
  { standard with
    prompt := options.prompt.getD standard.prompt
    maxLength := options.maxLength.getD standard.maxLength
    banner := !options.quiet && options.commands.isEmpty
    lexiconFile := options.lexicon }

/-- The filter that was asked for, if it can be read; else warnings, or more if the
program is to be verbose. -/
def filter (options : Options) (asked : Option Text) : Log.Filter :=
  match asked.bind Log.Filter.read? with
  | some filter => filter
  | none => .upTo (if options.verbose then .debug else .warn)

end Options
end Imperative
