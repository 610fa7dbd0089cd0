import Imperative.Text.ClusterTable
import Imperative.Text.Offset

/-! Clusters: the characters that a reader sees as one. Whether a character belongs to
the ones before it depends on its class and on how the text before it ends. In a line
that is typed without editing, a backspace rubs out the cluster before it. -/
namespace Imperative.Text

inductive ClusterClass where
  | other
  | carriageReturn
  | lineFeed
  | control
  | extend
  | joiner
  | spacingMark
  | prepended
  | regional
  | hangulLeading
  | hangulVowel
  | hangulTrailing
  | hangulOpen
  | hangulClosed
  | pictograph
  | consonant
  deriving DecidableEq, Repr

namespace ClusterClass

def joinerChar : Char := Char.ofNat 0x200D

def nonJoinerChar : Char := Char.ofNat 0x200C

/-- The syllables without a trailing consonant stand at every twenty-eighth place. -/
def ofSyllable (n : Nat) : ClusterClass :=
  if (n - hangulSyllables.1) % 28 = 0 then hangulOpen else hangulClosed

def table : List (Ranges × ClusterClass) :=
  [(controlRanges, control), (extendRanges, extend), (spacingMarkRanges, spacingMark),
   (prependedRanges, prepended), (regionalRanges, regional), (hangulLeadingRanges, hangulLeading),
   (hangulVowelRanges, hangulVowel), (hangulTrailingRanges, hangulTrailing),
   (pictographRanges, pictograph), (consonantRanges, consonant)]

def ofChar (c : Char) : ClusterClass :=
  if c = '\r' then carriageReturn
  else if c = '\n' then lineFeed
  else if c = joinerChar then joiner
  else if hangulSyllables.1 ≤ c.toNat ∧ c.toNat ≤ hangulSyllables.2 then ofSyllable c.toNat
  else match table.find? (·.1.holds c) with
    | some entry => entry.2
    | none => other

/-- A line break or another control. -/
def isBreak : ClusterClass → Bool
  | carriageReturn | lineFeed | control => true
  | _ => false

end ClusterClass

def isLinker (c : Char) : Bool := linkerRanges.holds c

/-- A mark inside a conjunct: any but a linker and the sign that forbids joining. -/
def isConjunctMark (c : Char) : Bool :=
  c = ClusterClass.joinerChar ||
    (extendRanges.holds c && !isLinker c && c ≠ ClusterClass.nonJoinerChar)

/-- How far a conjunct has come: a consonant with marks, and then also a linker. -/
inductive Conjunct where
  | absent
  | begun
  | linked
  deriving DecidableEq, Repr

/-- How a text ends: the class of its last character, whether it ends in an odd number of
regional letters, in a pictograph with marks and perhaps a joiner, or in a conjunct. -/
structure ClusterEnd where
  last : ClusterClass
  oddRegional : Bool
  picture : Bool
  conjunct : Conjunct
  deriving DecidableEq, Repr

namespace ClusterEnd

def start : ClusterEnd := ⟨.control, false, false, .absent⟩

open ClusterClass in
/-- A character of the class belongs to the text before it. -/
def joins (before : ClusterEnd) (next : ClusterClass) : Bool :=
  match before.last, next with
  | carriageReturn, lineFeed => true
  | hangulLeading, hangulLeading | hangulLeading, hangulVowel
  | hangulLeading, hangulOpen | hangulLeading, hangulClosed => true
  | hangulOpen, hangulVowel | hangulOpen, hangulTrailing
  | hangulVowel, hangulVowel | hangulVowel, hangulTrailing => true
  | hangulClosed, hangulTrailing | hangulTrailing, hangulTrailing => true
  | last, next =>
    if last.isBreak || next.isBreak then false
    else if next = extend || next = joiner || next = spacingMark || last = prepended then true
    else if next = consonant then before.conjunct = .linked
    else if last = joiner && next = pictograph then before.picture
    else if last = regional && next = regional then before.oddRegional
    else false

def conjunctAfter (before : ClusterEnd) (c : Char) : Conjunct :=
  if ClusterClass.ofChar c = .consonant then .begun
  else if isLinker c then (if before.conjunct = .absent then .absent else .linked)
  else if isConjunctMark c then before.conjunct
  else .absent

def push (before : ClusterEnd) (c : Char) : ClusterEnd :=
  let next := ClusterClass.ofChar c
  { last := next
    oddRegional := next = .regional && !before.oddRegional
    picture := next = .pictograph ||
      (before.picture && before.last ≠ .joiner && (next = .extend || next = .joiner))
    conjunct := before.conjunctAfter c }

end ClusterEnd

/-- The clusters of a text, the first of which goes on from the text before it. -/
def clustersAfter (before : ClusterEnd) : Text → List Text
  | [] => [[]]
  | c :: cs =>
    let rest := consFirst c (clustersAfter (before.push c) cs)
    if before.joins (ClusterClass.ofChar c) then rest else [] :: rest

def clusters (t : Text) : List Text :=
  (clustersAfter .start t).filter (· ≠ [])

/-! Backspaces. -/

def backspace : Char := '\x08'

/-- A line so far, last character first, with the sizes of its clusters, last first. -/
structure Typed where
  held : Text
  sizes : List Nat
  deriving DecidableEq, Repr

/-- Drops a number of bytes, and a character that they end in. -/
def dropBytes (count : Nat) : Text → Text
  | [] => []
  | c :: cs => if count = 0 then c :: cs else dropBytes (count - c.utf8Size) cs

/-- A size is kept in one byte: of a cluster of 256 bytes or more, only what is over a
multiple of that is rubbed out. -/
def sizeKept (cluster : Text) : Nat := byteSize cluster % 256

def Typed.enter (typed : Typed) (cluster : Text) : Typed :=
  if cluster = [backspace] then
    match typed.sizes with
    | [] => typed
    | size :: sizes => ⟨dropBytes size typed.held, sizes⟩
  else ⟨cluster.reverse ++ typed.held, sizeKept cluster :: typed.sizes⟩

/-- The line that is left of what was typed. -/
def rubOut (t : Text) : Text :=
  if t.contains backspace then (((clusters t).foldl Typed.enter ⟨[], []⟩).held).reverse else t

end Imperative.Text
