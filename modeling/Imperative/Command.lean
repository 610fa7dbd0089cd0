import Imperative.Category

/-! A command holds at most one word for each of six slots. The verb fills the
action; without one a command cannot be carried out. -/
namespace Imperative

/-- The slots in the order in which a sentence is read out. -/
inductive Slot where
  | action
  | mode
  | quantity
  | quality
  | directObject
  | indirectObject
  deriving DecidableEq, Repr

namespace Slot

def all : List Slot := [.action, .mode, .quantity, .quality, .directObject, .indirectObject]

/-- The slot that a word class fills. Articles, prepositions and conjunctions fill none. -/
def ofClass? : WordClass → Option Slot
  | .verb => some action
  | .adverb => some mode
  | .number => some quantity
  | .adjective => some quality
  | .noun => some directObject
  | .pronoun => some indirectObject
  | .article | .preposition | .conjunction => none

def name : Slot → Text
  | action => "action".toList
  | mode => "mode".toList
  | quantity => "quantity".toList
  | quality => "quality".toList
  | directObject => "direct_object".toList
  | indirectObject => "indirect_object".toList

def ofName? (t : Text) : Option Slot := all.find? (·.name = t)

end Slot

structure Command where
  action : Option Text := none
  mode : Option Text := none
  quantity : Option Text := none
  quality : Option Text := none
  directObject : Option Text := none
  indirectObject : Option Text := none
  deriving DecidableEq, Repr

namespace Command

def empty : Command := {}

def get (command : Command) : Slot → Option Text
  | .action => command.action
  | .mode => command.mode
  | .quantity => command.quantity
  | .quality => command.quality
  | .directObject => command.directObject
  | .indirectObject => command.indirectObject

/-- Fills a slot, in place of what it held. -/
def set (command : Command) (slot : Slot) (word : Text) : Command :=
  match slot with
  | .action => { command with action := some word }
  | .mode => { command with mode := some word }
  | .quantity => { command with quantity := some word }
  | .quality => { command with quality := some word }
  | .directObject => { command with directObject := some word }
  | .indirectObject => { command with indirectObject := some word }

/-- The filled slots and what they hold. -/
def filled (command : Command) : List (Slot × Text) :=
  Slot.all.filterMap fun slot => (command.get slot).map fun word => (slot, word)

def isComplete (command : Command) : Bool := command.action.any (· ≠ [])

def isEmpty (command : Command) : Bool := Slot.all.all fun slot => (command.get slot).isNone

/-- The words of a command as a clause. -/
def phrase (command : Command) : Text :=
  Text.join [' '] (command.filled.map (·.2))

theorem get_set (command : Command) (slot other : Slot) (word : Text) :
    (command.set slot word).get other = if slot = other then some word else command.get other := by
  cases slot <;> cases other <;> rfl

theorem ext_get {a b : Command} (same : ∀ slot, a.get slot = b.get slot) : a = b := by
  obtain ⟨_, _, _, _, _, _⟩ := a
  obtain ⟨_, _, _, _, _, _⟩ := b
  have := same .action
  have := same .mode
  have := same .quantity
  have := same .quality
  have := same .directObject
  have := same .indirectObject
  simp_all [get]

end Command
end Imperative
