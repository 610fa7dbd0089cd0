import Imperative.Proofs.Phrase
import Imperative.Session

/-! Commands as they are described to the player. The labels of the slots are of one length and
differ, so that a line tells its slot and its word, and the lines of a description tell the
command. Words that come out of a line hold no line break. -/
namespace Imperative
open Text

namespace Text

variable {cut : Char → Bool} {c : Char} {pieces : List Text} {line : Text}

theorem splitWhere_join (here : cut c = true) (whole : ∀ piece ∈ pieces, ∀ d ∈ piece, cut d = false)
    (nonempty : pieces ≠ []) : splitWhere cut (join [c] pieces) = pieces := by
  induction pieces with
  | nil => contradiction
  | cons piece rest ih =>
    obtain ⟨first, others⟩ := List.forall_mem_cons.mp whole
    by_cases only : rest = []
    · subst rest
      simpa [join] using splitWhere_whole first
    · rw [join_cons [c] piece only, List.append_assoc, List.singleton_append,
        splitWhere_cut first here, ih others only]

/-- Every line but the last loses a carriage return at its end, and the last is none if it is
empty. -/
theorem closeLines_concat (front : List Text) (last : Text) : closeLines (front ++ [last]) =
    front.map dropReturn ++ if last = [] then [] else [last] := by
  induction front with
  | nil => simp [closeLines]
  | cons line rest ih =>
    cases rest with
    | nil => simp [closeLines]
    | cons next rest => exact congrArg (dropReturn line :: ·) ih

theorem dropReturn_of_not_mem (absent : '\r' ∉ line) : dropReturn line = line :=
  if_neg fun ends => absent (List.mem_of_getLast? ends)

end Text

namespace Slot

variable {slot other : Slot} {word held : Text} {c : Char}

/-- The line that describes a slot and the word in it. -/
def entry (slot : Slot) (word : Text) : Text := slot.label ++ ' ' :: word

theorem length_label (slot : Slot) : slot.label.length = 16 := by cases slot <;> rfl

theorem label_injective (same : slot.label = other.label) : slot = other := by
  have apart : ∀ slot ∈ all, ∀ other ∈ all, slot.label = other.label → slot = other := by decide
  exact apart slot (by cases slot <;> decide) other (by cases other <;> decide) same

/-- The words begin behind labels of one length, whatever is in them. -/
theorem entry_injective (same : slot.entry word = other.entry held) :
    slot = other ∧ word = held := by
  have length : slot.label.length = other.label.length := by rw [length_label, length_label]
  obtain ⟨label, rest⟩ := List.append_inj same length
  exact ⟨label_injective label, (List.cons.inj rest).2⟩

theorem entry_ne_nil (slot : Slot) (word : Text) : slot.entry word ≠ [] := by simp [entry]

/-- Neither labels nor the blank behind them break a line. -/
theorem not_mem_entry (breaks : c = '\n' ∨ c = '\r') (absent : c ∉ word) :
    c ∉ slot.entry word := by
  have clear : c ∉ slot.label ∧ c ≠ ' ' := by
    obtain rfl | rfl := breaks <;> cases slot <;> decide
  simp [entry, clear, absent]

end Slot

namespace Command

variable {command a b : Command} {line : Text}

/-- The lines of a description: one for each slot that is filled, in the order in which a
sentence is read out. -/
def entries (command : Command) : List Text :=
  Slot.all.filterMap fun slot => (command.get slot).map slot.entry

/-- No word of the command holds a line feed. -/
def FreeOfBreaks (command : Command) : Prop := ∀ word ∈ command.contents, '\n' ∉ word

instance (command : Command) : Decidable command.FreeOfBreaks :=
  List.decidableBAll _ command.contents

theorem entries_eq (command : Command) :
    command.entries = command.filled.map fun pair => pair.1.entry pair.2 := by
  rw [entries, filled, List.map_filterMap]
  simp only [Option.map_map]
  rfl

theorem describe_eq (command : Command) : command.describe = join ['\n'] command.entries := by
  rw [entries_eq]
  rfl

theorem mem_entries : line ∈ command.entries ↔
    ∃ slot word, command.get slot = some word ∧ slot.entry word = line := by
  rw [entries_eq, List.mem_map]
  constructor
  · rintro ⟨⟨slot, word⟩, held, same⟩
    exact ⟨slot, word, mem_filled.mp held, same⟩
  · rintro ⟨slot, word, held, same⟩
    exact ⟨(slot, word), mem_filled.mpr held, same⟩

/-- The lines of a description tell what each slot holds. -/
theorem entries_injective (same : a.entries = b.entries) : a = b := by
  apply ext_get
  intro slot
  apply Option.ext
  intro word
  have spelled (command : Command) :
      command.get slot = some word ↔ slot.entry word ∈ command.entries := by
    rw [mem_entries]
    constructor
    · intro held
      exact ⟨slot, word, held, rfl⟩
    · rintro ⟨other, word', held, line⟩
      obtain ⟨rfl, rfl⟩ := Slot.entry_injective line
      exact held
  rw [spelled a, spelled b, same]

theorem entry_ne_nil_of_mem (member : line ∈ command.entries) : line ≠ [] := by
  obtain ⟨slot, word, held, rfl⟩ := mem_entries.mp member
  exact slot.entry_ne_nil word

namespace FreeOfBreaks

theorem solid_entries (free : command.FreeOfBreaks) :
    ∀ line ∈ command.entries, ∀ c ∈ line, (c == '\n') = false := by
  intro line member c inside
  obtain ⟨slot, word, held, rfl⟩ := mem_entries.mp member
  refine beq_false_of_ne ?_
  rintro rfl
  have absent : '\n' ∉ word := free word (mem_contents.mpr ⟨slot, held⟩)
  exact Slot.not_mem_entry (.inl rfl) absent inside

/-- Between its line feeds a description has its lines, if it has any. -/
theorem splitWhere_describe (free : command.FreeOfBreaks) (some : command.entries ≠ []) :
    splitWhere (· == '\n') command.describe = command.entries := by
  rw [describe_eq, splitWhere_join (by decide) free.solid_entries some]

theorem entries_eq_filter (free : command.FreeOfBreaks) :
    command.entries = (splitWhere (· == '\n') command.describe).filter (· ≠ []) := by
  by_cases none : command.entries = []
  · have onlyEmpty : splitWhere (· == '\n') command.describe = [[]] := by
      rw [describe_eq, none]
      rfl
    rw [none, onlyEmpty]
    rfl
  · rw [free.splitWhere_describe none]
    refine (List.filter_eq_self.mpr fun line member => ?_).symm
    exact decide_eq_true (entry_ne_nil_of_mem member)

theorem describe_injective (first : a.FreeOfBreaks) (second : b.FreeOfBreaks)
    (same : a.describe = b.describe) : a = b := by
  apply entries_injective
  rw [first.entries_eq_filter, second.entries_eq_filter, same]

/-- A reader of lines finds one for each slot that is filled, and in the last of them all that
was written there. -/
theorem lines_describe (free : command.FreeOfBreaks) {front : List Text} {last : Text}
    (split : command.entries = front ++ [last]) :
    lines command.describe = front.map dropReturn ++ [last] := by
  have member : last ∈ command.entries := by simp [split]
  have filled : last ≠ [] := entry_ne_nil_of_mem member
  rw [lines, free.splitWhere_describe (List.ne_nil_of_mem member), split, closeLines_concat,
    if_neg filled]

theorem length_lines_describe (free : command.FreeOfBreaks) :
    (lines command.describe).length = command.entries.length := by
  rcases List.eq_nil_or_concat command.entries with none | ⟨front, last, split⟩
  · rw [describe_eq, none]
    rfl
  · rw [List.concat_eq_append] at split
    rw [free.lines_describe split, split]
    simp

/-- With a line feed behind the description every line is ended by one. -/
theorem lines_describe_ended (free : command.FreeOfBreaks) (some : command.entries ≠ []) :
    lines (command.describe ++ ['\n']) = command.entries.map dropReturn := by
  have cut : splitWhere (· == '\n') (command.describe ++ ['\n']) = command.entries ++ [[]] := by
    rw [splitWhere_append_cut (by decide), free.splitWhere_describe some]
    rfl
  rw [lines, cut, closeLines_concat, if_pos rfl, List.append_nil]

end FreeOfBreaks

/-! Commands that come out of lines, and what a session prints of them. -/

/-- The command comes of a clause of some line. -/
def Dispatched (lexicon : Lexicon) (command : Command) : Prop :=
  ∃ line report, Line.parse lexicon (some line) = .ok report ∧ command ∈ report.commands

namespace Dispatched

variable {lexicon : Lexicon}

theorem fits_and_complete (dispatched : command.Dispatched lexicon) :
    command.Fits lexicon ∧ command.isComplete = true := by
  obtain ⟨line, report, parsed, member⟩ := dispatched
  obtain ⟨clause, inside, given⟩ := Line.mem_commands.mp member
  obtain ⟨understood, same, fits, _, complete⟩ := Line.understood_of_parse parsed inside
  rw [given] at same
  obtain rfl : command = understood := Option.some.inj same
  exact ⟨fits, complete command given⟩

theorem entries_ne_nil (dispatched : command.Dispatched lexicon) : command.entries ≠ [] := by
  obtain ⟨fits, complete⟩ := dispatched.fits_and_complete
  rw [fits.isComplete_eq] at complete
  obtain ⟨word, held⟩ := Option.isSome_iff_exists.mp complete
  exact List.ne_nil_of_mem (mem_entries.mpr ⟨.action, word, held, rfl⟩)

/-- Both characters of a line break are delimiters. -/
theorem not_mem_contents (dispatched : command.Dispatched lexicon) {c : Char}
    (breaks : c = '\n' ∨ c = '\r') : ∀ word ∈ command.contents, c ∉ word := by
  intro word member inside
  have cut : isDelimiter c = true := by obtain rfl | rfl := breaks <;> rfl
  have solid := (dispatched.fits_and_complete.1.whole_contents word member).1 c inside
  rw [cut] at solid
  contradiction

theorem freeOfBreaks (dispatched : command.Dispatched lexicon) : command.FreeOfBreaks :=
  dispatched.not_mem_contents (.inl rfl)

theorem map_dropReturn_entries (dispatched : command.Dispatched lexicon) :
    command.entries.map dropReturn = command.entries := by
  refine (List.map_congr_left fun line member => ?_).trans (List.map_id _)
  obtain ⟨slot, word, held, rfl⟩ := mem_entries.mp member
  have absent : '\r' ∉ word :=
    dispatched.not_mem_contents (.inr rfl) word (mem_contents.mpr ⟨slot, held⟩)
  exact dropReturn_of_not_mem (Slot.not_mem_entry (.inr rfl) absent)

theorem lines_describe (dispatched : command.Dispatched lexicon) :
    lines command.describe = command.entries := by
  obtain ⟨front, last, split⟩ :=
    (List.eq_nil_or_concat command.entries).resolve_left dispatched.entries_ne_nil
  rw [List.concat_eq_append] at split
  have kept := dispatched.map_dropReturn_entries
  rw [split, List.map_append] at kept
  rw [dispatched.freeOfBreaks.lines_describe split, (List.append_inj' kept rfl).1, split]

end Dispatched
end Command

namespace Session

theorem said_handle {session : Session} (echoes : session.settings.echo = true)
    (command : Command) : (session.handle command).said = command.describe ++ ['\n'] := by
  rw [handle, if_pos echoes]
  exact List.append_nil _

end Session

namespace Command

/-- A description tells the command. No two commands without line feeds in their words are
described alike, and a description has a line for each slot that is filled, in the order of the
slots. This holds of all that lines give: two commands that are dispatched, of whatever lines
under whatever lexicons, are printed alike only if they are one. -/
theorem described_apart :
    (∀ a b : Command, a.FreeOfBreaks → b.FreeOfBreaks → a.describe = b.describe → a = b) ∧
    (∀ command : Command, command.FreeOfBreaks →
      (lines command.describe).length = command.entries.length ∧
      (command.entries ≠ [] → splitWhere (· == '\n') command.describe = command.entries)) ∧
    ∀ first second : Session, first.settings.echo = true → second.settings.echo = true →
      ∀ a b, a.Dispatched first.lexicon → b.Dispatched second.lexicon →
        lines a.describe = a.entries ∧ lines (first.handle a).said = a.entries ∧
        ((first.handle a).said = (second.handle b).said → a = b) := by
  refine ⟨?apart, ?counted, ?printed⟩
  case apart => exact fun a b first second same => first.describe_injective second same
  case counted =>
    exact fun command free => ⟨free.length_lines_describe, free.splitWhere_describe⟩
  case printed =>
    intro first second echoes echoes' a b given given'
    have read : lines (first.handle a).said = a.entries := by
      rw [Session.said_handle echoes, given.freeOfBreaks.lines_describe_ended given.entries_ne_nil,
        given.map_dropReturn_entries]
    refine ⟨given.lines_describe, read, fun same => ?_⟩
    rw [Session.said_handle echoes, Session.said_handle echoes'] at same
    exact given.freeOfBreaks.describe_injective given'.freeOfBreaks (List.append_cancel_right same)

/-- An empty word is not an empty slot, and dots and blanks in a word are not those of a label.
Two lines under two lexicons give commands of the same words in different slots. -/
theorem described_apart_at_dots :
    let bare : Command := { action := "go".toList }
    let empty : Command := { action := "go".toList, mode := some [] }
    let dotted : Command := { action := "go mode?...........".toList, mode := " ".toList }
    let first : Session :=
      ⟨.ofLists [(.word .verb, ["take".toList]), (.word .noun, ["two".toList])], {}⟩
    let second : Session :=
      ⟨.ofLists [(.word .verb, ["take".toList]), (.word .number, ["two".toList])], {}⟩
    let taken : Command := { action := "take".toList, directObject := "two".toList }
    let counted : Command := { action := "take".toList, quantity := "two".toList }
    bare.FreeOfBreaks ∧ empty.FreeOfBreaks ∧ dotted.FreeOfBreaks ∧
    bare.describe ≠ empty.describe ∧ empty.describe ≠ dotted.describe ∧
    (lines empty.describe).length = 2 ∧
    taken.Dispatched first.lexicon ∧ counted.Dispatched second.lexicon ∧
    lines (first.handle taken).said =
      ["action?......... take", "direct object?.. two"].map String.toList ∧
    (first.handle taken).said ≠ (second.handle counted).said := by
  intro bare empty dotted first second taken counted
  obtain ⟨apart, tally, printed⟩ := described_apart
  have free : bare.FreeOfBreaks ∧ empty.FreeOfBreaks ∧ dotted.FreeOfBreaks := by decide
  obtain ⟨bareFree, emptyFree, dottedFree⟩ := free
  have given : taken.Dispatched first.lexicon :=
    ⟨"Take two".toList, _, Line.parse_of_not_blank _ (by decide), by decide +kernel⟩
  have given' : counted.Dispatched second.lexicon :=
    ⟨"TWO, take".toList, _, Line.parse_of_not_blank _ (by decide), by decide +kernel⟩
  obtain ⟨_, read, differ⟩ := printed first second rfl rfl taken counted given given'
  refine ⟨bareFree, emptyFree, dottedFree, fun same => ?_, fun same => ?_,
    (tally empty emptyFree).1, given, given', read, fun same => ?_⟩
  · exact absurd (apart bare empty bareFree emptyFree same) (by decide)
  · exact absurd (apart empty dotted emptyFree dottedFree same) (by decide)
  · exact absurd (differ same) (by decide)

/-- A line feed in a word could pass for the end of a line. -/
example :
    let joined : Command := { action := "go\nmode?........... fast".toList }
    let apart : Command := { action := "go".toList, mode := "fast".toList }
    ¬ joined.FreeOfBreaks ∧ joined.describe = apart.describe := by decide

end Command
end Imperative
