import Imperative.Proofs.Lexicon.Entries
import Imperative.Proofs.Text.Lower
import Imperative.Settings

/-! What a written lexicon says. Each line is silent, lists words under a class, or is
misread; none of this depends on the other lines. The first misread line is reported, with
its number; if there is none, the lexicon is what the lines list, in whatever order and
under however many repetitions of a class. -/
namespace Imperative
open Text

variable {c d : WordClass} {t line name list word message : Text}

namespace WordClass

/-- A text names a class: in lowercase and without the blanks around it, it is the name of
the class, or the name with one `s` more. -/
def Named (c : WordClass) (t : Text) : Prop :=
  lower (trim t) = c.name ∨ lower (trim t) = c.name ++ ['s']

theorem isNamed_iff : c.isNamed (lower (trim t)) = true ↔ c.Named t := by
  simp [isNamed, Named]

/-- No two classes have a name in common. -/
theorem eq_of_named (first : c.Named t) (second : d.Named t) : c = d := by
  have apart : ∀ c ∈ priority, ∀ d ∈ priority,
      d.isNamed c.name = true ∨ d.isNamed (c.name ++ ['s']) = true → c = d := by decide
  refine apart c (mem_priority c) d (mem_priority d) ?_
  rw [← isNamed_iff] at second
  rcases first with same | same
  · exact .inl (same ▸ second)
  · exact .inr (same ▸ second)

theorem ofName?_eq_some_iff : ofName? t = some c ↔ c.Named t := by
  rw [ofName?, find?_priority_iff, isNamed_iff]
  refine and_iff_left_of_imp fun named d other => ?_
  rw [eq_of_named named (isNamed_iff.mp other)]

theorem ofName?_eq_none_iff : ofName? t = none ↔ ∀ c : WordClass, ¬ c.Named t := by
  simp only [Option.eq_none_iff_forall_ne_some, ne_eq, ofName?_eq_some_iff]

end WordClass

/-- A word of a text, as white space holds words apart. -/
def Text.Spaced (t word : Text) : Prop :=
  word ≠ [] ∧ ∃ before after, PieceAt isBlankChar t before word after

theorem Text.mem_blankSeparated : word ∈ blankSeparated t ↔ Spaced t word := by
  rw [blankSeparated, List.mem_filter, mem_splitWhere, and_comm]
  simp only [decide_eq_true_eq, Spaced]

namespace Lexicon

/-- A line that says nothing: it is blank, or a comment. -/
def Silent (line : Text) : Prop := isBlank line = true ∨ commentMark <+: trim line

/-- A line that is not silent and lists no words, with the message about it: it has no colon,
or there is no name of a class before the first. -/
inductive Misread (line : Text) : Text → Prop
  | noColon (spoken : ¬ Silent line) (absent : ':' ∉ trim line) :
    Misread line ("expected 'category: words', got '".toList ++ trim line ++ ['\''])
  | unknownName {name list : Text} (spoken : ¬ Silent line)
    (split : trim line = name ++ ':' :: list) (first : ':' ∉ name)
    (unnamed : ∀ c : WordClass, ¬ c.Named name) :
    Misread line ("unknown category '".toList ++ trim name ++ ['\''])

/-- A line lists words under a class: those behind its first colon, each in lowercase. -/
inductive Lists (line : Text) (c : WordClass) : Text → Prop
  | intro {name list written : Text} (spoken : ¬ Silent line)
    (split : trim line = name ++ ':' :: list) (first : ':' ∉ name) (named : c.Named name)
    (spaced : Spaced list written) : Lists line c (lower written)

theorem saysNothing_iff : saysNothing (trim line) = true ↔ Silent line := by
  simp only [saysNothing, Bool.or_eq_true, List.isEmpty_iff, trim_eq_nil_iff, Silent,
    List.isPrefixOf_iff_prefix]

/-! Reading one trimmed line. -/

theorem readList_of_absent (absent : ':' ∉ line) : readList line = .error (.noColon line) := by
  have none : line.dropWhile (· ≠ ':') = [] := by
    rw [List.dropWhile_eq_nil_iff]
    intro c member
    have other : c ≠ ':' := by
      rintro rfl
      exact absent member
    simpa using other
  rw [readList, none]

section Split

variable (first : ':' ∉ name) (list : Text)

include first

theorem dropWhile_split : (name ++ ':' :: list).dropWhile (· ≠ ':') = ':' :: list := by
  rw [List.dropWhile_append_of_pos (by grind), List.dropWhile_cons_of_neg (by simp)]

theorem takeWhile_split : (name ++ ':' :: list).takeWhile (· ≠ ':') = name := by
  rw [List.takeWhile_append_of_pos (by grind), List.takeWhile_cons_of_neg (by simp),
    List.append_nil]

theorem readList_of_named (named : c.Named name) :
    readList (name ++ ':' :: list) = .ok (c, (blankSeparated list).map lower) := by
  simp only [readList, dropWhile_split first, takeWhile_split first,
    WordClass.ofName?_eq_some_iff.mpr named]

theorem readList_of_unnamed (unnamed : ∀ c : WordClass, ¬ c.Named name) :
    readList (name ++ ':' :: list) = .error (.unknownName (trim name)) := by
  simp only [readList, dropWhile_split first, takeWhile_split first,
    WordClass.ofName?_eq_none_iff.mpr unnamed]

end Split

/-- A trimmed line has no colon, or what stands before the first one is a name or is none. -/
theorem readList_cases (line : Text) :
    (':' ∉ line ∧ readList line = .error (.noColon line)) ∨
    (∃ name list, line = name ++ ':' :: list ∧ ':' ∉ name ∧ (∀ c : WordClass, ¬ c.Named name) ∧
      readList line = .error (.unknownName (trim name))) ∨
    ∃ name list c, line = name ++ ':' :: list ∧ ':' ∉ name ∧ WordClass.Named c name ∧
      readList line = .ok (c, (blankSeparated list).map lower) := by
  by_cases colon : ':' ∈ line
  · obtain ⟨name, list, rfl, first⟩ := List.eq_append_cons_of_mem colon
    by_cases named : ∃ c : WordClass, c.Named name
    · obtain ⟨c, named⟩ := named
      exact .inr (.inr ⟨name, list, c, rfl, first, named, readList_of_named first list named⟩)
    · have unnamed := not_exists.mp named
      exact .inr (.inl ⟨name, list, rfl, first, unnamed, readList_of_unnamed first list unnamed⟩)
  · exact .inl ⟨colon, readList_of_absent colon⟩

theorem misread_iff : Misread line message ↔
    ¬ Silent line ∧ ∃ flaw, readList (trim line) = .error flaw ∧ flaw.message = message := by
  constructor
  · rintro (⟨spoken, absent⟩ | ⟨spoken, split, first, unnamed⟩)
    · exact ⟨spoken, .noColon _, readList_of_absent absent, rfl⟩
    · exact ⟨spoken, .unknownName _, split ▸ readList_of_unnamed first _ unnamed, rfl⟩
  · rintro ⟨spoken, flaw, read, rfl⟩
    rcases readList_cases (trim line) with
      ⟨absent, same⟩ | ⟨name, list, split, first, unnamed, same⟩ | ⟨_, _, _, _, _, _, same⟩
    · obtain rfl := Except.error.inj (same.symm.trans read)
      exact .noColon spoken absent
    · obtain rfl := Except.error.inj (same.symm.trans read)
      exact .unknownName spoken split first unnamed
    · rw [same] at read
      contradiction

theorem lists_iff : Lists line c word ↔
    ¬ Silent line ∧ ∃ words, readList (trim line) = .ok (c, words) ∧ word ∈ words := by
  constructor
  · rintro ⟨spoken, split, first, named, spaced⟩
    exact ⟨spoken, _, split ▸ readList_of_named first _ named,
      List.mem_map_of_mem (mem_blankSeparated.mpr spaced)⟩
  · rintro ⟨spoken, words, read, member⟩
    rcases readList_cases (trim line) with
      ⟨_, same⟩ | ⟨_, _, _, _, _, same⟩ | ⟨name, list, d, split, first, named, same⟩
    · rw [same] at read
      contradiction
    · rw [same] at read
      contradiction
    · obtain ⟨rfl, rfl⟩ := Prod.mk.inj (Except.ok.inj (same.symm.trans read))
      obtain ⟨written, spaced, rfl⟩ := List.mem_map.mp member
      exact .intro spoken split first named (mem_blankSeparated.mp spaced)

theorem ne_nil_of_lists (listed : Lists line c word) : word ≠ [] := by
  obtain ⟨_, _, _, _, written, _⟩ := listed
  exact mt lower_eq_nil_iff.mp written

/-! Reading line after line. -/

section Lines

variable {before : List Text}

theorem readLines_misread (misread : Misread line message) (lexicon : Lexicon) (number : Nat)
    (rest : List Text) : ∃ flaw, readLines lexicon number (line :: rest) = .error ⟨number, flaw⟩ ∧
      flaw.message = message := by
  obtain ⟨spoken, flaw, read, same⟩ := misread_iff.mp misread
  have speaks : saysNothing (trim line) = false :=
    Bool.eq_false_iff.mpr (mt saysNothing_iff.mp spoken)
  refine ⟨flaw, ?_, same⟩
  simp only [readLines, speaks, read, Bool.false_eq_true, if_false]

/-- A line that is not misread adds what it lists, which is nothing if it is silent. -/
theorem readLines_step (clear : ∀ message, ¬ Misread line message) (lexicon : Lexicon)
    (number : Nat) (rest : List Text) :
    ∃ next, readLines lexicon number (line :: rest) = readLines next (number + 1) rest ∧
      ∀ c word, next.contains c word = true ↔
        Lists line c word ∨ lexicon.contains c word = true := by
  by_cases silent : Silent line
  · refine ⟨lexicon, ?_, fun c word => ?_⟩
    · simp only [readLines, saysNothing_iff.mpr silent, if_true]
    · have nothing : ¬ Lists line c word := fun listed => (lists_iff.mp listed).1 silent
      simp [nothing]
  · have speaks : saysNothing (trim line) = false :=
      Bool.eq_false_iff.mpr (mt saysNothing_iff.mp silent)
    cases read : readList (trim line) with
    | error flaw => exact absurd (misread_iff.mpr ⟨silent, flaw, read, rfl⟩) (clear _)
    | ok list =>
      obtain ⟨d, words⟩ := list
      refine ⟨lexicon.insertAll (.word d) words, ?_, fun c word => ?_⟩
      · simp only [readLines, speaks, read, Bool.false_eq_true, if_false]
      · rw [contains_insertAll, lists_iff, read]
        constructor
        · rintro (⟨same, member, _⟩ | listed)
          · obtain rfl := Category.word.inj same
            exact .inl ⟨silent, words, rfl, member⟩
          · exact .inr listed
        · rintro (⟨_, found, same, member⟩ | listed)
          · obtain ⟨rfl, rfl⟩ := Prod.mk.inj (Except.ok.inj same)
            have nonempty := ne_nil_of_lists (lists_iff.mpr ⟨silent, words, read, member⟩)
            exact .inl ⟨rfl, member, nonempty⟩
          · exact .inr listed

/-- Lines that are not misread are passed over one by one. -/
theorem readLines_clear (clear : ∀ line ∈ before, ∀ message, ¬ Misread line message)
    (lexicon : Lexicon) (number : Nat) (rest : List Text) :
    ∃ next, readLines lexicon number (before ++ rest) =
        readLines next (number + before.length) rest ∧
      ∀ c word, next.contains c word = true ↔
        (∃ line ∈ before, Lists line c word) ∨ lexicon.contains c word = true := by
  induction before generalizing lexicon number with
  | nil => exact ⟨lexicon, rfl, by simp⟩
  | cons line later ih =>
    obtain ⟨first, others⟩ := List.forall_mem_cons.mp clear
    obtain ⟨next, step, added⟩ := readLines_step first lexicon number (later ++ rest)
    obtain ⟨last, run, listed⟩ := ih others next (number + 1)
    refine ⟨last, ?_, fun c word => ?_⟩
    · rw [List.cons_append, step, run, List.length_cons, Nat.add_assoc, Nat.add_comm 1]
    · rw [listed, added, List.exists_mem_cons_iff, or_left_comm, or_assoc]

end Lines

/-- The lines of a source that list a word under a class. -/
def Listed (source : Text) (c : WordClass) (word : Text) : Prop :=
  ∃ line ∈ lines source, Lists line c word

/-- No line of a source is misread. -/
def Legible (source : Text) : Prop := ∀ line ∈ lines source, ∀ message, ¬ Misread line message

theorem read_of_legible {source : Text} (legible : Legible source) : ∃ lexicon,
    read source = .ok lexicon ∧
      ∀ c word, lexicon.contains c word = true ↔ Listed source c word := by
  obtain ⟨lexicon, run, listed⟩ := readLines_clear legible empty 1 []
  rw [List.append_nil] at run
  refine ⟨lexicon, run, fun c word => ?_⟩
  simp [listed, contains_empty, Listed]

theorem read_of_misread {source : Text} {before after : List Text}
    (split : lines source = before ++ line :: after)
    (clear : ∀ earlier ∈ before, ∀ message, ¬ Misread earlier message)
    (misread : Misread line message) : (read source).mapError Misprint.fault =
      .error { kind := .lexicon (before.length + 1) message } := by
  obtain ⟨next, run, _⟩ := readLines_clear clear empty 1 (line :: after)
  obtain ⟨flaw, stop, same⟩ := readLines_misread misread next (1 + before.length) after
  rw [read, split, run, stop, ← same, Nat.add_comm 1]
  rfl

/-- A source that is not legible has a first line that is misread. -/
theorem exists_first_misread {texts : List Text}
    (misread : ∃ line ∈ texts, ∃ message, Misread line message) :
    ∃ before line after message, texts = before ++ line :: after ∧
      (∀ earlier ∈ before, ∀ message, ¬ Misread earlier message) ∧ Misread line message := by
  obtain ⟨before, line, after, split, clear, message, here⟩ := exists_first misread
  refine ⟨before, line, after, message, split, ?_, here⟩
  intro earlier inside
  exact not_exists.mp (clear earlier inside)

theorem legible_or_misread (source : Text) :
    Legible source ∨ ∃ line ∈ lines source, ∃ message, Misread line message := by
  by_cases misread : ∃ line ∈ lines source, ∃ message, Misread line message
  · exact .inr misread
  · refine .inl fun line member message here => misread ⟨line, member, message, here⟩

/-- A source gives the lexicon that its lines list, if none of them is misread. -/
theorem read_eq_ok_iff {source : Text} {lexicon : Lexicon} : read source = .ok lexicon ↔
    Legible source ∧ ∀ c word, lexicon.contains c word = true ↔ Listed source c word := by
  constructor
  · intro given
    rcases legible_or_misread source with legible | misread
    · obtain ⟨found, same, listed⟩ := read_of_legible legible
      obtain rfl := Except.ok.inj (same.symm.trans given)
      exact ⟨legible, listed⟩
    · obtain ⟨before, line, after, message, split, clear, here⟩ := exists_first_misread misread
      have stopped := read_of_misread split clear here
      rw [given] at stopped
      contradiction
  · rintro ⟨legible, listed⟩
    obtain ⟨found, same, others⟩ := read_of_legible legible
    rw [same, ext_contains fun c word => (others c word).trans (listed c word).symm]

theorem read_eq_error_iff {source : Text} {fault : Fault} :
    (read source).mapError Misprint.fault = .error fault ↔
      ∃ before line after message, lines source = before ++ line :: after ∧
        (∀ earlier ∈ before, ∀ message, ¬ Misread earlier message) ∧ Misread line message ∧
        fault = { kind := .lexicon (before.length + 1) message } := by
  constructor
  · intro given
    rcases legible_or_misread source with legible | misread
    · obtain ⟨found, same, _⟩ := read_of_legible legible
      rw [same] at given
      contradiction
    · obtain ⟨before, line, after, message, split, clear, here⟩ := exists_first_misread misread
      have stopped := read_of_misread split clear here
      exact ⟨before, line, after, message, split, clear, here,
        Except.error.inj (given.symm.trans stopped)⟩
  · rintro ⟨before, line, after, message, split, clear, here, rfl⟩
    exact read_of_misread split clear here

theorem read_fails_iff {source : Text} : (∃ misprint, read source = .error misprint) ↔
    ∃ line ∈ lines source, ∃ message, Misread line message := by
  constructor
  · rintro ⟨misprint, given⟩
    rcases legible_or_misread source with legible | misread
    · obtain ⟨lexicon, same, _⟩ := read_of_legible legible
      rw [same] at given
      contradiction
    · exact misread
  · rintro ⟨line, member, message, here⟩
    cases given : read source with
    | error misprint => exact ⟨misprint, rfl⟩
    | ok lexicon => exact absurd here ((read_eq_ok_iff.mp given).1 line member message)

/-- The format of a written lexicon. Reading it fails exactly if a line is misread, and the
fault is that of the first such line: its number, counted from one, and what is wrong with
it. Otherwise it gives the lexicon of the words that the lines list. Neither the order of
the lines nor a class that is named again makes a difference: sources that list the same
words under the same classes give one lexicon, and so do sources of the same lines. -/
theorem read_as_written (source : Text) :
    ((∃ misprint, read source = .error misprint) ↔
      ∃ line ∈ lines source, ∃ message, Misread line message) ∧
    (∀ fault, (read source).mapError Misprint.fault = .error fault ↔
      ∃ before line after message, lines source = before ++ line :: after ∧
        (∀ earlier ∈ before, ∀ message, ¬ Misread earlier message) ∧ Misread line message ∧
        fault = { kind := .lexicon (before.length + 1) message }) ∧
    (Legible source → ∃ lexicon, read source = .ok lexicon) ∧
    (∀ lexicon, read source = .ok lexicon ↔
      Legible source ∧ ∀ c word, lexicon.contains c word = true ↔ Listed source c word) ∧
    (∀ other, Legible source → Legible other →
      (∀ c word, Listed source c word ↔ Listed other c word) → read source = read other) ∧
    ∀ other, (∀ line, line ∈ lines source ↔ line ∈ lines other) →
      ∀ lexicon, read source = .ok lexicon ↔ read other = .ok lexicon := by
  refine ⟨read_fails_iff, fun fault => read_eq_error_iff, ?success, fun lexicon => read_eq_ok_iff,
    ?repeated, ?reordered⟩
  case success =>
    intro legible
    obtain ⟨lexicon, given, _⟩ := read_of_legible legible
    exact ⟨lexicon, given⟩
  case repeated =>
    intro other legible again same
    obtain ⟨lexicon, given, listed⟩ := read_of_legible legible
    rw [given, read_eq_ok_iff.mpr ⟨again, fun c word => (listed c word).trans (same c word)⟩]
  case reordered =>
    intro other same lexicon
    simp only [read_eq_ok_iff, Legible, Listed, same]

/-- Skipped lines count, and the colon is the first one. -/
example : (read ";; words\n\n VERBS : Take c:d\r\nverb: drop\n gerund : key".toList).mapError
    Misprint.fault = .error { kind := .lexicon 5 "unknown category 'gerund'".toList } := by
  rfl

example : (read ";; words\n\n VERBS : Take c:d\r\nverb: drop\n noun : key".toList).map (·.allWords) =
    .ok (["c:d", "drop", "key", "take"].map String.toList) := by
  rfl

end Lexicon
end Imperative
