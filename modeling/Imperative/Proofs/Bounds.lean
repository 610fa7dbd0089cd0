import Imperative.Proofs.Conversation
import Imperative.Proofs.Evaluation
import Imperative.Proofs.Text.Keyword

/-! What becomes of a line that is cut to the limit. A line is blank or asks to quit as it is
typed, but what a conversation remembers and answers is its first characters. These can be
blank when the line is not, and the quit word can be gained or lost with what is cut off. -/
namespace Imperative
open Text Line

variable {limit : Nat} {line text start rest : Text} {script : List Read}

theorem Text.filter_solid_eq_nil_iff : line.filter (!isBlankChar ·) = [] ↔ isBlank line = true := by
  simp [List.filter_eq_nil_iff, isBlank_iff]

theorem Text.isBlank_take_iff : isBlank (line.take limit) = true ↔
    isBlank line = true ∨ limit ≤ (line.takeWhile isBlankChar).length := by
  induction line generalizing limit with
  | nil => simp [isBlank]
  | cons c cs ih =>
    cases limit with
    | zero => simp [isBlank]
    | succ limit =>
      rw [List.take_succ_cons, isBlank_cons, isBlank_cons, ih]
      cases blank : isBlankChar c <;> simp [blank]

namespace Input

/-- What the bounds leave of a line is its first characters, if it is not blank. -/
theorem text?_bound (limit : Nat) (line : Text) :
    (bound limit line).text? = if isBlank line then none else some (line.take limit) := by
  unfold bound
  split
  · rfl
  · split
    · next short =>
      rw [List.isEmpty_iff, List.drop_eq_nil_iff] at short
      rw [List.take_of_length_le short]
      rfl
    · rfl

/-- A line that is not blank begins with so many blanks that the limit leaves nothing else. -/
def CutToBlanks (limit : Nat) (line : Text) : Prop :=
  isBlank line = false ∧ limit ≤ (line.takeWhile isBlankChar).length

instance (limit : Nat) (line : Text) : Decidable (CutToBlanks limit line) :=
  inferInstanceAs (Decidable (_ ∧ _))

theorem blank_text_iff (given : (bound limit line).text? = some text) :
    isBlank text = true ↔ CutToBlanks limit line := by
  rw [text?_bound] at given
  split at given
  · contradiction
  · next filled =>
    obtain rfl := Option.some.inj given
    rw [isBlank_take_iff, CutToBlanks, Bool.eq_false_iff]
    simp [filled]

theorem CutToBlanks.blank (cut : CutToBlanks limit line) : isBlank (line.take limit) = true :=
  isBlank_take_iff.mpr (.inr cut.2)

/-- Such a line is always too long. -/
theorem CutToBlanks.bound_eq (cut : CutToBlanks limit line) :
    bound limit line = .tooLong (line.take limit) := by
  have more : (line.drop limit).isEmpty = false := by
    by_contra short
    rw [Bool.not_eq_false, List.isEmpty_iff, List.drop_eq_nil_iff] at short
    have blank := cut.blank
    rw [List.take_of_length_le short, cut.1] at blank
    contradiction
  simp [bound, cut.1, more]

end Input

theorem Script.mem_texts : text ∈ Script.texts limit script ↔
    ∃ line, .line line ∈ Script.heard limit script ∧ (Input.bound limit line).text? = some text := by
  have shown (line : Text) : Read.text? limit (.line line) = (Input.bound limit line).text? := by
    rw [Input.text?_bound, Read.text?]
  rw [Script.texts, List.mem_filterMap]
  constructor
  · rintro ⟨read, heard, given⟩
    cases read with
    | line line => exact ⟨line, heard, shown line ▸ given⟩
    | interrupted => contradiction
    | failed fault => contradiction
    | finished => contradiction
  · rintro ⟨line, heard, given⟩
    exact ⟨.line line, heard, (shown line).trans given⟩

namespace Session

variable {session : Session}

/-- The player sees the notice and nothing else, but the blanks are remembered. -/
theorem turn_cutToBlanks (cut : Input.CutToBlanks session.settings.maxLength line) :
    session.turn (.line line) = .ask session.settings.prompt ::
      (session.truncationNotice ++ [.remember (line.take session.settings.maxLength)]) := by
  have goesOn := isQuit_of_blank cut.blank
  simp [turn, answer, Input.accept, cut.bound_eq, answerLine, goesOn, eval_blank session cut.blank]

/-- Blank text is delivered exactly for a line that the limit cuts within the blanks at its
beginning, and then as the start of a line that is too long. Nothing but the notice of that is
shown; the blanks are remembered, and rejected as no input when they are evaluated. On every
other text of the history there is a report. So no blank line is added to the history exactly
if none of the lines that are heard is cut so. -/
theorem blank_remembered_exactly (session : Session) (script : List Read) :
    let limit := session.settings.maxLength
    let history := (session.run script).events.history
    (∀ line text, (Input.bound limit line).text? = some text →
      (isBlank text = true ↔ Input.CutToBlanks limit line)) ∧
    (∀ line, Input.CutToBlanks limit line →
      Input.bound limit line = .tooLong (line.take limit) ∧
      session.turn (.line line) = .ask session.settings.prompt ::
        (session.truncationNotice ++ [.remember (line.take limit)])) ∧
    (∀ text ∈ history, (session.eval text).2 =
      if isBlank text then .error .emptyInput else .ok (reportOf session.lexicon text)) ∧
    ((∃ text ∈ history, isBlank text = true) ↔
      ∃ line, .line line ∈ Script.heard limit script ∧ Input.CutToBlanks limit line) := by
  intro limit history
  have remembered : history = Script.texts limit script := (run_as_read session script).1
  refine ⟨fun line text => Input.blank_text_iff, fun line cut => ⟨cut.bound_eq,
    turn_cutToBlanks cut⟩, fun text _ => ?evaluated, ?found⟩
  case evaluated =>
    split
    · next blank => rw [eval_blank session blank]
    · next filled => exact eval_result session (Bool.eq_false_iff.mpr filled)
  case found =>
    rw [remembered]
    constructor
    · rintro ⟨text, member, blank⟩
      obtain ⟨line, heard, given⟩ := Script.mem_texts.mp member
      exact ⟨line, heard, (Input.blank_text_iff given).mp blank⟩
    · rintro ⟨line, heard, cut⟩
      have given : (Input.bound limit line).text? = some (line.take limit) := by
        rw [cut.bound_eq, Bounded.text?]
      exact ⟨line.take limit, Script.mem_texts.mpr ⟨line, heard, given⟩, cut.blank⟩

/-- A command that is typed behind more blanks than the limit leaves is lost, and the history
has a line of blanks for it. -/
theorem blank_remembered_for_indented_command :
    let session : Session := ⟨Lexicon.ofLists [(.word .verb, ["run".toList])], { maxLength := 3 }⟩
    let indented := "     run".toList
    let script := [Read.line indented, .line "run".toList, .finished]
    Input.CutToBlanks 3 indented ∧ isBlank "   ".toList = true ∧
    Input.bound 3 indented = .tooLong "   ".toList ∧
    session.turn (.line indented) = .ask session.settings.prompt ::
      (session.truncationNotice ++ [.remember "   ".toList]) ∧
    (∃ text ∈ (session.run script).events.history, isBlank text = true) ∧
    (session.run script).events.history = ["   ".toList, "run".toList] ∧
    (session.eval "   ".toList).2 = .error .emptyInput ∧
    (session.eval "run".toList).2 = .ok (reportOf session.lexicon "run".toList) := by
  intro session indented script
  have cut : Input.CutToBlanks 3 indented := by decide
  have heard : Read.line indented ∈ Script.heard 3 script := by decide +kernel
  have history : (session.run script).events.history = ["   ".toList, "run".toList] := by
    rw [(run_as_read session script).1]
    decide +kernel
  obtain ⟨exactly, shown, evaluated, found⟩ := blank_remembered_exactly session script
  obtain ⟨bounded, turn⟩ := shown indented cut
  have blank : isBlank "   ".toList = true :=
    (exactly indented "   ".toList (congrArg Bounded.text? bounded)).mpr cut
  rw [history] at evaluated
  exact ⟨cut, blank, bounded, turn, found.mpr ⟨indented, heard, cut⟩, history,
    evaluated "   ".toList (by decide), evaluated "run".toList (by decide)⟩

end Session

namespace Line

theorem isKeyword_quitWord : IsKeyword quitWord := by decide

/-- A line asks to quit exactly if between blanks it spells the quit word in some ASCII case. -/
theorem isQuit_iff : isQuit line = true ↔ (trim line).map Char.toLower = quitWord := by
  rw [isQuit, decide_eq_true_iff, normalize, trim_lower, lower_eq_keyword_iff isKeyword_quitWord]

/-- What is not blank in a line that asks to quit spells the quit word. -/
theorem filled_of_isQuit (quits : isQuit line = true) :
    (line.filter (!isBlankChar ·)).map Char.toLower = quitWord := by
  have spelled := isQuit_iff.mp quits
  obtain ⟨front, back, whole, before, after⟩ := trim_split line
  have solid : ∀ c ∈ trim line, (!isBlankChar c) = true := by
    intro c member
    have letter : c.toLower ∈ quitWord := spelled ▸ List.mem_map_of_mem member
    have filled := (plainLetters_data _ (isKeyword_quitWord _ letter)).2.2.2
    rwa [isBlankChar_toLower, ← Bool.not_eq_true'] at filled
  have kept : line.filter (!isBlankChar ·) = trim line := by
    conv_lhs => rw [whole]
    rw [List.filter_append, List.filter_append, filter_solid_eq_nil_iff.mpr before,
      filter_solid_eq_nil_iff.mpr after, List.filter_eq_self.mpr solid, List.nil_append,
      List.append_nil]
  rw [kept, spelled]

/-- A text and a longer one can both ask to quit only if the rest is blank. -/
theorem blank_of_both_quit (first : isQuit start = true) (whole : isQuit (start ++ rest) = true) :
    isBlank rest = true := by
  have same := filled_of_isQuit whole
  rwa [List.filter_append, List.map_append, filled_of_isQuit first, List.append_right_eq_self,
    List.map_eq_nil_iff, filter_solid_eq_nil_iff] at same

theorem isQuit_append_blank (blank : isBlank rest = true) :
    isQuit (start ++ rest) = isQuit start := by
  have same : normalize ([] ++ start ++ rest) = normalize start := normalize_padded rfl blank start
  rw [isQuit, isQuit, ← same, List.nil_append]

/-- The quit word is neither gained nor lost with what follows a text exactly if that is blank
or it is in neither. -/
theorem isQuit_append_iff (start rest : Text) : isQuit start = isQuit (start ++ rest) ↔
    isBlank rest = true ∨ isQuit start = false ∧ isQuit (start ++ rest) = false := by
  constructor
  · intro same
    cases quits : isQuit start with
    | true => exact .inl (blank_of_both_quit quits (same ▸ quits))
    | false => exact .inr ⟨rfl, same ▸ quits⟩
  · rintro (blank | ⟨first, whole⟩)
    · exact (isQuit_append_blank blank).symm
    · rw [first, whole]

end Line

theorem Read.ending?_line (limit : Nat) (line : Text) : Read.ending? limit (.line line) =
    if isQuit (line.take limit) then some (.ok ()) else none := by
  cases blank : isBlank line with
  | true =>
    have cut : isBlank (line.take limit) = true := isBlank_take_iff.mpr (.inl blank)
    simp [ending?, text?, blank, isQuit_of_blank cut]
  | false => simp [ending?, text?, blank]

namespace Session

/-- A conversation ends with a line exactly if the first characters of the line, up to the
limit, ask to quit. If what is cut off is blank, so does then the line as it is typed; if not,
the two never both ask to quit, and they agree only where neither does. A batch asks the line
as it is typed, before it looks at the length. -/
theorem quits_by_start (session : Session) (line : Text) (reads : List Read) (lines : List Text) :
    let limit := session.settings.maxLength
    let start := line.take limit
    session.converse (.line line :: reads) =
      (if isQuit start then ⟨session.turn (.line line), .ok (), reads⟩
        else (session.converse reads).after (session.turn (.line line))) ∧
    (isQuit start = isQuit line ↔
      isBlank (line.drop limit) = true ∨ isQuit start = false ∧ isQuit line = false) ∧
    (isQuit line = true ↔ (trim line).map Char.toLower = quitWord) ∧
    session.batch (line :: lines) =
      (if isQuit line then ([], .ok [])
        else if session.Overlong line then ([], .error (session.overlong line))
        else session.batchAfter [line] (session.batch lines)) := by
  intro limit start
  refine ⟨?conversation, ?agree, isQuit_iff, ?batch⟩
  case conversation =>
    have answered := answer_result session (.line line)
    rw [Read.ending?_line] at answered
    split
    · next quits =>
      rw [if_pos quits] at answered
      exact converse_ended answered reads
    · next goesOn =>
      rw [if_neg goesOn] at answered
      exact converse_on answered reads
  case agree =>
    have agree := isQuit_append_iff start (line.drop limit)
    rwa [List.take_append_drop] at agree
  case batch =>
    cases quits : isQuit line with
    | true => exact batch_quit quits lines
    | false =>
      by_cases long : session.Overlong line
      · simpa [long] using batch_overlong quits long lines
      · simpa [long] using batch_step quits long lines

/-- What is cut off can be what keeps a line from asking to quit, or part of the quit word. -/
theorem quits_by_start_not_by_line :
    let session : Session := ⟨.empty, { maxLength := 4 }⟩
    let quitNow := "quit now".toList
    let indented := "  quit".toList
    isQuit quitNow = false ∧ (session.answer (.line quitNow)).2 = .ok false ∧
    isQuit indented = true ∧ (session.answer (.line indented)).2 = .ok true := by
  intro session quitNow indented
  refine ⟨?_, ?_, ?_, ?_⟩ <;> decide +kernel

end Session
end Imperative
