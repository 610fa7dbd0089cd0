import Imperative.Proofs.Truncation

/-! Keywords in the lines that are typed. A line is read in lowercase, and there a keyword stands
wherever the line spells it in some ASCII case and nowhere else: no other letter is lowercased
into it, and no delimiter comes or goes. So the line as it is typed tells how it is divided, and
whether it ends a session. -/
namespace Imperative
open Text

variable {keyword line : Text}

/-- The words of a line that are read as a keyword are those that spell it in some ASCII case.
How a word is lowercased depends on what stands around it, so each is taken at its place. -/
theorem Text.map_words_normalize (plain : IsKeyword keyword) (line : Text) :
    (words (Line.normalize line)).map (decide <| · = keyword) =
      (words line).map (decide <| ·.map Char.toLower = keyword) := by
  apply List.ext_getElem?
  intro index
  rw [List.getElem?_map, List.getElem?_map]
  by_cases bound : index < (words line).length
  · obtain ⟨before, word, after, place, rfl⟩ := exists_wordAt line index bound
    rw [place.getElem?_words_normalize, place.getElem?_words]
    simp only [Option.map_some, lowerIn_eq_keyword_iff plain]
  · have beyond : (words line).length ≤ index := Nat.le_of_not_lt bound
    rw [List.getElem?_eq_none beyond,
      List.getElem?_eq_none (Nat.le_trans (length_words_normalize line).le beyond)]
    rfl

namespace Line

theorem map_separators (line : Text) : (words (normalize line)).map (decide <| · = separator) =
    (words line).map (decide <| IsConjunction ·) :=
  map_words_normalize isKeyword_separator line

theorem count_separators (line : Text) :
    (words (normalize line)).count separator = (words line).countP (IsConjunction ·) := by
  calc (words (normalize line)).count separator
      = ((words (normalize line)).map (decide <| · = separator)).countP id := by
        rw [List.countP_map, List.count]
        exact List.countP_congr fun word _ => by simp
    _ = ((words line).map (decide <| IsConjunction ·)).countP id := by rw [map_separators]
    _ = (words line).countP (IsConjunction ·) := by
        rw [List.countP_map]
        rfl

theorem length_clauses (line : Text) :
    (clauses (lower line)).length = 1 + (words line).countP (IsConjunction ·) := by
  rw [clauses, List.length_map, length_segments, ← count_separators, normalize, words_trim, Nat.add_comm]

/-- Keywords are read in any ASCII case and in no other spelling. A line that is not blank has
one clause more than there are conjunctions among its words as they are typed; the separators in
what is read of it stand where these conjunctions do. A line asks to quit if it spells the quit
word between blanks, and of the lines of a conversation only those end it that do so in what the
limit leaves of them. -/
theorem keywords_in_any_case (line : Text) :
    (isBlank line = false → ∀ lexicon, ∃ report, parse lexicon (some line) = .ok report ∧
      report.clauses.length = 1 + (words line).countP (IsConjunction ·)) ∧
    (words (normalize line)).map (decide <| · = separator) =
      (words line).map (decide <| IsConjunction ·) ∧
    (isQuit line = true ↔ (trim line).map Char.toLower = quitWord) ∧
    ∀ session : Session, (session.answer (.line line)).2 = .ok false ↔
      (trim (line.take session.settings.maxLength)).map Char.toLower = quitWord := by
  refine ⟨?clauses, map_separators line, isQuit_iff, ?session⟩
  case clauses =>
    intro filled lexicon
    refine ⟨_, parse_of_not_blank lexicon filled, ?_⟩
    rw [reports, List.length_map, length_clauses]
  case session =>
    intro session
    rw [Session.answer_result, Read.ending?_line, ← isQuit_iff]
    cases isQuit (line.take session.settings.maxLength) <;> simp [Except.map]

/-- Full-width letters are lowercased, but into no conjunction. A dotted capital I becomes an i
with a mark behind it, so the line that has one ends no session. -/
theorem keywords_in_any_case_at_dotted_i :
    let line := "Take \u212aEY (AnD) ＡＮＤ,aND'band".toList
    isBlank line = false ∧ (words line).countP (IsConjunction ·) = 2 ∧
    (∃ report, parse .standard (some line) = .ok report ∧ report.clauses.length = 3) ∧
    isQuit "\u3000qUIT\n".toList = true ∧ isQuit "QU\u0130T".toList = false ∧
    (Session.answer ⟨.standard, { maxLength := 5 }⟩ (.line " QUITE".toList)).2 = .ok false := by
  intro line
  have filled : isBlank line = false := by decide
  have tally : (words line).countP (IsConjunction ·) = 2 := by decide
  obtain ⟨report, parsed, length⟩ := (keywords_in_any_case line).1 filled .standard
  rw [tally] at length
  have quits := (keywords_in_any_case "\u3000qUIT\n".toList).2.2.1
  have dotted := (keywords_in_any_case "QU\u0130T".toList).2.2.1
  have ends := (keywords_in_any_case " QUITE".toList).2.2.2
  exact ⟨filled, tally, ⟨report, parsed, length⟩, quits.mpr (by decide),
    Bool.eq_false_iff.mpr (mt dotted.mp (by decide)), (ends _).mpr (by decide)⟩

end Line
end Imperative
