import Imperative.Proofs.Bounds
import Imperative.Proofs.Rejoining
import Imperative.Proofs.Text.Keyword

/-! Lines that are cut off. A cut between words reaches back to the last separator before it
and no further: the separators in front of it stay where they are, and hold whatever the
rest does to a sigma apart from the clauses before them. So every clause of the cut line but
its last is a clause of the whole line, at the same place. -/
namespace Imperative
open Text

namespace Text

variable {line before word after rest : Text} {α : Type}

/-- A list that has an item of a kind is divided by the last one. -/
theorem exists_last {p : α → Prop} {items : List α} (found : ∃ item ∈ items, p item) :
    ∃ before last after, items = before ++ last :: after ∧ p last ∧ ∀ item ∈ after, ¬ p item := by
  have turned : ∃ item ∈ items.reverse, p item := by simpa only [List.mem_reverse] using found
  obtain ⟨after, last, before, split, later, kind⟩ := exists_first turned
  refine ⟨before.reverse, last, after.reverse, ?_, kind, ?_⟩
  · rw [← List.reverse_reverse items, split]
    simp
  · simpa only [List.mem_reverse] using later

/-- A word keeps its place when the text goes on behind a cut that is not inside a word. -/
theorem WordAt.extend (place : WordAt line before word after)
    (apart : Line.isBoundary line.getLast? = true ∨ Line.isBoundary rest.head? = true) :
    WordAt (line ++ rest) before word (after ++ rest) where
  split := by rw [place.split, List.append_assoc]
  nonempty := place.nonempty
  unbroken := place.unbroken
  opens := place.opens
  closes := by
    cases after with
    | cons c cs => exact place.closes
    | nil =>
      refine apart.resolve_left fun ends => ?_
      obtain ⟨start, c, rfl⟩ := (List.eq_nil_or_concat word).resolve_left place.nonempty
      have solid := place.unbroken c (by simp)
      have last : line.getLast? = some c := by simp [place.split]
      rw [last, Line.isBoundary, solid] at ends
      contradiction

end Text

namespace Line

variable {line before word after start rest t : Text} {lexicon : Lexicon}

theorem isKeyword_separator : IsKeyword separator := by decide

/-- The word at a place is lowercased to the separator if it is a conjunction, whatever
stands around it. -/
theorem lowerIn_eq_separator_iff :
    lowerIn before word after = separator ↔ IsConjunction word :=
  lowerIn_eq_keyword_iff isKeyword_separator

theorem fuse_append {segments : List Text} (first : Text) (later : List Text) :
    fuse segments (first :: later) = fuse segments [first] ++ later := by
  induction segments with
  | nil => rfl
  | cons segment others ih =>
    cases others with
    | nil => rfl
    | cons next others =>
      rw [fuse, ih]
      rfl

/-- A separator that stands alone divides the segments of a text. -/
theorem segments_at_separator (place : WordAt t before separator after) :
    segments t = segments before ++ segments after := by
  have joined := segments_separator_append place.closes
  rcases List.eq_nil_or_concat before with rfl | ⟨front, c, rfl⟩
  · rw [place.split]
    exact joined
  · have cut : isDelimiter c = true := by simpa [isBoundary] using place.opens
    have whole : t = front ++ c :: (separator ++ after) := by simp [place.split]
    have single : segments (front.concat c) = fuse (segments front) [[c]] := by
      rw [List.concat_eq_append]
      exact segments_append_cut cut front []
    rw [whole, segments_append_cut cut, joined, List.modifyHead_cons, fuse_append, single]

theorem clauses_at_separator (place : WordAt t before separator after) :
    clauses t = clauses before ++ clauses after := by
  rw [clauses, segments_at_separator place, List.map_append, clauses, clauses]

theorem clauses_of_not_mem (absent : separator ∉ words t) : clauses t = [trim t] := by
  rw [clauses, segments_of_not_mem absent]
  rfl

/-- The last separator of a lowercased text is a conjunction of the text, with none behind. -/
theorem exists_last_conjunction (divided : separator ∈ words (lower t)) :
    ∃ before word after, WordAt t before word after ∧ IsConjunction word ∧
      separator ∉ words (lowerIn (word.reverse ++ before.reverse) after []) := by
  obtain ⟨front, last, back, split, rfl, absent⟩ :=
    exists_last (p := (· = separator)) ⟨separator, divided, rfl⟩
  have bound : front.length < (words t).length := by
    have count := length_words_lowerIn [] t []
    rw [← lower_eq_lowerIn, split, List.length_append, List.length_cons] at count
    omega
  obtain ⟨before, word, after, place, index⟩ := exists_wordAt t front.length bound
  have lowered := place.lowered.words_eq
  have same : (words (lowerIn [] before (word ++ after))).length = front.length := by
    rw [length_words_lowerIn, index]
  obtain ⟨_, rest⟩ := List.append_inj (split.symm.trans lowered) same.symm
  obtain ⟨spelled, later⟩ := List.cons.inj rest
  refine ⟨before, word, after, place, lowerIn_eq_separator_iff.mp spelled.symm, ?_⟩
  rw [← later]
  exact fun member => absent separator member rfl

/-- A conjunction divides the clauses of a text that goes on in any way behind it: those in
front do not depend on what follows. -/
theorem clauses_at_conjunction (place : WordAt line before word after)
    (spelled : IsConjunction word) : clauses (lower line) =
      clauses (lowerIn [] before separator) ++
        clauses (lowerIn (word.reverse ++ before.reverse) after []) := by
  have seen (t : Text) : meetsCased (word ++ t) = true :=
    meetsCased_keyword isKeyword_separator (List.cons_ne_nil _ _) spelled t
  have front : lowerIn [] before (word ++ after) = lowerIn [] before separator := by
    refine lowerIn_congr before rfl ((seen after).trans ?_)
    decide +kernel
  have lowered := place.lowered
  rw [lowerIn_eq_separator_iff.mpr spelled, front] at lowered
  exact clauses_at_separator lowered

/-- The clauses of the start of a text, the last one apart, are the first of the whole text. -/
theorem exists_kept_clauses
    (apart : isBoundary start.getLast? = true ∨ isBoundary rest.head? = true) :
    ∃ kept last more, clauses (lower start) = kept ++ [last] ∧
      clauses (lower (start ++ rest)) = kept ++ more ∧ more ≠ [] := by
  by_cases divided : separator ∈ words (lower start)
  · obtain ⟨before, word, after, place, spelled, absent⟩ := exists_last_conjunction divided
    have cut := clauses_at_conjunction place spelled
    have whole := clauses_at_conjunction (place.extend apart) spelled
    rw [clauses_of_not_mem absent] at cut
    exact ⟨_, _, _, cut, whole, clauses_ne_nil _⟩
  · exact ⟨[], _, _, clauses_of_not_mem divided, rfl, clauses_ne_nil _⟩

theorem commands_append (front back : List ClauseReport) : Report.commands ⟨front ++ back⟩ =
    Report.commands ⟨front⟩ ++ Report.commands ⟨back⟩ :=
  List.filterMap_append

theorem commands_singleton (clause : ClauseReport) :
    Report.commands ⟨[clause]⟩ = clause.outcome.toOption.toList := by
  cases given : clause.outcome with
  | ok command => rw [Report.commands_ok given]; rfl
  | error rejection => rw [Report.commands_error given]; rfl

end Line

namespace Session

variable {session : Session} {line : Text}

/-- Of a line only what the limit leaves is dispatched, unless that is the quit word. -/
theorem carriedOut_turn (session : Session) (line : Text) :
    (session.turn (.line line)).carriedOut =
      if Line.isQuit (line.take session.settings.maxLength) then []
      else (Line.reportOf session.lexicon (line.take session.settings.maxLength)).commands := by
  rw [Transcript.carriedOut, filterMap_turn Transcript.overlooks_command, Read.answered?, Read.text?]
  cases blank : isBlank line with
  | true =>
    have cut : isBlank (line.take session.settings.maxLength) = true :=
      isBlank_take_iff.mpr (.inl blank)
    rw [Line.isQuit_of_blank cut, Line.reportOf_blank _ cut]
    rfl
  | false =>
    have answered : (session.eval (line.take session.settings.maxLength)).1.filterMap
        Event.command? = _ := carriedOut_eval session _
    cases quits : Line.isQuit (line.take session.settings.maxLength) <;>
      simp [Option.filter, quits, answered, Event.command?]

end Session

namespace Line

/-- Truncation between words only touches the last clause. If a text that is not blank is cut
off where no word goes on, then its clauses, the last one apart, are with text and outcome
the first clauses of the whole text. So when a line is cut to the limit there, the commands
that are dispatched are, up to the last clause, those that the whole line would have had
dispatched for the same clauses. -/
theorem truncated_between_words (lexicon : Lexicon) {start rest : Text}
    (filled : isBlank start = false)
    (apart : isBoundary start.getLast? = true ∨ isBoundary rest.head? = true) :
    ∃ kept last more, parse lexicon (some start) = .ok ⟨kept ++ [last]⟩ ∧
      parse lexicon (some (start ++ rest)) = .ok ⟨kept ++ more⟩ ∧ more ≠ [] ∧
      ∀ settings, Input.bound settings.maxLength (start ++ rest) = .tooLong start →
        let session : Session := ⟨lexicon, settings⟩
        (session.turn (.line (start ++ rest))).carriedOut = (if isQuit start then []
          else Report.commands ⟨kept⟩ ++ last.outcome.toOption.toList) ∧
        (session.eval (start ++ rest)).1.carriedOut =
          Report.commands ⟨kept⟩ ++ Report.commands ⟨more⟩ := by
  obtain ⟨kept, last, more, first, second, nonempty⟩ := exists_kept_clauses apart
  have longer : isBlank (start ++ rest) = false :=
    not_blank_of_mem (List.subset_append_left start rest) filled
  have cut : parse lexicon (some start) =
      .ok ⟨reports lexicon kept ++ [⟨last, Clause.parse lexicon last⟩]⟩ := by
    rw [parse_of_not_blank lexicon filled, first, reports, List.map_append]
    rfl
  have whole : parse lexicon (some (start ++ rest)) =
      .ok ⟨reports lexicon kept ++ reports lexicon more⟩ := by
    rw [parse_of_not_blank lexicon longer, second, reports, List.map_append]
    rfl
  refine ⟨_, _, _, cut, whole, by simpa [reports] using nonempty, ?_⟩
  intro settings bounded session
  have limited : (start ++ rest).take settings.maxLength = start := by
    have left := Input.text?_bound settings.maxLength (start ++ rest)
    rw [bounded, longer] at left
    exact (Option.some.inj left).symm
  have onCut := Except.ok.inj ((parse_eq_reportOf lexicon filled).symm.trans cut)
  have onWhole := Except.ok.inj ((parse_eq_reportOf lexicon longer).symm.trans whole)
  refine ⟨?_, ?_⟩
  · rw [Session.carriedOut_turn, limited, onCut, commands_append, commands_singleton]
  · rw [Session.carriedOut_eval, onWhole, commands_append]

/-- The sigma before the cut is final there and is not in the whole line. Its clause is the
last one of the cut line; the one before it is the same in both. -/
theorem truncated_between_words_at_sigma :
    let start := "Take key, AND drop ΑΣ.".toList
    let rest := "Α and run".toList
    let settings : Settings := { maxLength := 22 }
    isBlank start = false ∧ (isBoundary start.getLast? = true ∨ isBoundary rest.head? = true) ∧
    Input.bound settings.maxLength (start ++ rest) = .tooLong start ∧
    ∃ kept last more, parse .standard (some start) = .ok ⟨kept ++ [last]⟩ ∧
      parse .standard (some (start ++ rest)) = .ok ⟨kept ++ more⟩ ∧
      kept.map (·.text) = ["take key,".toList] ∧ last.text = "drop ας.".toList ∧
      more.map (·.text) = ["drop ασ.α".toList, "run".toList] ∧
      (Session.turn ⟨.standard, settings⟩ (.line (start ++ rest))).carriedOut =
        Report.commands ⟨kept⟩ ++ last.outcome.toOption.toList ∧
      (Session.turn ⟨.standard, settings⟩ (.line (start ++ rest))).carriedOut =
        [{ action := "take".toList, directObject := "key".toList }] := by
  intro start rest settings
  have filled : isBlank start = false := by decide
  have apart : isBoundary start.getLast? = true ∨ isBoundary rest.head? = true := .inl (by decide)
  have bounded : Input.bound settings.maxLength (start ++ rest) = .tooLong start := by decide
  have goesOn : isQuit start = false := by decide +kernel
  obtain ⟨kept, last, more, cut, whole, _, dispatched⟩ :=
    truncated_between_words .standard filled apart
  have first : kept.map (·.text) ++ [last.text] = ["take key,".toList] ++ ["drop ας.".toList] := by
    have texts := congrArg (List.map ClauseReport.text) (clauses_of_parse cut)
    rw [texts_reports, List.map_append] at texts
    refine texts.trans ?_
    decide +kernel
  obtain ⟨kept_eq, last_eq⟩ := List.append_inj' first rfl
  have later : more.map (·.text) = ["drop ασ.α".toList, "run".toList] := by
    have texts := congrArg (List.map ClauseReport.text) (clauses_of_parse whole)
    rw [texts_reports, List.map_append, kept_eq] at texts
    refine List.append_cancel_left (texts.trans ?_)
    decide +kernel
  have given := (dispatched settings bounded).1
  rw [goesOn] at given
  refine ⟨filled, apart, bounded, kept, last, more, cut, whole, kept_eq,
    List.head_eq_of_cons_eq last_eq, later, given, ?_⟩
  decide +kernel

end Line
end Imperative
