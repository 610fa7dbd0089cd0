import Imperative.Proofs.Lexicon.Definition
import Imperative.Proofs.Normalization
import Imperative.Proofs.Report
import Imperative.Proofs.Text.Places

/-! Which words of a written lexicon a line can reach. Words are listed between white space
but looked up between delimiters. A listed word that holds no delimiter is read as itself
where it is typed, unless it is the separator; one that holds a delimiter is looked up in
no line at all. -/
namespace Imperative
open Text Line

variable {source line word t : Text} {c : WordClass} {lexicon : Lexicon}

namespace Lexicon

theorem normalize_of_lists (listed : Lists line c word) :
    normalize word = word ∧ isBlank word = false := by
  have nonempty := ne_nil_of_lists listed
  obtain ⟨_, _, _, _, _, before, after, place⟩ := listed
  have solid := solid_lower place.whole
  have trimmed := trim_eq_self (fun c first => solid c (List.mem_of_head? first))
    fun c last => solid c (List.mem_of_getLast? last)
  refine ⟨normalize_eq_self_iff.mpr ⟨trimmed, fun c => settled_of_mem_lower⟩, ?_⟩
  rw [Bool.eq_false_iff, ne_eq, ← trim_eq_nil_iff, trimmed]
  exact nonempty

theorem lists_of_mem_allWords (given : read source = .ok lexicon)
    (member : word ∈ lexicon.allWords) : ∃ line c, Lists line c word := by
  obtain ⟨c, listed⟩ := mem_allWords.mp member
  obtain ⟨line, _, here⟩ := ((read_eq_ok_iff.mp given).2 c word).mp listed
  exact ⟨line, c, here⟩

theorem isUnknown_of_mem_allWords (member : word ∈ lexicon.allWords) :
    lexicon.isUnknown word = false := by
  obtain ⟨c, listed⟩ := mem_allWords.mp member
  refine decide_eq_false fun unknown => ?_
  rw [(classify_eq_unknown_iff.mp unknown).2 c] at listed
  contradiction

/-- A word that is typed alone is read as itself: it is the one word of the one clause of the
line, and what comes of the clause is what the class of the word makes of it, which is not
that it is unknown. -/
def ReadsWhole (lexicon : Lexicon) (word : Text) : Prop :=
  ∃ clause, parse lexicon (some word) = .ok ⟨[clause]⟩ ∧ Text.words clause.text = [word] ∧
    clause.outcome = (Clause.Reading.start.take word (lexicon.classify (some word))).outcome ∧
    clause.outcome.unknown = []

theorem readsWhole_of_unbroken (given : read source = .ok lexicon)
    (member : word ∈ lexicon.allWords) (unbroken : Unbroken word) (other : word ≠ separator) :
    lexicon.ReadsWhole word := by
  obtain ⟨line, c, listed⟩ := lists_of_mem_allWords given member
  obtain ⟨normal, filled⟩ := normalize_of_lists listed
  have trimmed : trim word = word := (normalize_eq_self_iff.mp normal).1
  have single : clauses (normalize word) = [word] := by
    rw [normal, clauses, segments_unbroken unbroken other, List.map_singleton, trimmed]
  have only : Text.words word = [word] := words_unbroken unbroken (ne_nil_of_lists listed)
  refine ⟨⟨word, Clause.parse lexicon word⟩, ?_, only, ?_, ?_⟩
  · simp [parse_some, filled, single]
  · rw [Clause.parse_eq_outcome, only]
    rfl
  · rw [Clause.unknown_parse, only]
    simp [isUnknown_of_mem_allWords member]

theorem ReadsWhole.unbroken (whole : lexicon.ReadsWhole word) :
    Unbroken word ∧ word ≠ separator := by
  obtain ⟨clause, parsed, only, _⟩ := whole
  have inside : clause.text ∈ clauses (lower word) := by
    have member : clause ∈ reports lexicon (clauses (lower word)) := by
      rw [← clauses_of_parse parsed]
      exact List.mem_singleton_self clause
    obtain ⟨text, inside, rfl⟩ := List.mem_map.mp member
    exact inside
  have within : word ∈ Text.words clause.text := by
    rw [only]
    exact List.mem_singleton_self word
  obtain ⟨before, after, place⟩ := wordAt_of_mem within
  refine ⟨place.unbroken, ?_⟩
  rintro rfl
  exact separator_not_mem_clauses inside within

/-- A listed word is read as itself, where it is typed alone, exactly if it holds no delimiter
and is not the separator. A word that holds one is not among the words of any line; typed
alone, it is rejected for the words between its delimiters that are not listed. -/
theorem reached_exactly (given : read source = .ok lexicon) (member : word ∈ lexicon.allWords) :
    (lexicon.ReadsWhole word ↔ Unbroken word ∧ word ≠ separator) ∧
    (¬ Unbroken word → ∀ line, word ∉ Text.words (normalize line)) ∧
    ∃ report, parse lexicon (some word) = .ok report ∧ report.unknown =
      (Text.words word).filter fun piece => piece ≠ separator && lexicon.isUnknown piece := by
  refine ⟨⟨fun whole => whole.unbroken, ?_⟩, ?_, ?_⟩
  · rintro ⟨unbroken, other⟩
    exact readsWhole_of_unbroken given member unbroken other
  · intro broken line inside
    obtain ⟨before, after, place⟩ := wordAt_of_mem inside
    exact broken place.unbroken
  · obtain ⟨line, c, listed⟩ := lists_of_mem_allWords given member
    obtain ⟨normal, filled⟩ := normalize_of_lists listed
    obtain ⟨report, parsed, unknown⟩ := unknown_of_parse lexicon filled
    exact ⟨report, parsed, normal ▸ unknown⟩

/-- A hyphen is no white space to the reader of the source, but it is a delimiter in a line. -/
theorem reached_at_hyphen :
    let source := "verb: Take pick-up".toList
    let word := "pick-up".toList
    ∃ lexicon, read source = .ok lexicon ∧ lexicon.allWords = [word, "take".toList] ∧
      lexicon.ReadsWhole "take".toList ∧ ¬ lexicon.ReadsWhole word ∧
      (∀ line, word ∉ Text.words (normalize line)) ∧
      ∃ report, parse lexicon (some word) = .ok report ∧
        report.unknown = ["pick".toList, "up".toList] := by
  intro source word
  obtain ⟨lexicon, given⟩ : ∃ lexicon, read source = .ok lexicon := ⟨_, rfl⟩
  have listed : lexicon.allWords = [word, "take".toList] := by
    rw [← Except.ok.inj given]
    rfl
  have takes : "take".toList ∈ lexicon.allWords := by simp [listed]
  have picks : word ∈ lexicon.allWords := by simp [listed]
  have broken : ¬ Unbroken word := fun solid => by
    have hyphen := solid '-' (by decide)
    contradiction
  obtain ⟨whole, _, _⟩ := reached_exactly given takes
  obtain ⟨split, absent, report, parsed, unknown⟩ := reached_exactly given picks
  refine ⟨lexicon, given, listed, whole.mpr ⟨by decide, by decide⟩, ?_, absent broken, report,
    parsed, ?_⟩
  · exact fun reads => broken (split.mp reads).1
  · rw [unknown, ← Except.ok.inj given]
    decide +kernel

end Lexicon
end Imperative
