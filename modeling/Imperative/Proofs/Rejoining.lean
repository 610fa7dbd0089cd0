import Imperative.Proofs.Composition

/-! Clauses joined again. A list of clauses, put into one text with the separator between
them, is split into the same list, whatever delimiters its members begin or end with. So a
line may be replaced by its clauses: nothing of its report is lost. -/
namespace Imperative.Line
open Text

variable {line t : Text} {texts : List Text} {lexicon : Lexicon}

/-- What stands between clauses that are joined. -/
def joint : Text := space ++ separator ++ space

/-- A text that may be a clause: there is no blank at its ends and no separator among its
words. It may be empty. -/
structure IsClause (t : Text) : Prop where
  trimmed : trim t = t
  whole : separator ∉ words t

theorem IsClause.clauses_eq (clause : IsClause t) : clauses t = [t] := by
  rw [clauses, segments_of_not_mem clause.whole, List.map_singleton, clause.trimmed]

theorem isClause_of_mem_clauses (member : t ∈ clauses line) : IsClause t where
  trimmed := by
    obtain ⟨segment, _, rfl⟩ := List.mem_map.mp member
    exact trim_trim segment
  whole := separator_not_mem_clauses member

theorem clauses_ne_nil (line : Text) : clauses line ≠ [] := by
  simpa [clauses] using segments_ne_nil line

/-- At each joint the text falls apart into the clause before it and the text behind it. -/
theorem clauses_join (some : texts ≠ []) (each : ∀ t ∈ texts, IsClause t) :
    clauses (join joint texts) = texts := by
  induction texts with
  | nil => contradiction
  | cons first rest ih =>
    obtain ⟨clause, others⟩ := List.forall_mem_cons.mp each
    by_cases last : rest = []
    · subst rest
      simpa [join] using clause.clauses_eq
    · calc clauses (join joint (first :: rest))
          = clauses (first ++ space ++ separator ++ space ++ join joint rest) := by
            rw [join_cons joint first last]
            simp only [joint, List.append_assoc]
        _ = clauses first ++ clauses (join joint rest) := clauses_joint space_gap space_gap _ _
        _ = first :: rest := by rw [clause.clauses_eq, ih last others, List.singleton_append]

theorem clauses_join_clauses (line : Text) : clauses (join joint (clauses line)) = clauses line :=
  clauses_join (clauses_ne_nil line) fun _ => isClause_of_mem_clauses

/-! The joined clauses of a line as a line. -/

theorem subset_of_mem_clauses (member : t ∈ clauses line) : t ⊆ line := by
  obtain ⟨segment, inside, rfl⟩ := List.mem_map.mp member
  obtain ⟨front, back, whole, _, _⟩ := trim_split segment
  intro c within
  have part : c ∈ segment := by
    rw [whole]
    exact List.mem_append_left back (List.mem_append_right front within)
  rw [← join_segments line]
  exact subset_join separator inside part

/-- The joined clauses of a lowercased line are lowercased. -/
theorem lower_join_clauses (line : Text) :
    lower (join joint (clauses (lower line))) = join joint (clauses (lower line)) := by
  apply lower_settled
  intro c member
  rcases mem_join member with between | ⟨clause, inside, within⟩
  · have settled : ∀ c ∈ joint, Settled c := List.all_iff_forall_prop.mp (by decide +kernel)
    exact settled c between
  · exact settled_of_mem_lower (subset_of_mem_clauses inside within)

theorem clauses_eq_singleton_nil_iff : clauses line = [[]] ↔ isBlank line = true := by
  constructor
  · intro empty
    obtain ⟨segment, only⟩ := List.length_eq_one_iff.mp <|
      show (segments line).length = 1 by simpa [clauses] using congrArg List.length empty
    have trimmed : trim segment = [] := by simpa [clauses, only] using empty
    have whole := join_segments line
    rw [only] at whole
    rw [← whole]
    simpa [join] using trim_eq_nil_iff.mp trimmed
  · intro blank
    rw [clauses, segments_blank blank, List.map_singleton, trim_blank blank]

/-- A blank text has a single empty clause, and so would a line have whose clauses are joined
to one. -/
theorem not_blank_join_clauses (filled : isBlank line = false) :
    isBlank (join joint (clauses line)) = false := by
  refine Bool.eq_false_iff.mpr fun blank => Bool.eq_false_iff.mp filled ?_
  rwa [← clauses_eq_singleton_nil_iff, clauses_join_clauses, clauses_eq_singleton_nil_iff] at blank

theorem texts_reports (lexicon : Lexicon) (texts : List Text) :
    (reports lexicon texts).map (·.text) = texts := by
  rw [reports, List.map_map]
  exact List.map_id texts

/-- Splitting undoes joining, and joining undoes splitting. Texts that may be clauses, joined
by separators between spaces, are split into just these texts. The clauses of a text are
such texts, so that joining and splitting them changes nothing. And a line that is not blank
has the same report as its clauses have, joined to a line. -/
theorem clauses_rejoined :
    (∀ texts, texts ≠ [] → (∀ t ∈ texts, trim t = t ∧ separator ∉ words t) →
      clauses (join " and ".toList texts) = texts) ∧
    (∀ line, clauses line ≠ [] ∧ (∀ t ∈ clauses line, trim t = t ∧ separator ∉ words t) ∧
      clauses (join " and ".toList (clauses line)) = clauses line) ∧
    ∀ lexicon line, isBlank line = false → ∃ report, parse lexicon (some line) = .ok report ∧
      parse lexicon (some (join " and ".toList (report.clauses.map (·.text)))) = .ok report := by
  have spelled : " and ".toList = joint := rfl
  rw [spelled]
  refine ⟨fun texts some each => ?_, fun line => ?_, fun lexicon line filled => ?_⟩
  · exact clauses_join some fun t member => ⟨(each t member).1, (each t member).2⟩
  · refine ⟨clauses_ne_nil line, fun t member => ?_, clauses_join_clauses line⟩
    have clause := isClause_of_mem_clauses member
    exact ⟨clause.trimmed, clause.whole⟩
  · refine ⟨_, parse_of_not_blank lexicon filled, ?_⟩
    have again : isBlank (join joint (clauses (lower line))) = false :=
      not_blank_join_clauses (by rwa [isBlank_lower])
    rw [texts_reports, parse_of_not_blank lexicon again, lower_join_clauses, clauses_join_clauses]

/-- Clauses that are empty, end in delimiters or hold the separator inside a word; and a line
that begins and ends with the separator, in capitals and beside other delimiters. -/
theorem clauses_rejoined_at_band :
    let texts := [[], "(the band".toList, [], "android!".toList]
    let line := "AND take Σ!and' Band, And".toList
    texts ≠ [] ∧ (∀ t ∈ texts, trim t = t ∧ separator ∉ words t) ∧
    clauses " and (the band and  and android!".toList = texts ∧
    isBlank line = false ∧ ∃ report, parse .standard (some line) = .ok report ∧
      report.clauses.map (·.text) = [[], "take σ!".toList, "' band,".toList, []] ∧
      parse .standard (some " and take σ! and ' band, and ".toList) = .ok report := by
  intro texts line
  have some : texts ≠ [] := List.cons_ne_nil _ _
  have each : ∀ t ∈ texts, trim t = t ∧ separator ∉ words t := by decide
  have filled : isBlank line = false := by decide
  obtain ⟨joined, _, reported⟩ := clauses_rejoined
  obtain ⟨report, parsed, again⟩ := reported .standard line filled
  have split : report.clauses.map (·.text) = [[], "take σ!".toList, "' band,".toList, []] := by
    obtain rfl := Except.ok.inj ((parse_of_not_blank .standard filled).symm.trans parsed)
    rw [texts_reports]
    decide +kernel
  rw [split] at again
  exact ⟨some, each, joined texts some each, filled, report, parsed, split, again⟩

end Imperative.Line
