import Imperative.Lexicon.Standard
import Imperative.Proofs.Splitting
import Imperative.Proofs.Text.Ascii

/-! Lines put together from lines. At a delimiter the segments of two texts go on in each
other; at a separator between blanks they do not touch at all, and neither does the
lowercasing before them. So a line joined by a conjunction has the clauses of its sides. -/
namespace Imperative.Line
open Text

variable {front back t w a b k blanks first second : Text} {c : Char}

/-- Segments put together: the last of the earlier ones goes on in the first of the later. -/
def fuse : List Text → List Text → List Text
  | [], later => later
  | [segment], later => later.modifyHead (segment ++ ·)
  | segment :: next :: rest, later => segment :: fuse (next :: rest) later

theorem fuse_cons (segment : Text) {rest : List Text} (nonempty : rest ≠ []) (later : List Text) :
    fuse (segment :: rest) later = segment :: fuse rest later := by
  obtain ⟨next, rest, rfl⟩ := List.exists_cons_of_ne_nil nonempty
  rfl

theorem fuse_modifyHead (front : Text) {segments : List Text} (nonempty : segments ≠ [])
    (later : List Text) : fuse (segments.modifyHead (front ++ ·)) later =
      (fuse segments later).modifyHead (front ++ ·) := by
  obtain ⟨segment, rest, rfl⟩ := List.exists_cons_of_ne_nil nonempty
  cases rest with
  | nil =>
    simp only [List.modifyHead_cons, fuse, List.modifyHead_modifyHead]
    congr 1
    funext piece
    exact List.append_assoc front segment piece
  | cons next rest => rfl

/-- The segments of a text that goes on after a delimiter. -/
theorem segments_append_cut (cut : isDelimiter c = true) (front back : Text) :
    segments (front ++ c :: back) = fuse (segments front) ((segments back).modifyHead (c :: ·)) := by
  induction front using word_induction with
  | last w unbroken =>
    by_cases spelled : w = separator
    · subst w
      rw [segments_separator_cut cut, segments_separator]
      exact congrArg _ (modifyHead_nil_append _).symm
    · rw [segments_cut unbroken spelled cut, segments_unbroken unbroken spelled, fuse,
        List.modifyHead_modifyHead]
      rfl
  | more w d rest unbroken delimiter ih =>
    have parts := segments_ne_nil rest
    rw [List.append_assoc, List.cons_append]
    by_cases spelled : w = separator
    · subst w
      rw [segments_separator_cut delimiter, segments_separator_cut delimiter, ih,
        fuse_cons [] (by simpa using parts)]
      exact congrArg _ (fuse_modifyHead [d] parts _).symm
    · rw [segments_cut unbroken spelled delimiter, segments_cut unbroken spelled delimiter, ih]
      have longer := fuse_modifyHead (w ++ [d]) parts ((segments back).modifyHead (c :: ·))
      simpa only [List.append_assoc, List.singleton_append] using longer.symm

theorem segments_blank (blank : isBlank t = true) : segments t = [t] :=
  segments_of_not_mem (by simp [words_blank blank])

theorem map_trim_fuse (blank : isBlank blanks = true) {segments : List Text}
    (nonempty : segments ≠ [])
    (later : List Text) :
    (fuse segments (blanks :: later)).map trim = segments.map trim ++ later.map trim := by
  induction segments with
  | nil => contradiction
  | cons segment rest ih =>
    cases rest with
    | nil => simp [fuse, trim_append_blank blank]
    | cons next rest =>
      rw [fuse, List.map_cons, ih (List.cons_ne_nil _ _)]
      rfl

theorem clauses_append_blank (blank : isBlank blanks = true) (t : Text) :
    clauses (t ++ blanks) = clauses t := by
  cases blanks with
  | nil => rw [List.append_nil]
  | cons c cs =>
    obtain ⟨space, rest⟩ := isBlank_cons.mp blank
    rw [clauses, segments_append_cut (isDelimiter_of_blank space), segments_blank rest,
      List.modifyHead_cons,
      map_trim_fuse blank (segments_ne_nil t), List.map_nil, List.append_nil, clauses]

theorem clauses_blank_append (blank : isBlank blanks = true) (t : Text) :
    clauses (blanks ++ t) = clauses t := by
  induction blanks with
  | nil => rfl
  | cons c cs ih =>
    obtain ⟨space, rest⟩ := isBlank_cons.mp blank
    have first : isBlank [c] = true := isBlank_cons.mpr ⟨space, rfl⟩
    rw [← ih rest, clauses, clauses, List.cons_append, segments_cons (isDelimiter_of_blank space)]
    obtain ⟨segment, later, parts⟩ := List.exists_cons_of_ne_nil (segments_ne_nil (cs ++ t))
    rw [parts, List.modifyHead_cons, List.map_cons, List.map_cons]
    exact congrArg (· :: _) (trim_blank_append first)

theorem clauses_trim (t : Text) : clauses (trim t) = clauses t := by
  obtain ⟨before, after, whole, first, last⟩ := trim_split t
  calc clauses (trim t) = clauses (before ++ (trim t ++ after)) := by
        rw [clauses_blank_append first, clauses_append_blank last]
    _ = clauses t := by rw [← List.append_assoc, ← whole]

theorem segments_separator_append (closes : isBoundary t.head? = true) :
    segments (separator ++ t) = [] :: segments t := by
  cases t with
  | nil => rfl
  | cons c cs => rw [segments_separator_cut closes, segments_cons closes]

/-- White space that holds words apart. -/
def IsGap (t : Text) : Prop := isBlank t = true ∧ t ≠ []

instance (t : Text) : Decidable (IsGap t) := inferInstanceAs (Decidable (_ ∧ _))

/-- A separator between blanks divides a text into parts that are split apart. -/
theorem clauses_joint (before : IsGap first) (after : IsGap second) (front back : Text) :
    clauses (front ++ first ++ separator ++ second ++ back) = clauses front ++ clauses back := by
  obtain ⟨start, c, rfl⟩ := (List.eq_nil_or_concat first).resolve_left before.2
  have spaces := before.1
  rw [List.concat_eq_append, isBlank_append] at spaces
  obtain ⟨spaces, single⟩ := spaces
  have cut := isDelimiter_of_blank (isBlank_cons.mp single).1
  have apart : isBoundary (second ++ back).head? = true := by
    obtain ⟨d, rest, rfl⟩ := List.exists_cons_of_ne_nil after.2
    exact isDelimiter_of_blank (isBlank_cons.mp after.1).1
  have whole : front ++ start.concat c ++ separator ++ second ++ back =
      front ++ start ++ c :: (separator ++ (second ++ back)) := by simp
  calc clauses (front ++ start.concat c ++ separator ++ second ++ back)
      = (fuse (segments (front ++ start)) ([c] :: segments (second ++ back))).map trim := by
        rw [whole, clauses, segments_append_cut cut, segments_separator_append apart]
        rfl
    _ = clauses (front ++ start) ++ clauses (second ++ back) :=
        map_trim_fuse single (segments_ne_nil _) _
    _ = clauses front ++ clauses back := by
        rw [clauses_append_blank spaces, clauses_blank_append after.1]

/-- One blank more at an end, where the separator would have none beside it. -/
def space : Text := [' ']

theorem space_gap : IsGap space := by decide

theorem clauses_leading (after : IsGap second) (back : Text) :
    clauses (separator ++ second ++ back) = [] :: clauses back := by
  have joint := clauses_joint space_gap after [] back
  rwa [List.nil_append, List.append_assoc, List.append_assoc, clauses_blank_append space_gap.1,
    ← List.append_assoc] at joint

theorem clauses_trailing (before : IsGap first) (front : Text) :
    clauses (front ++ first ++ separator) = clauses front ++ [[]] := by
  have joint := clauses_joint before space_gap front []
  rwa [List.append_nil, clauses_append_blank space_gap.1] at joint

/-- The separator in any letter case. -/
def IsConjunction (t : Text) : Prop := t.map Char.toLower = separator

instance (t : Text) : Decidable (IsConjunction t) := inferInstanceAs (Decidable (_ = _))

theorem IsConjunction.lower_eq (spelled : IsConjunction k) : lower k = separator := by
  have settled : ∀ c ∈ separator, Settled c := List.all_iff_forall_prop.mp (by decide +kernel)
  have plain : lower separator = separator := lower_settled settled
  rw [← lower_map_toLower, spelled, plain]

theorem IsConjunction.not_blank (spelled : IsConjunction k) : isBlank k = false := by
  apply Bool.eq_false_iff.mpr
  intro blank
  have same : k = separator := by rw [← spelled.lower_eq, lower_settled (settled_of_blank blank)]
  rw [same] at blank
  contradiction

def reports (lexicon : Lexicon) (clauses : List Text) : List ClauseReport :=
  clauses.map fun text => ⟨text, Clause.parse lexicon text⟩

/-- Trimming the line before it is split is of no account. -/
theorem parse_of_not_blank (lexicon : Lexicon) {line : Text} (filled : isBlank line = false) :
    parse lexicon (some line) = .ok ⟨reports lexicon (clauses (lower line))⟩ := by
  simp only [parse_some, filled, normalize, clauses_trim, reports, Bool.false_eq_true, if_false]

/-- A clause with nothing in it. -/
def emptyClause : ClauseReport := ⟨[], .error (.incomplete .empty)⟩

def reportedClauses : Except Rejection Report → List ClauseReport
  | .ok report => report.clauses
  | .error _ => []

/-- What a text contributes beside a conjunction: the clauses it has as a line, or an empty
clause if it is blank. -/
def side (lexicon : Lexicon) (t : Text) : List ClauseReport :=
  if isBlank t then [emptyClause] else reportedClauses (parse lexicon (some t))

theorem side_eq_reports (lexicon : Lexicon) (t : Text) :
    side lexicon t = reports lexicon (clauses (lower t)) := by
  cases blank : isBlank t with
  | true =>
    have single : clauses t = [[]] := by rw [← clauses_trim, trim_blank blank]; rfl
    rw [side, if_pos blank, lower_settled (settled_of_blank blank), single]
    rfl
  | false =>
    rw [side, blank, parse_of_not_blank lexicon blank]
    rfl

theorem not_blank_of_mem {line part : Text} (inside : part ⊆ line) (filled : isBlank part = false) :
    isBlank line = false := by
  refine Bool.eq_false_iff.mpr fun blank => Bool.eq_false_iff.mp filled ?_
  exact isBlank_iff.mpr fun c member => isBlank_iff.mp blank c (inside member)

theorem parse_leading (lexicon : Lexicon) (spelled : IsConjunction k) (after : IsGap second)
    (b : Text) :
    parse lexicon (some (k ++ second ++ b)) = .ok ⟨emptyClause :: side lexicon b⟩ := by
  have filled : isBlank (k ++ second ++ b) = false :=
    not_blank_of_mem (fun c member => by simp [member]) spelled.not_blank
  rw [parse_of_not_blank lexicon filled, lower_append_blank after.1 after.2, spelled.lower_eq,
    clauses_leading after, side_eq_reports]
  rfl

theorem parse_trailing (lexicon : Lexicon) (before : IsGap first) (spelled : IsConjunction k)
    (a : Text) :
    parse lexicon (some (a ++ first ++ k)) = .ok ⟨side lexicon a ++ [emptyClause]⟩ := by
  have filled : isBlank (a ++ first ++ k) = false :=
    not_blank_of_mem (fun c member => by simp [member]) spelled.not_blank
  rw [parse_of_not_blank lexicon filled, lower_append_blank before.1 before.2, spelled.lower_eq,
    clauses_trailing before, side_eq_reports, reports, reports, List.map_append]
  rfl

theorem parse_joint (lexicon : Lexicon) (before : IsGap first) (spelled : IsConjunction k)
    (after : IsGap second) (a b : Text) :
    parse lexicon (some (a ++ first ++ k ++ second ++ b)) = .ok ⟨side lexicon a ++ side lexicon b⟩ := by
  have filled : isBlank (a ++ first ++ k ++ second ++ b) = false :=
    not_blank_of_mem (fun c member => by simp [member]) spelled.not_blank
  have apart : lower (a ++ first ++ k ++ second ++ b) =
      lower a ++ first ++ separator ++ second ++ lower b := by
    rw [lower_append_blank after.1 after.2, lower_append_blank before.1 before.2, spelled.lower_eq]
  rw [parse_of_not_blank lexicon filled, apart, clauses_joint before after, side_eq_reports,
    side_eq_reports, reports, reports, reports, List.map_append]

/-- Composition of lines: a conjunction between two texts, in any letter case and with any
white space around it, gives the clauses of both and nothing else. Where it stands at an
end, or next to another, there is an empty clause. -/
theorem parse_composed (lexicon : Lexicon) {a s k r b : Text} (gap : IsGap s)
    (spelled : IsConjunction k) (next : IsGap r) :
    parse lexicon (some (a ++ s ++ k ++ r ++ b)) = .ok ⟨side lexicon a ++ side lexicon b⟩ ∧
    parse lexicon (some (k ++ r ++ b)) = .ok ⟨emptyClause :: side lexicon b⟩ ∧
    parse lexicon (some (a ++ s ++ k)) = .ok ⟨side lexicon a ++ [emptyClause]⟩ ∧
    ∀ q l, IsGap q → IsConjunction l → parse lexicon (some (a ++ s ++ k ++ q ++ (l ++ r ++ b))) =
      .ok ⟨side lexicon a ++ emptyClause :: side lexicon b⟩ := by
  refine ⟨parse_joint lexicon gap spelled next a b, parse_leading lexicon spelled next b,
    parse_trailing lexicon gap spelled a, ?_⟩
  intro q l between again
  have filled : isBlank (l ++ r ++ b) = false :=
    not_blank_of_mem (fun c member => by simp [member]) again.not_blank
  have rest : side lexicon (l ++ r ++ b) = emptyClause :: side lexicon b := by
    rw [side, filled, parse_leading lexicon again next]
    rfl
  rw [parse_joint lexicon gap spelled between, rest]

/-- A capital sigma before the conjunction is final, as it is at the end of a line. -/
theorem parse_composed_at_sigma :
    IsGap ['\t', ' '] ∧ IsConjunction "aND".toList ∧ IsGap ['\n'] ∧
    parse .standard (some ("take ΑΣ".toList ++ ['\t', ' '] ++ "aND".toList ++ ['\n'] ++ ".'Σ".toList)) =
      .ok ⟨side .standard "take ΑΣ".toList ++ side .standard ".'Σ".toList⟩ :=
  ⟨by decide, by decide, by decide, (parse_composed .standard (by decide) (by decide) (by decide)).1⟩

end Imperative.Line
