import Imperative.Proofs.Composition

/-! Lines as they are typed and lines as they are read. A line that has been lowercased and
trimmed is left as it is, and nothing of a line but its normal form is ever read. In it
there is no trace of the case of ASCII letters, nor of blanks at the ends of the line. -/
namespace Imperative.Line
open Text

variable {front back t line other : Text}

theorem settled_of_mem_normalize : ∀ c ∈ normalize t, Settled c := by
  intro c member
  obtain ⟨front, back, whole, _, _⟩ := trim_split (lower t)
  have inside : c ∈ lower t := by
    rw [whole]
    exact List.mem_append_left back (List.mem_append_right front member)
  exact settled_of_mem_lower inside

/-- The lines in normal form: no blank at an end, and no letter that has a lowercase form
other than itself. -/
theorem normalize_eq_self_iff : normalize t = t ↔ trim t = t ∧ ∀ c ∈ t, Settled c := by
  constructor
  · intro same
    refine ⟨?_, same ▸ settled_of_mem_normalize⟩
    rw [← same, normalize, trim_trim]
  · rintro ⟨trimmed, settled⟩
    rw [normalize, lower_settled settled, trimmed]

theorem normalize_normalize (t : Text) : normalize (normalize t) = normalize t :=
  normalize_eq_self_iff.mpr ⟨trim_trim (lower t), settled_of_mem_normalize⟩

theorem normalize_padded (before : isBlank front = true) (after : isBlank back = true) (t : Text) :
    normalize (front ++ t ++ back) = normalize t := by
  rw [normalize, lower_padded before after, trim_append_blank after, trim_blank_append before,
    normalize]

theorem normalize_trim (t : Text) : normalize (trim t) = normalize t := by
  obtain ⟨front, back, whole, before, after⟩ := trim_split t
  calc normalize (trim t) = normalize (front ++ trim t ++ back) :=
        (normalize_padded before after _).symm
    _ = normalize t := congrArg normalize whole.symm

theorem normalize_map_toLower (t : Text) : normalize (t.map Char.toLower) = normalize t := by
  rw [normalize, lower_map_toLower, normalize]

theorem normalize_eq_nil_iff : normalize t = [] ↔ isBlank t = true := by
  rw [normalize, trim_eq_nil_iff, isBlank_lower]

/-- What comes of a line is decided by its normal form. -/
theorem parse_congr (lexicon : Lexicon) (same : normalize line = normalize other) :
    parse lexicon (some line) = parse lexicon (some other) := by
  have blank : isBlank line = isBlank other := by
    rw [Bool.eq_iff_iff, ← normalize_eq_nil_iff, ← normalize_eq_nil_iff, same]
  rw [parse_some, parse_some, blank, same]

/-- Two lines that differ only in the case of their ASCII letters and in the blanks around
them. -/
def TypedAlike (line other : Text) : Prop :=
  (trim line).map Char.toLower = (trim other).map Char.toLower

instance (line other : Text) : Decidable (TypedAlike line other) :=
  inferInstanceAs (Decidable (_ = _))

theorem TypedAlike.normalize_eq (alike : TypedAlike line other) :
    normalize line = normalize other := by
  calc normalize line = normalize ((trim line).map Char.toLower) := by
        rw [normalize_map_toLower, normalize_trim]
    _ = normalize ((trim other).map Char.toLower) := congrArg normalize alike
    _ = normalize other := by rw [normalize_map_toLower, normalize_trim]

/-- Normalization is done once and for all: a second time it changes nothing, neither of the
line nor of what is read of it. Lines that are typed alike have one normal form and one
result. -/
theorem normalized_once (line : Text) :
    normalize (normalize line) = normalize line ∧
    (∀ lexicon, parse lexicon (some (normalize line)) = parse lexicon (some line)) ∧
    ∀ other, TypedAlike line other → normalize line = normalize other ∧
      ∀ lexicon, parse lexicon (some line) = parse lexicon (some other) := by
  refine ⟨normalize_normalize line, fun lexicon => ?_, fun other alike => ?_⟩
  · exact parse_congr lexicon (normalize_normalize line)
  · exact ⟨alike.normalize_eq, fun lexicon => parse_congr lexicon alike.normalize_eq⟩

/-- Blanks of several kinds, capitals, and a sigma that is final at the end of the line. -/
theorem normalized_once_at_sigma :
    let line := "\t Take ΑΣ".toList
    let other := "tAKE ΑΣ\n".toList
    TypedAlike line other ∧ normalize line = normalize other ∧ normalize other = "take ας".toList ∧
    parse .standard (some line) = parse .standard (some other) ∧
    parse .standard (some "take ας".toList) = parse .standard (some line) := by
  intro line other
  have alike : TypedAlike line other := by decide
  have form : normalize line = "take ας".toList := by decide +kernel
  obtain ⟨_, again, same⟩ := normalized_once line
  obtain ⟨one, result⟩ := same other alike
  exact ⟨alike, one, one.symm.trans form, result .standard, form ▸ again .standard⟩

end Imperative.Line
