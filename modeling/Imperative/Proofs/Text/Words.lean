import Imperative.Line
import Imperative.Proofs.Text.Pieces
import Imperative.Proofs.Text.Trim

/-! Texts read word by word. A text is a run without delimiters, perhaps followed by
a delimiter and a text; what holds of the runs holds of texts by `word_induction`.
Words do not see where a text is put together, if a delimiter stands there. -/
namespace Imperative

theorem isDelimiter_of_blank {c : Char} (blank : Text.isBlankChar c = true) :
    isDelimiter c = true := by
  simp [isDelimiter, blank]

theorem isBlankChar_of_not_delimiter {c : Char} (solid : isDelimiter c = false) :
    Text.isBlankChar c = false := by
  cases blank : Text.isBlankChar c with
  | false => rfl
  | true => simp [isDelimiter_of_blank blank] at solid

namespace Text
open Line

variable {t w front back rest : Text} {c : Char}

/-- A run of characters, none of which is a delimiter. -/
def Unbroken (t : Text) : Prop := ∀ c ∈ t, isDelimiter c = false

instance (t : Text) : Decidable (Unbroken t) := List.decidableBAll _ t

theorem Unbroken.nil : Unbroken [] := fun _ member => nomatch member

theorem unbroken_cons : Unbroken (c :: t) ↔ isDelimiter c = false ∧ Unbroken t :=
  List.forall_mem_cons

theorem unbroken_append : Unbroken (front ++ back) ↔ Unbroken front ∧ Unbroken back :=
  List.forall_mem_append

theorem Unbroken.head_not_boundary (unbroken : Unbroken (c :: t)) : isBoundary (some c) = false :=
  (unbroken_cons.mp unbroken).1

theorem Unbroken.not_blank (unbroken : Unbroken t) (nonempty : t ≠ []) : isBlank t = false := by
  obtain ⟨c, cs, rfl⟩ := List.exists_cons_of_ne_nil nonempty
  apply Bool.eq_false_iff.mpr
  intro blank
  have solid := isBlankChar_of_not_delimiter (unbroken_cons.mp unbroken).1
  rw [(isBlank_cons.mp blank).1] at solid
  contradiction

theorem isBoundary_iff {o : Option Char} : isBoundary o = true ↔ ∀ c ∈ o, isDelimiter c = true := by
  cases o <;> simp [isBoundary]

theorem Unbroken.unique {v later : Text} (first : Unbroken w) (second : Unbroken v)
    (closes : isBoundary rest.head? = true) (ends : isBoundary later.head? = true)
    (same : w ++ rest = v ++ later) : w = v :=
  unique_run first second (isBoundary_iff.mp closes) (isBoundary_iff.mp ends) same

@[elab_as_elim]
theorem word_induction {motive : Text → Prop} (last : ∀ w, Unbroken w → motive w)
    (more : ∀ w c rest, Unbroken w → isDelimiter c = true → motive rest → motive (w ++ c :: rest))
    (t : Text) : motive t :=
  cut_induction isDelimiter last more t

theorem consFirst_eq_modifyHead {pieces : List Text} (some : pieces ≠ []) :
    consFirst c pieces = pieces.modifyHead (c :: ·) := by
  cases pieces with
  | nil => contradiction
  | cons piece pieces => rfl

theorem modifyHead_nil_append (pieces : List Text) : pieces.modifyHead ([] ++ ·) = pieces :=
  congrFun List.modifyHead_id pieces

theorem pieces_unbroken (unbroken : Unbroken w) : pieces w = [w] := splitWhere_whole unbroken

theorem pieces_cut (unbroken : Unbroken w) (cut : isDelimiter c = true) (rest : Text) :
    pieces (w ++ c :: rest) = w :: pieces rest :=
  splitWhere_cut unbroken cut rest

theorem filter_unbroken (unbroken : Unbroken w) : w.filter isDelimiter = [] :=
  List.filter_eq_nil_iff.mpr fun c member => Bool.eq_false_iff.mp (unbroken c member)

theorem filter_cut (unbroken : Unbroken w) (cut : isDelimiter c = true) (rest : Text) :
    (w ++ c :: rest).filter isDelimiter = c :: rest.filter isDelimiter := by
  rw [List.filter_append, filter_unbroken unbroken, List.nil_append, List.filter_cons_of_pos cut]

/-- Pieces in their order, each but the last followed by the next of the characters between them. -/
def weave : List Text → Text → Text
  | [], marks => marks
  | piece :: pieces, [] => piece ++ weave pieces []
  | piece :: pieces, mark :: marks => piece ++ mark :: weave pieces marks

@[simp]
theorem words_nil : words [] = [] := rfl

theorem words_unbroken (unbroken : Unbroken w) (some : w ≠ []) : words w = [w] := by
  simp [words, pieces_unbroken unbroken, some]

/-- A function that reads texts word by word, and puts a mark of its own for a delimiter. -/
structure Piecewise {α : Type} (f : Text → List α) (mark : Char → List α) : Prop where
  empty : f [] = []
  cut : ∀ {w c}, Unbroken w → isDelimiter c = true →
    ∀ rest, f (w ++ c :: rest) = f w ++ mark c ++ f rest

namespace Piecewise

variable {α : Type} {f : Text → List α} {mark : Char → List α}

theorem append_cut (piecewise : Piecewise f mark) (cut : isDelimiter c = true) (t rest : Text) :
    f (t ++ c :: rest) = f t ++ mark c ++ f rest := by
  induction t using word_induction with
  | last w unbroken => exact piecewise.cut unbroken cut rest
  | more w d later unbroken delimiter ih =>
    rw [List.append_assoc, List.cons_append, piecewise.cut unbroken delimiter, ih,
      piecewise.cut unbroken delimiter]
    simp only [List.append_assoc]

/-- What is read of a text is read of its parts, if no word goes on from one to the other. -/
theorem append (piecewise : Piecewise f mark)
    (apart : isBoundary front.getLast? = true ∨ isBoundary back.head? = true) :
    f (front ++ back) = f front ++ f back := by
  rcases apart with ends | begins
  · rcases List.eq_nil_or_concat front with rfl | ⟨start, c, rfl⟩
    · rw [piecewise.empty]
      rfl
    · have cut : isDelimiter c = true := by simpa [isBoundary] using ends
      rw [List.concat_eq_append, List.append_assoc, List.singleton_append, piecewise.append_cut cut,
        piecewise.append_cut cut, piecewise.empty, List.append_nil]
  · cases back with
    | nil => rw [piecewise.empty, List.append_nil, List.append_nil]
    | cons c rest =>
      have alone : f (c :: rest) = f [] ++ mark c ++ f rest := piecewise.append_cut begins [] rest
      rw [piecewise.append_cut begins, alone, piecewise.empty, List.nil_append, List.append_assoc]

/-- What copies the delimiters and reads each piece by itself puts the pieces back between them. -/
theorem eq_weave {f : Text → Text} (piecewise : Piecewise f fun c => [c]) (t : Text) :
    f t = weave ((pieces t).map f) (t.filter isDelimiter) := by
  induction t using word_induction with
  | last w unbroken =>
    rw [pieces_unbroken unbroken, filter_unbroken unbroken, List.map_singleton, weave, weave,
      List.append_nil]
  | more w c rest unbroken cut ih =>
    rw [piecewise.cut unbroken cut, pieces_cut unbroken cut, filter_cut unbroken cut, List.map_cons,
      weave, ← ih, List.append_assoc, List.singleton_append]

end Piecewise

/-- A text is its pieces, with its delimiters between them. -/
theorem weave_pieces (t : Text) : weave (pieces t) (t.filter isDelimiter) = t := by
  have itself : Piecewise (fun t : Text => t) fun c => [c] := ⟨rfl, fun _ _ rest => by simp⟩
  have whole := itself.eq_weave t
  rw [List.map_id'] at whole
  exact whole.symm

theorem words_piecewise : Piecewise words fun _ => [] where
  empty := rfl
  cut := fun {w c} unbroken cut rest => by
    rw [words, pieces_cut unbroken cut, words, pieces_unbroken unbroken, words, List.append_nil,
      ← List.filter_append]
    rfl

theorem words_append_cut (cut : isDelimiter c = true) (t rest : Text) :
    words (t ++ c :: rest) = words t ++ words rest := by
  rw [words_piecewise.append_cut cut, List.append_nil]

theorem words_cons (cut : isDelimiter c = true) (rest : Text) : words (c :: rest) = words rest :=
  words_append_cut cut [] rest

theorem words_append (apart : isBoundary front.getLast? = true ∨ isBoundary back.head? = true) :
    words (front ++ back) = words front ++ words back :=
  words_piecewise.append apart

theorem words_blank (blank : isBlank t = true) : words t = [] := by
  induction t with
  | nil => rfl
  | cons c cs ih =>
    obtain ⟨space, rest⟩ := isBlank_cons.mp blank
    rw [words_cons (isDelimiter_of_blank space), ih rest]

theorem isBoundary_head?_cons (cut : isDelimiter c = true) (rest : Text) :
    isBoundary (c :: rest).head? = true := cut

theorem isBoundary_head?_blank (blank : isBlank t = true) : isBoundary t.head? = true := by
  cases t with
  | nil => rfl
  | cons c cs => exact isDelimiter_of_blank (isBlank_cons.mp blank).1

theorem isBoundary_getLast?_blank (blank : isBlank t = true) : isBoundary t.getLast? = true := by
  rcases List.eq_nil_or_concat t with rfl | ⟨start, c, rfl⟩
  · rfl
  · have member : c ∈ start.concat c := by simp
    simpa [isBoundary] using isDelimiter_of_blank (isBlank_iff.mp blank c member)

theorem words_trim (t : Text) : words (trim t) = words t := by
  obtain ⟨front, back, whole, before, after⟩ := trim_split t
  have split : words t = words front ++ words (trim t) ++ words back := by
    calc words t = words (front ++ trim t ++ back) := congrArg words whole
      _ = words (front ++ trim t) ++ words back :=
        words_append (.inr (isBoundary_head?_blank after))
      _ = words front ++ words (trim t) ++ words back := by
        rw [words_append (.inl (isBoundary_getLast?_blank before))]
  rw [split, words_blank before, words_blank after, List.nil_append, List.append_nil]

end Text
end Imperative
