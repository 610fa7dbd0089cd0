import Imperative.Text.Offset

/-! Lists divided at their first item of a kind, and texts cut at every character of a kind.
A text is a run without a cut, perhaps followed by a cut and a text. Its pieces are the runs
that reach from a cut or the start to a cut or the end; between two cuts in a row stands an
empty one. -/
namespace Imperative.Text

variable {cut : Char → Bool} {t w rest before after : Text} {c : Char}

/-- A list that has an item of a kind is divided by the first one. -/
theorem exists_first {α : Type} {p : α → Prop} {items : List α} (found : ∃ item ∈ items, p item) :
    ∃ before first after, items = before ++ first :: after ∧ (∀ item ∈ before, ¬ p item) ∧
      p first := by
  classical
  obtain ⟨item, member, kind⟩ := found
  have some : (items.find? (decide <| p ·)).isSome :=
    List.find?_isSome.mpr ⟨item, member, decide_eq_true kind⟩
  obtain ⟨first, here⟩ := Option.isSome_iff_exists.mp some
  obtain ⟨kind, before, after, split, earlier⟩ := List.find?_eq_some_iff_append.mp here
  refine ⟨before, first, after, split, ?_, of_decide_eq_true kind⟩
  intro item inside
  simpa using earlier item inside

theorem splitWhere_whole (whole : ∀ c ∈ w, cut c = false) : splitWhere cut w = [w] := by
  induction w with
  | nil => rfl
  | cons c cs ih =>
    obtain ⟨first, others⟩ := List.forall_mem_cons.mp whole
    rw [splitWhere, first, ih others]
    rfl

theorem splitWhere_cut (whole : ∀ d ∈ w, cut d = false) (here : cut c = true) (rest : Text) :
    splitWhere cut (w ++ c :: rest) = w :: splitWhere cut rest := by
  induction w with
  | nil => simp [splitWhere, here]
  | cons d ds ih =>
    obtain ⟨first, others⟩ := List.forall_mem_cons.mp whole
    rw [List.cons_append, splitWhere, first, ih others]
    rfl

/-- A text is one run without cuts, or a run and a cut before a rest. The induction is on what
stands behind a run that has begun. -/
@[elab_as_elim]
theorem cut_induction (cut : Char → Bool) {motive : Text → Prop}
    (last : ∀ w, (∀ c ∈ w, cut c = false) → motive w)
    (more : ∀ w c rest, (∀ d ∈ w, cut d = false) → cut c = true → motive rest →
      motive (w ++ c :: rest)) (t : Text) : motive t := by
  suffices whole : ∀ begun, (∀ c ∈ begun, cut c = false) → motive (begun ++ t) from
    whole [] fun _ member => nomatch member
  induction t with
  | nil =>
    intro begun whole
    simpa only [List.append_nil] using last begun whole
  | cons c cs ih =>
    intro begun whole
    cases here : cut c with
    | true => exact more begun c cs whole here (ih [] fun _ member => nomatch member)
    | false =>
      have longer : ∀ d ∈ begun ++ [c], cut d = false :=
        List.forall_mem_append.mpr ⟨whole, List.forall_mem_singleton.mpr here⟩
      simpa only [List.append_assoc, List.singleton_append] using ih (begun ++ [c]) longer

/-- A cut divides the pieces of a text into those before it and those after it. -/
theorem splitWhere_append_cut (here : cut c = true) (t rest : Text) :
    splitWhere cut (t ++ c :: rest) = splitWhere cut t ++ splitWhere cut rest := by
  induction t using cut_induction cut with
  | last w whole => rw [splitWhere_cut whole here, splitWhere_whole whole, List.singleton_append]
  | more w d later whole first ih =>
    rw [List.append_assoc, List.cons_append, splitWhere_cut whole first, ih,
      splitWhere_cut whole first, List.cons_append]

/-- A text begins with one run only that reaches to a cut or the end. -/
theorem unique_run {v later : Text} (first : ∀ c ∈ w, cut c = false) (second : ∀ c ∈ v, cut c = false)
    (closes : ∀ c ∈ rest.head?, cut c = true) (ends : ∀ c ∈ later.head?, cut c = true)
    (same : w ++ rest = v ++ later) : w = v := by
  induction w generalizing v with
  | nil =>
    cases v with
    | nil => rfl
    | cons d ds =>
      have solid := second d List.mem_cons_self
      rw [closes d (by rw [← List.nil_append rest, same]; rfl)] at solid
      contradiction
  | cons c cs ih =>
    cases v with
    | nil =>
      have solid := first c List.mem_cons_self
      rw [ends c (by rw [← List.nil_append later, ← same]; rfl)] at solid
      contradiction
    | cons d ds =>
      obtain ⟨rfl, tail⟩ := List.cons.inj same
      rw [ih (List.forall_mem_cons.mp first).2 (List.forall_mem_cons.mp second).2 tail]

/-- A cut stands behind a run without cuts, at once or further on. -/
theorem cut_in_rest {u start tail : Text} {d : Char} (whole : ∀ e ∈ u, cut e = false)
    (cutting : cut d = true) (same : u ++ c :: rest = start ++ d :: tail) :
    rest = tail ∨ ∃ earlier, rest = earlier ++ d :: tail := by
  induction u generalizing start with
  | nil =>
    cases start with
    | nil => exact .inl (List.cons.inj same).2
    | cons e start => exact .inr ⟨start, (List.cons.inj same).2⟩
  | cons e u ih =>
    obtain ⟨solid, others⟩ := List.forall_mem_cons.mp whole
    cases start with
    | nil =>
      obtain ⟨rfl, _⟩ := List.cons.inj same
      rw [cutting] at solid
      contradiction
    | cons f start => exact ih others (List.cons.inj same).2

/-- A run without cuts, from a cut or the start of a text to a cut or the end of it. -/
structure PieceAt (cut : Char → Bool) (t before piece after : Text) : Prop where
  split : t = before ++ piece ++ after
  whole : ∀ c ∈ piece, cut c = false
  opens : ∀ c ∈ before.getLast?, cut c = true
  closes : ∀ c ∈ after.head?, cut c = true

namespace PieceAt

theorem first (whole : ∀ c ∈ w, cut c = false) (closes : ∀ c ∈ after.head?, cut c = true) :
    PieceAt cut (w ++ after) [] w after :=
  ⟨rfl, whole, by simp, closes⟩

theorem only (place : PieceAt cut t before w after) (whole : ∀ c ∈ t, cut c = false) : w = t := by
  have first : before = [] := by
    rcases List.eq_nil_or_concat before with rfl | ⟨start, d, rfl⟩
    · rfl
    · have inside := whole d (by simp [place.split])
      rw [place.opens d (by simp)] at inside
      contradiction
  have last : after = [] := by
    cases after with
    | nil => rfl
    | cons e es =>
      have inside := whole e (by simp [place.split])
      rw [place.closes e rfl] at inside
      contradiction
  rw [place.split, first, last, List.nil_append, List.append_nil]

theorem later (place : PieceAt cut t before w after) (here : cut c = true) (front : Text) :
    PieceAt cut (front ++ c :: t) (front ++ c :: before) w after where
  split := by simp [place.split]
  whole := place.whole
  opens := by
    rcases List.eq_nil_or_concat before with rfl | ⟨start, d, rfl⟩
    · simpa using here
    · simpa [List.getLast?_cons] using place.opens
  closes := place.closes

/-- Behind a run and a cut there is no other piece than the run and those of the rest. -/
theorem of_cut {u : Text} (place : PieceAt cut (u ++ c :: rest) before w after)
    (whole : ∀ d ∈ u, cut d = false) (here : cut c = true) :
    w = u ∨ ∃ before, PieceAt cut rest before w after := by
  rcases List.eq_nil_or_concat before with rfl | ⟨start, d, rfl⟩
  · exact .inl (unique_run place.whole whole place.closes (by simpa using here) place.split.symm)
  · have cutting : cut d = true := place.opens d (by simp)
    have split : u ++ c :: rest = start ++ d :: (w ++ after) := by simpa using place.split
    obtain rfl | ⟨earlier, rfl⟩ := cut_in_rest whole cutting split
    · exact .inr ⟨[], .first place.whole place.closes⟩
    · refine .inr ⟨earlier ++ [d], by simp, place.whole, ?_, place.closes⟩
      simpa using cutting

/-! The piece that a text ends in. -/

theorem exists_last (cut : Char → Bool) (t : Text) : ∃ before w, PieceAt cut t before w [] := by
  induction t using cut_induction cut with
  | last w whole => exact ⟨[], w, by simp, whole, by simp, by simp⟩
  | more w c rest whole here ih =>
    obtain ⟨before, last, place⟩ := ih
    exact ⟨w ++ c :: before, last, place.later here w⟩

theorem split_last (place : PieceAt cut t before w []) : t = before ++ w := by
  rw [place.split, List.append_nil]

theorem splitWhere_last (place : PieceAt cut t before w []) :
    ∃ earlier, splitWhere cut t = earlier ++ [w] := by
  rw [place.split_last]
  rcases List.eq_nil_or_concat before with rfl | ⟨front, d, rfl⟩
  · exact ⟨[], splitWhere_whole place.whole⟩
  · have here : cut d = true := place.opens d (by simp)
    refine ⟨splitWhere cut front, ?_⟩
    rw [List.concat_eq_append, List.append_assoc, List.singleton_append, splitWhere_append_cut here,
      splitWhere_whole place.whole]

/-- Whatever follows, the last piece is what stands between the offsets of its ends. -/
theorem slice?_last (place : PieceAt cut t before w []) (rest : Text) :
    slice? (t ++ rest) (byteSize before) (byteSize t) = some w := by
  rw [place.split_last, byteSize_append]
  exact slice?_append before w rest

end PieceAt

/-- Splitting finds the pieces and nothing else. -/
theorem mem_splitWhere : w ∈ splitWhere cut t ↔ ∃ before after, PieceAt cut t before w after := by
  induction t using cut_induction cut with
  | last u whole =>
    rw [splitWhere_whole whole, List.mem_singleton]
    constructor
    · rintro rfl
      exact ⟨[], [], by simp, whole, by simp, by simp⟩
    · rintro ⟨before, after, place⟩
      exact place.only whole
  | more u c rest whole here ih =>
    rw [splitWhere_cut whole here, List.mem_cons, ih]
    constructor
    · rintro (rfl | ⟨before, after, place⟩)
      · exact ⟨[], c :: rest, .first whole (by simpa using here)⟩
      · exact ⟨u ++ c :: before, after, place.later here u⟩
    · rintro ⟨before, after, place⟩
      rcases place.of_cut whole here with same | ⟨earlier, found⟩
      · exact .inl same
      · exact .inr ⟨earlier, after, found⟩

end Imperative.Text
