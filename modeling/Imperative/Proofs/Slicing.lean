import Imperative.Input
import Imperative.Proofs.Completion.LastToken
import Imperative.Proofs.Painting
import Imperative.Proofs.Segments
import Imperative.Proofs.Text.Boundaries

/-! Lines read by byte offsets. To split, to colour, to bound and to complete a line, slices are
taken at offsets counted up from sizes of characters, and one that began or ended inside a
character would fail. None does: each of the four succeeds on every line, and gives what the
walk over characters gives. -/
namespace Imperative
open Text

variable {lexicon : Lexicon} {line part rest w : Text} {first cursor : Nat}

namespace Line

/-- The offsets at which the separator is spelled, whatever stands around it. Each is looked for
behind the one before. -/
def spelledFrom (first : Nat) : Text → List Nat
  | [] => []
  | 'a' :: 'n' :: 'd' :: rest => first :: spelledFrom (first + byteSize separator) rest
  | c :: rest => spelledFrom (first + c.utf8Size) rest

/-- The letters of the separator differ, so that none begins inside another. -/
theorem separator_apart {front back : Text} (spelled : separator ++ rest = front ++ separator ++ back) :
    front = [] ∨ ∃ later, front = separator ++ later ∧ rest = later ++ separator ++ back := by
  rcases front with _ | ⟨_, _ | ⟨_, _ | ⟨_, later⟩⟩⟩
  · exact .inl rfl
  · simp [separator] at spelled
  · simp [separator] at spelled
  · obtain ⟨rfl, rfl, rfl, rfl⟩ : _ ∧ _ ∧ _ ∧ rest = later ++ separator ++ back := by
      simpa [separator] using spelled
    exact .inr ⟨later, rfl, rfl⟩

theorem mem_spelledFrom {offset : Nat} : offset ∈ spelledFrom first line ↔
    ∃ front back, line = front ++ separator ++ back ∧ first + byteSize front = offset := by
  fun_induction spelledFrom first line with
  | case1 first =>
    constructor
    · intro member
      contradiction
    · rintro ⟨front, back, spelled, _⟩
      simp [separator] at spelled
  | case2 first rest ih =>
    rw [List.mem_cons, ih]
    constructor
    · rintro (rfl | ⟨front, back, rfl, rfl⟩)
      · exact ⟨[], rest, rfl, rfl⟩
      · exact ⟨separator ++ front, back, by simp [separator], by rw [byteSize_append, Nat.add_assoc]⟩
    · rintro ⟨front, back, spelled, rfl⟩
      obtain rfl | ⟨later, rfl, rfl⟩ := separator_apart spelled
      · exact .inl rfl
      · exact .inr ⟨later, back, rfl, by rw [byteSize_append, Nat.add_assoc]⟩
  | case3 first c rest other ih =>
    rw [ih]
    constructor
    · rintro ⟨front, back, rfl, rfl⟩
      exact ⟨c :: front, back, rfl, by rw [byteSize, Nat.add_assoc]⟩
    · rintro ⟨front, back, spelled, rfl⟩
      cases front with
      | nil =>
        obtain ⟨rfl, tail⟩ := List.cons.inj spelled
        exact absurd tail (other back rfl)
      | cons d front =>
        obtain ⟨rfl, rfl⟩ := List.cons.inj spelled
        exact ⟨front, back, rfl, by rw [byteSize, Nat.add_assoc]⟩

/-- The clauses that have been cut off, and the offset from which the next one goes on. -/
structure Cutting where
  clauses : List Text
  start : Nat

/-- Looks at both sides of a separator, and cuts a clause off before it if it stands alone. -/
def passSeparator? (line : Text) (progress : Cutting) (offset : Nat) : Option Cutting :=
  (slice? line 0 offset).bind fun before =>
    (slice? line (offset + byteSize separator) (byteSize line)).bind fun after =>
      if isBoundary before.getLast? && isBoundary after.head? then
        (slice? line progress.start offset).map fun segment =>
          ⟨progress.clauses ++ [trim segment], offset + byteSize separator⟩
      else some progress

def clauses? (line : Text) : Option (List Text) :=
  ((spelledFrom 0 line).foldlM (passSeparator? line) ⟨[], 0⟩).bind fun progress =>
    (slice? line progress.start (byteSize line)).map fun segment =>
      progress.clauses ++ [trim segment]

/-- Where the loop stands behind a part of a line: the segment that has begun reaches back from
there to the last cut, and goes on in the rest. -/
def Reached (part rest : Text) (progress : Cutting) : Prop :=
  ∃ before segment, part = before ++ segment ∧ byteSize before = progress.start ∧
    clauses (part ++ rest) = progress.clauses ++
      ((segmentsAfter part.getLast? rest).modifyHead (segment ++ ·)).map trim

variable {progress : Cutting}

theorem Reached.skip (reached : Reached part (w ++ rest) progress)
    (inside : segmentsAfter part.getLast? (w ++ rest) =
      (segmentsAfter (part ++ w).getLast? rest).modifyHead (w ++ ·)) :
    Reached (part ++ w) rest progress := by
  obtain ⟨before, segment, rfl, start, cut⟩ := reached
  refine ⟨before, segment ++ w, List.append_assoc .., start, ?_⟩
  rw [List.append_assoc, cut, inside, List.modifyHead_modifyHead]
  simp only [Function.comp_def, List.append_assoc]

/-- Both sides of a separator can be looked at. -/
theorem passSeparator?_eq (part rest : Text) (progress : Cutting) :
    passSeparator? (part ++ (separator ++ rest)) progress (byteSize part) =
      if isBoundary part.getLast? && isBoundary rest.head? then
        (slice? (part ++ (separator ++ rest)) progress.start (byteSize part)).map fun segment =>
          ⟨progress.clauses ++ [trim segment], byteSize part + byteSize separator⟩
      else some progress := by
  have before : slice? (part ++ (separator ++ rest)) 0 (byteSize part) = some part :=
    slice?_zero_iff.mpr ⟨_, rfl, rfl⟩
  have after : slice? (part ++ (separator ++ rest)) (byteSize part + byteSize separator)
      (byteSize (part ++ (separator ++ rest))) = some rest :=
    slice?_eq_some_iff.mpr ⟨part ++ separator, [], by simp, byteSize_append .., by simp⟩
  rw [passSeparator?, before, after, Option.bind_some, Option.bind_some]

/-- The last cut is never behind the next separator, so that the segment between can be cut off. -/
theorem passSeparator?_reached (reached : Reached part (separator ++ rest) progress) :
    ∃ next, passSeparator? (part ++ (separator ++ rest)) progress (byteSize part) = some next ∧
      Reached (part ++ separator) rest next := by
  have last : (part ++ separator).getLast? = some 'd' := by simp [separator]
  rw [passSeparator?_eq]
  by_cases alone : isBoundary part.getLast? = true ∧ isBoundary rest.head? = true
  · obtain ⟨before, segment, rfl, start, cut⟩ := reached
    have between : slice? (before ++ segment ++ (separator ++ rest)) progress.start
        (byteSize (before ++ segment)) = some segment :=
      slice?_eq_some_iff.mpr ⟨before, separator ++ rest, rfl, start, rfl⟩
    rw [if_pos (by simpa using alone), between]
    refine ⟨_, rfl, before ++ segment ++ separator, [], (List.append_nil _).symm,
      byteSize_append .., ?_⟩
    rw [List.append_assoc, cut, segmentsAfter_separator alone.1 alone.2, last,
      modifyHead_nil_append, List.append_assoc]
    simp
  · refine ⟨progress, if_neg (by simpa using alone), reached.skip ?_⟩
    rw [segmentsAfter_glued alone, last]

theorem foldlM_reached (here : byteSize part = first) (reached : Reached part rest progress) :
    ∃ last, (spelledFrom first rest).foldlM (passSeparator? (part ++ rest)) progress = some last ∧
      Reached (part ++ rest) [] last := by
  fun_induction spelledFrom first rest generalizing part progress with
  | case1 first => exact ⟨progress, rfl, by rwa [List.append_nil]⟩
  | case2 first rest ih =>
    have spelled : Reached part (separator ++ rest) progress := reached
    obtain ⟨next, step, further⟩ := passSeparator?_reached spelled
    obtain ⟨last, run, ended⟩ := ih (by rw [byteSize_append, here]) further
    rw [List.append_assoc] at run ended
    refine ⟨last, ?_, ended⟩
    rw [here] at step
    rw [List.foldlM_cons]
    exact (congrArg (Option.bind · _) step).trans run
  | case3 first c rest other ih =>
    have unspelled : ∀ later, c :: rest = separator ++ later →
        ¬ (isBoundary part.getLast? = true ∧ isBoundary later.head? = true) := by
      intro later same
      obtain ⟨rfl, tail⟩ := List.cons.inj same
      exact absurd tail (other later rfl)
    have further : Reached (part ++ [c]) rest progress := by
      refine Reached.skip (w := [c]) reached ?_
      rw [List.singleton_append, segmentsAfter_cons unspelled, List.getLast?_concat]
      rfl
    obtain ⟨last, run, ended⟩ := ih (by simp [byteSize_append, byteSize, here]) further
    rw [List.append_assoc] at run ended
    exact ⟨last, run, ended⟩

/-- The search by offsets fails in no line, and splits it where the walk by characters does. -/
theorem clauses?_eq (line : Text) : clauses? line = some (clauses line) := by
  have start : Reached [] line ⟨[], 0⟩ := by
    refine ⟨[], [], rfl, rfl, ?_⟩
    exact congrArg (List.map trim) (modifyHead_nil_append _).symm
  obtain ⟨progress, run, ended⟩ := foldlM_reached rfl start
  rw [List.nil_append] at run ended
  obtain ⟨before, segment, split, offset, cut⟩ := ended
  have last : slice? line progress.start (byteSize line) = some segment :=
    slice?_eq_some_iff.mpr ⟨before, [], by rw [split, List.append_nil], offset, by rw [split]⟩
  rw [List.append_nil] at cut
  rw [clauses?, cut]
  refine (congrArg (Option.bind · _) run).trans ?_
  rw [Option.bind_some, last]
  simp [segmentsAfter]

end Line

namespace Input

/-- Bounds a line at the offset of the first character that is too many. -/
def bound? (limit : Nat) (line : Text) : Option Bounded :=
  if isBlank line then some .blank
  else
    match (offsetsFrom 0 line)[limit]? with
    | some (stop, _) => (slice? line 0 stop).map .tooLong
    | none => some (.line line)

theorem bound?_eq (limit : Nat) (line : Text) : bound? limit line = some (bound limit line) := by
  rw [bound?, bound, getElem?_offsetsFrom, Nat.zero_add]
  split
  · rfl
  · rcases Nat.lt_or_ge limit line.length with long | short
    · have more : ¬ (line.drop limit).isEmpty = true := by
        rw [List.isEmpty_iff, List.drop_eq_nil_iff]
        exact Nat.not_le.mpr long
      have start : slice? line 0 (byteSize (line.take limit)) = some (line.take limit) :=
        slice?_zero_iff.mpr ⟨line.drop limit, (List.take_append_drop limit line).symm, rfl⟩
      rw [List.getElem?_eq_getElem long, if_neg more]
      exact congrArg (Option.map Bounded.tooLong) start
    · rw [List.getElem?_eq_none short, if_pos (List.isEmpty_iff.mpr (List.drop_eq_nil_iff.mpr short))]
      rfl

end Input

namespace Completion

/-- There is a completion wherever the cursor can stand. -/
theorem complete?_exists_iff :
    (∃ completion, complete? lexicon line cursor = some completion) ↔ AtBoundary line cursor := by
  constructor
  · rintro ⟨completion, found⟩
    obtain ⟨typed, before, _⟩ := Option.bind_eq_some_iff.mp found
    exact (slice?_exists_iff.mp ⟨typed, before⟩).2.2
  · intro boundary
    obtain ⟨typed, rest, rfl, rfl⟩ := atBoundary_iff.mp boundary
    obtain ⟨before, begun, place⟩ := PieceAt.exists_last isDelimiter typed
    exact ⟨_, complete?_eq lexicon place rest⟩

end Completion

namespace Line

/-- A slice of a line exists exactly where it begins and ends between characters, and no other is
asked for. The line is split, looking at both sides of each place where the separator is spelled,
it is coloured, it is bounded to any number of characters and it is completed wherever the cursor
can stand, and every slice that is taken exists. -/
theorem slicing_never_fails (lexicon : Lexicon) (line : Text) :
    (∀ first last, (∃ part, slice? line first last = some part) ↔
      first ≤ last ∧ last ≤ byteSize line ∧ AtBoundary line first ∧ AtBoundary line last) ∧
    (∀ offset, offset ∈ spelledFrom 0 line ↔
      ∃ front back, line = front ++ separator ++ back ∧ byteSize front = offset) ∧
    clauses? line = some (clauses line) ∧
    Highlight.paint? lexicon line = some (Highlight.paint lexicon line) ∧
    (∀ limit, Input.bound? limit line = some (Input.bound limit line)) ∧
    (∀ cursor, (∃ completion, Completion.complete? lexicon line cursor = some completion) ↔
      AtBoundary line cursor) := by
  refine ⟨fun first last => ?_, fun offset => ?_, clauses?_eq line, Highlight.paint?_eq lexicon line,
    fun limit => Input.bound?_eq limit line, fun cursor => Completion.complete?_exists_iff⟩
  · rw [slice?_exists_iff]
    constructor
    · rintro ⟨ordered, opens, closes⟩
      exact ⟨ordered, closes.le, opens, closes⟩
    · rintro ⟨ordered, _, opens, closes⟩
      exact ⟨ordered, opens, closes⟩
  · rw [mem_spelledFrom]
    simp only [Nat.zero_add]

/-- Separators are found by bytes beside characters of two and three bytes, and inside of those
nothing can be cut. -/
example : spelledFrom 0 "é and\u3000名".toList = [3] ∧
    clauses? "é and\u3000名".toList = some ["é".toList, "名".toList] ∧
    slice? "é and\u3000名".toList 0 7 = none ∧
    Completion.complete? .empty "é and\u3000名".toList 7 = none := by
  decide +kernel

end Line
end Imperative
