import Imperative.Proofs.Highlighting
import Imperative.Proofs.Lexicon.Entries
import Imperative.Text.Offset
import Mathlib.Data.List.Infix

/-! What colouring adds to a line. The line can be walked by the offsets of its characters,
with a word cut out where a delimiter or the end is reached: this paints the same text. Every
word stands in it between the code of its category and a reset, and delimiters are copied, so
the line is what remains without the escape sequences. -/
namespace Imperative.Highlight
open Text Line

variable {lexicon : Lexicon} {line t w rest : Text} {category : Category} {c : Char}

/-! The walk by offsets. -/

/-- What has been painted of a line, and the offset of a word that has begun. -/
structure Progress where
  painted : Text
  begun : Option Nat

/-- Paints the word that has begun, if there is one, up to an offset. -/
def flush? (lexicon : Lexicon) (line : Text) (progress : Progress) (stop : Nat) : Option Text :=
  match progress.begun with
  | none => some progress.painted
  | some start => (slice? line start stop).map (progress.painted ++ paintWord lexicon ·)

/-- Goes past a character at an offset. -/
def advance? (lexicon : Lexicon) (line : Text) (progress : Progress) (entry : Nat × Char) :
    Option Progress :=
  if isDelimiter entry.2 then
    (flush? lexicon line progress entry.1).map fun painted => ⟨painted ++ [entry.2], none⟩
  else some ⟨progress.painted, some (progress.begun.getD entry.1)⟩

def paint? (lexicon : Lexicon) (line : Text) : Option Text :=
  ((offsetsFrom 0 line).foldlM (advance? lexicon line) ⟨[], none⟩).bind fun progress =>
    flush? lexicon line progress (byteSize line)

/-- Where the walk stands behind a part of a line: all is painted but the last piece, which
has begun at its offset unless it is empty. -/
def Reached (lexicon : Lexicon) (part : Text) (progress : Progress) : Prop :=
  ∃ before piece, PieceAt isDelimiter part before piece [] ∧
    progress = ⟨paint lexicon before, if piece = [] then none else some (byteSize before)⟩

theorem flush?_reached {part : Text} {progress : Progress} (reached : Reached lexicon part progress)
    (rest : Text) : flush? lexicon (part ++ rest) progress (byteSize part) =
      some (paint lexicon part) := by
  obtain ⟨before, piece, place, rfl⟩ := reached
  have painted : paint lexicon part = paint lexicon before ++ paintWord lexicon piece := by
    rw [place.split_last, (paint_piecewise lexicon).append (.inl (isBoundary_iff.mpr place.opens)),
      paint_unbroken lexicon place.whole]
  rw [painted, flush?]
  by_cases empty : piece = []
  · subst piece
    simp [paintWord]
  · simp [empty, place.slice?_last rest]

/-- A delimiter is copied behind the painted piece, and an empty piece begins. Any other
character makes the piece longer. -/
theorem advance?_reached {part : Text} {progress : Progress} (reached : Reached lexicon part progress)
    (c : Char) (rest : Text) : ∃ next,
      advance? lexicon (part ++ c :: rest) progress (byteSize part, c) = some next ∧
      Reached lexicon (part ++ [c]) next := by
  have flushed := flush?_reached reached (c :: rest)
  obtain ⟨before, piece, place, rfl⟩ := reached
  cases cut : isDelimiter c with
  | true =>
    have copied : paint lexicon (part ++ [c]) = paint lexicon part ++ [c] := by
      have whole := (paint_piecewise lexicon).append_cut cut part []
      rwa [(paint_piecewise lexicon).empty, List.append_nil] at whole
    refine ⟨⟨paint lexicon part ++ [c], none⟩, by simp [advance?, cut, flushed], part ++ [c], [], ?_,
      by simp [copied]⟩
    exact ⟨by simp, by simp, by simpa using cut, by simp⟩
  | false =>
    refine ⟨_, if_neg (Bool.eq_false_iff.mp cut), before, piece ++ [c], ?_, ?_⟩
    · exact ⟨by simp [place.split_last], unbroken_append.mpr ⟨place.whole, unbroken_cons.mpr ⟨cut, .nil⟩⟩,
        place.opens, by simp⟩
    · by_cases empty : piece = []
      · simp [empty, place.split_last]
      · simp [empty]

theorem foldlM_reached {part : Text} {progress : Progress} (reached : Reached lexicon part progress)
    (rest : Text) : ∃ last,
      (offsetsFrom (byteSize part) rest).foldlM (advance? lexicon (part ++ rest)) progress = some last ∧
      Reached lexicon (part ++ rest) last := by
  induction rest generalizing part progress with
  | nil => exact ⟨progress, rfl, by rwa [List.append_nil]⟩
  | cons c rest ih =>
    obtain ⟨next, step, further⟩ := advance?_reached reached c rest
    obtain ⟨last, run, ended⟩ := ih further
    have size : byteSize (part ++ [c]) = byteSize part + c.utf8Size := by
      rw [byteSize_append, byteSize, byteSize_nil, Nat.add_zero]
    rw [List.append_assoc, List.singleton_append, size] at run
    rw [List.append_assoc, List.singleton_append] at ended
    refine ⟨last, ?_, ended⟩
    rw [offsetsFrom, List.foldlM_cons, step]
    exact run

/-- The walk by offsets fails in no line, and paints what the walk by characters does. -/
theorem paint?_eq (lexicon : Lexicon) (line : Text) : paint? lexicon line = some (paint lexicon line) := by
  have start : Reached lexicon [] ⟨[], none⟩ := ⟨[], [], by constructor <;> simp, rfl⟩
  obtain ⟨last, run, ended⟩ := foldlM_reached start line
  rw [List.nil_append] at run ended
  have flushed := flush?_reached ended []
  rw [List.append_nil] at flushed
  rw [paint?]
  exact (congrArg (Option.bind · _) run).trans flushed

/-! Codes and resets. -/

/-- The category of a word is one that has a colour. -/
theorem colour?_shownAs (lexicon : Lexicon) (nonempty : w ≠ []) :
    ∃ code, colour? (shownAs lexicon w) = some code := by
  have lowered : lower w ≠ [] := mt lower_eq_nil_iff.mp nonempty
  rw [shownAs, Lexicon.classify_of_ne_nil lowered]
  cases WordClass.priority.find? (lexicon.contains · (lower w)) with
  | none => exact ⟨_, rfl⟩
  | some c => cases c <;> exact ⟨_, rfl⟩

theorem escape_solid : isDelimiter escape = false := by decide

/-- A code is an escape sequence of its own, and no reset. -/
theorem colour?_cases {code : Text} (shown : colour? category = some code) : ∃ first others,
    code = sequence (first :: others) ∧ first ≠ '0' ∧ escape ∉ first :: others ∧ 'm' ∉ first :: others := by
  cases category with
  | word c =>
    cases c <;> obtain rfl := Option.some.inj shown <;>
      exact ⟨_, _, rfl, by decide, by decide, by decide⟩
  | unknown =>
    obtain rfl := Option.some.inj shown
    exact ⟨_, _, rfl, by decide, by decide, by decide⟩
  | empty => contradiction
  | finish => contradiction

/-- The colour code of a word. -/
def codeOf (lexicon : Lexicon) (word : Text) : Text := (colour? (shownAs lexicon word)).getD []

theorem colour?_eq_codeOf (lexicon : Lexicon) (nonempty : w ≠ []) :
    colour? (shownAs lexicon w) = some (codeOf lexicon w) := by
  obtain ⟨code, shown⟩ := colour?_shownAs lexicon nonempty
  rw [codeOf, shown, Option.getD_some]

theorem paintWord_eq_wrapped (lexicon : Lexicon) (w : Text) : paintWord lexicon w =
    if w = [] then [] else codeOf lexicon w ++ w ++ reset := by
  by_cases empty : w = []
  · subst w
    rfl
  · rw [paintWord_eq_inColour, inColour, colour?_eq_codeOf lexicon empty, if_neg empty]

/-- How often a text occurs in another, overlapping occurrences counted. -/
def occurrences (sought t : Text) : Nat := t.tails.countP (sought.isPrefixOf ·)

theorem occurrences_cons (sought : Text) (c : Char) (t : Text) : occurrences sought (c :: t) =
    occurrences sought t + if sought.isPrefixOf (c :: t) then 1 else 0 := by
  rw [occurrences, List.tails_cons, List.countP_cons]
  rfl

theorem occurrences_reset_cons (other : c ≠ escape) (t : Text) :
    occurrences reset (c :: t) = occurrences reset t := by
  have none : reset.isPrefixOf (c :: t) = false := by
    simp [reset, sequence, List.isPrefixOf, other.symm]
  rw [occurrences_cons, none]
  rfl

theorem occurrences_reset_append (plain : escape ∉ w) (t : Text) :
    occurrences reset (w ++ t) = occurrences reset t := by
  induction w with
  | nil => rfl
  | cons c cs ih =>
    obtain ⟨first, others⟩ : escape ≠ c ∧ escape ∉ cs := by simpa using plain
    rw [List.cons_append, occurrences_reset_cons first.symm, ih others]

theorem occurrences_reset_reset (t : Text) :
    occurrences reset (reset ++ t) = occurrences reset t + 1 := by
  have rest : occurrences reset (['[', '0', 'm'] ++ t) = occurrences reset t :=
    occurrences_reset_append (by decide) t
  have here : reset.isPrefixOf (reset ++ t) = true :=
    List.isPrefixOf_iff_prefix.mpr (List.prefix_append reset t)
  have first := occurrences_cons reset escape (['[', '0', 'm'] ++ t)
  rw [rest] at first
  exact first.trans (congrArg (occurrences reset t + ·) (if_pos here))

/-- A code is no reset, and none begins in it. -/
theorem occurrences_reset_code {code : Text} (shown : colour? category = some code) (t : Text) :
    occurrences reset (code ++ t) = occurrences reset t := by
  obtain ⟨first, others, rfl, other, plain, _⟩ := colour?_cases shown
  have none : reset.isPrefixOf (sequence (first :: others) ++ t) = false := by
    simp [reset, sequence, List.isPrefixOf, other.symm]
  have tail : escape ∉ '[' :: first :: others ++ ['m'] := by
    have bracket : escape ≠ '[' ∧ escape ≠ 'm' := by decide
    simpa [bracket] using plain
  have after := occurrences_reset_append tail t
  have whole := occurrences_cons reset escape ('[' :: first :: others ++ ['m'] ++ t)
  rw [after] at whole
  exact whole.trans (congrArg (occurrences reset t + ·) (if_neg (Bool.eq_false_iff.mp none)))

/-- The reset behind a word is the first one: an escape character of the word itself is followed
by no bracket, which is a delimiter. -/
theorem occurrences_reset_word (unbroken : Unbroken w) (t : Text) :
    occurrences reset (w ++ reset ++ t) = occurrences reset t + 1 := by
  induction w with
  | nil => exact occurrences_reset_reset t
  | cons c cs ih =>
    obtain ⟨_, rest⟩ := unbroken_cons.mp unbroken
    have none : reset.isPrefixOf (c :: (cs ++ reset ++ t)) = false := by
      cases cs with
      | nil => simp [reset, sequence, List.isPrefixOf, escape]
      | cons d ds =>
        have solid := (unbroken_cons.mp rest).1
        have other : d ≠ '[' := by
          rintro rfl
          contradiction
        simp [reset, sequence, List.isPrefixOf, other.symm]
    rw [List.cons_append, List.cons_append, occurrences_cons, ih rest, none]
    rfl

theorem occurrences_paintWord (lexicon : Lexicon) (unbroken : Unbroken w) (t : Text) :
    occurrences reset (paintWord lexicon w ++ t) = (words w).length + occurrences reset t := by
  rw [paintWord_eq_wrapped, length_words_unbroken unbroken]
  split
  · exact (Nat.zero_add _).symm
  · next nonempty =>
    rw [List.append_assoc, List.append_assoc, occurrences_reset_code (colour?_eq_codeOf lexicon nonempty),
      ← List.append_assoc, occurrences_reset_word unbroken, Nat.add_comm]

theorem occurrences_paint (lexicon : Lexicon) (line : Text) :
    occurrences reset (paint lexicon line) = (words line).length := by
  induction line using word_induction with
  | last w unbroken =>
    have whole := occurrences_paintWord lexicon unbroken []
    rwa [List.append_nil, ← paint_unbroken lexicon unbroken] at whole
  | more w c rest unbroken cut ih =>
    have copied : c ≠ escape := by
      rintro rfl
      exact absurd cut (Bool.eq_false_iff.mp escape_solid)
    rw [(paint_piecewise lexicon).cut unbroken cut, paint_unbroken lexicon unbroken, List.append_assoc,
      occurrences_paintWord lexicon unbroken, List.singleton_append, occurrences_reset_cons copied, ih,
      words_append_cut cut, List.length_append]

/-! The line without the colours. -/

/-- A text less its escape sequences, each of which goes on to the next letter m. -/
def eraseFrom (inside : Bool) : Text → Text
  | [] => []
  | c :: cs =>
    if inside then eraseFrom (c ≠ 'm') cs
    else if c = escape then eraseFrom true cs
    else c :: eraseFrom false cs

def erase (t : Text) : Text := eraseFrom false t

theorem erase_nil : erase [] = [] := rfl

theorem erase_append (plain : escape ∉ w) (t : Text) : erase (w ++ t) = w ++ erase t := by
  induction w with
  | nil => rfl
  | cons c cs ih =>
    obtain ⟨first, others⟩ : escape ≠ c ∧ escape ∉ cs := by simpa using plain
    rw [List.cons_append, erase, eraseFrom, if_neg Bool.false_ne_true, if_neg first.symm]
    exact congrArg (c :: ·) (ih others)

theorem eraseFrom_inside (passed : 'm' ∉ w) (t : Text) :
    eraseFrom true (w ++ 'm' :: t) = erase t := by
  induction w with
  | nil => rfl
  | cons c cs ih =>
    obtain ⟨first, others⟩ : 'm' ≠ c ∧ 'm' ∉ cs := by simpa using passed
    rw [List.cons_append, eraseFrom, if_pos rfl, decide_eq_true first.symm, ih others]

theorem erase_sequence {attributes : Text} (other : 'm' ∉ attributes) (t : Text) :
    erase (sequence attributes ++ t) = erase t := by
  have passed : 'm' ∉ '[' :: attributes := by simpa using other
  rw [← eraseFrom_inside passed t]
  simp [erase, sequence, eraseFrom]

theorem erase_paintWord (lexicon : Lexicon) (plain : escape ∉ w) (t : Text) :
    erase (paintWord lexicon w ++ t) = w ++ erase t := by
  rw [paintWord_eq_wrapped]
  split
  · next empty => rw [empty, List.nil_append, List.nil_append]
  · next nonempty =>
    obtain ⟨first, others, code, _, _, ends⟩ := colour?_cases (colour?_eq_codeOf lexicon nonempty)
    rw [code, List.append_assoc, List.append_assoc, erase_sequence ends, erase_append plain, reset,
      erase_sequence (by decide)]

theorem erase_paint (lexicon : Lexicon) (plain : escape ∉ line) : erase (paint lexicon line) = line := by
  induction line using word_induction with
  | last w unbroken =>
    have whole := erase_paintWord lexicon plain []
    rwa [List.append_nil, ← paint_unbroken lexicon unbroken, erase_nil, List.append_nil] at whole
  | more w c rest unbroken cut ih =>
    have apart : escape ∉ w ∧ escape ≠ c ∧ escape ∉ rest := by simpa using plain
    obtain ⟨before, other, after⟩ := apart
    have copied : erase (c :: paint lexicon rest) = c :: erase (paint lexicon rest) :=
      erase_append (w := [c]) (by simpa using other) _
    rw [(paint_piecewise lexicon).cut unbroken cut, paint_unbroken lexicon unbroken, List.append_assoc,
      erase_paintWord lexicon before, List.singleton_append, copied, ih after]

/-- Colouring only adds to a line. The walk by offsets fails nowhere and paints the same text.
The line is its pieces with its delimiters between them, its words being the pieces that are
not empty; in the coloured line every word stands between the code of the category that its
lowercase form is classified as and a reset, and all else is as it was. There is one reset for
each word. If the line holds no escape character, it is what the coloured line is without the
escape sequences. -/
theorem coloured_by_addition (lexicon : Lexicon) (line : Text) :
    paint? lexicon line = some (paint lexicon line) ∧
    line = weave (pieces line) (line.filter isDelimiter) ∧
    words line = (pieces line).filter (· ≠ []) ∧
    (∃ code : Text → Text,
      (∀ word ∈ words line, colour? (lexicon.classify (some (lower word))) = some (code word)) ∧
      paint lexicon line =
        weave ((pieces line).map fun piece => if piece = [] then [] else code piece ++ piece ++ reset)
          (line.filter isDelimiter)) ∧
    occurrences reset (paint lexicon line) = (words line).length ∧
    (escape ∉ line → erase (paint lexicon line) = line) := by
  refine ⟨paint?_eq lexicon line, (weave_pieces line).symm, rfl, ⟨codeOf lexicon, ?_, ?_⟩,
    occurrences_paint lexicon line, erase_paint lexicon⟩
  · intro word member
    have nonempty : word ≠ [] := of_decide_eq_true (List.mem_filter.mp member).2
    exact colour?_eq_codeOf lexicon nonempty
  · rw [(paint_piecewise lexicon).eq_weave line]
    congr 1
    refine List.map_congr_left fun piece member => ?_
    obtain ⟨_, _, place⟩ := mem_splitWhere.mp member
    rw [paint_unbroken lexicon place.whole, paintWord_eq_wrapped]

/-- A reset that is typed is cut in two at its bracket, and does not count as one. -/
example : paint .empty reset = inColour .unknown [escape] ++ '[' :: inColour .unknown "0m".toList ∧
    occurrences reset (paint .empty reset) = 2 := by
  decide +kernel

end Imperative.Highlight
