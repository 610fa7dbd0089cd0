import Imperative.Proofs.Text.Words

/-! Tokens and the text they are cut from. Every delimiter ends one token and begins the next:
the tokens before the end, with the delimiters between them, spell the text, and no other
tokens do. -/
namespace Imperative
open Text

namespace Token

/-- The part of the text that a token stands for. -/
def spelling : Token → Text
  | word t => t
  | empty | finish => []

def word? : Token → Option Text
  | word t => some t
  | empty | finish => none

/-- A token that can stand between two delimiters. -/
inductive IsPiece : Token → Prop
  | empty : IsPiece .empty
  | word {t : Text} (nonempty : t ≠ []) (unbroken : Unbroken t) : IsPiece (.word t)

variable {token : Token} {piece : Text}

theorem isPiece_ofPiece (unbroken : Unbroken piece) : IsPiece (ofPiece piece) := by
  unfold ofPiece
  split
  · exact .empty
  · next nonempty => exact .word nonempty unbroken

theorem spelling_ofPiece (piece : Text) : (ofPiece piece).spelling = piece := by
  unfold ofPiece
  split
  · next empty => exact empty.symm
  · rfl

theorem word?_ofPiece (piece : Text) :
    (ofPiece piece).word? = if piece ≠ [] then some piece else none := by
  unfold ofPiece
  split <;> simp_all [word?]

namespace IsPiece

theorem ofPiece_spelling (kind : IsPiece token) : ofPiece token.spelling = token := by
  cases kind with
  | empty => rfl
  | word nonempty unbroken => exact if_neg nonempty

theorem unbroken_spelling (kind : IsPiece token) : Unbroken token.spelling := by
  cases kind with
  | empty => exact .nil
  | word nonempty unbroken => exact unbroken

/-- A piece is looked up by what it spells, which the end is not. -/
theorem text?_eq (kind : IsPiece token) : token.text? = some token.spelling := by
  cases kind <;> rfl

end IsPiece
end Token

namespace Text

variable {clause piece : Text} {parts : List Token}

theorem unbroken_of_mem_pieces (member : piece ∈ pieces clause) : Unbroken piece := by
  obtain ⟨before, after, place⟩ := mem_splitWhere.mp member
  exact place.whole

/-- A text has one piece more than it has delimiters. -/
theorem length_pieces (clause : Text) :
    (pieces clause).length = (clause.filter isDelimiter).length + 1 := by
  induction clause using word_induction with
  | last w unbroken => rw [pieces_unbroken unbroken, filter_unbroken unbroken]; rfl
  | more w c rest unbroken cut ih =>
    rw [pieces_cut unbroken cut, filter_cut unbroken cut, List.length_cons, List.length_cons, ih]

/-- Runs without delimiters, put together with delimiters between them, are the pieces again. -/
theorem pieces_weave {texts : List Text} {marks : Text} (unbroken : ∀ w ∈ texts, Unbroken w)
    (cuts : ∀ c ∈ marks, isDelimiter c = true) (count : texts.length = marks.length + 1) :
    pieces (weave texts marks) = texts := by
  induction texts generalizing marks with
  | nil => simp at count
  | cons w rest ih =>
    obtain ⟨first, others⟩ := List.forall_mem_cons.mp unbroken
    cases marks with
    | nil =>
      obtain rfl : rest = [] := by simpa using count
      rw [weave, weave, List.append_nil, pieces_unbroken first]
    | cons c marks =>
      obtain ⟨cut, later⟩ := List.forall_mem_cons.mp cuts
      rw [weave, pieces_cut first cut, ih others later (by simpa using count)]

/-- The tokens are pieces that spell the clause out, each but the last followed by the next of
its delimiters. -/
structure CutInto (clause : Text) (parts : List Token) : Prop where
  kinds : ∀ token ∈ parts, token.IsPiece
  count : parts.length = (clause.filter isDelimiter).length + 1
  spelled : weave (parts.map Token.spelling) (clause.filter isDelimiter) = clause

theorem cutInto_pieces (clause : Text) : CutInto clause ((pieces clause).map Token.ofPiece) where
  kinds := by
    intro token member
    obtain ⟨piece, inside, rfl⟩ := List.mem_map.mp member
    exact Token.isPiece_ofPiece (unbroken_of_mem_pieces inside)
  count := by rw [List.length_map, length_pieces]
  spelled := by
    have same : Token.spelling ∘ Token.ofPiece = id := funext Token.spelling_ofPiece
    rw [List.map_map, same, List.map_id, weave_pieces]

/-- What the pieces of a clause spell is what the clause is cut up into. -/
theorem CutInto.map_spelling (cut : CutInto clause parts) :
    parts.map Token.spelling = pieces clause := by
  have unbroken : ∀ w ∈ parts.map Token.spelling, Unbroken w := by
    intro w member
    obtain ⟨token, inside, rfl⟩ := List.mem_map.mp member
    exact (cut.kinds token inside).unbroken_spelling
  have delimiters : ∀ c ∈ clause.filter isDelimiter, isDelimiter c = true :=
    fun c member => (List.mem_filter.mp member).2
  have found := pieces_weave unbroken delimiters (by rw [List.length_map, cut.count])
  rw [cut.spelled] at found
  exact found.symm

theorem cutInto_iff : CutInto clause parts ↔ parts = (pieces clause).map Token.ofPiece := by
  constructor
  · intro cut
    have again : parts.map (Token.ofPiece ∘ Token.spelling) = parts.map id :=
      List.map_congr_left fun token member => (cut.kinds token member).ofPiece_spelling
    rw [← cut.map_spelling, List.map_map, again, List.map_id]
  · rintro rfl
    exact cutInto_pieces clause

theorem filterMap_word?_tokens (clause : Text) :
    (tokens clause).filterMap Token.word? = words clause := by
  have pieces_words (texts : List Text) :
      (texts.map Token.ofPiece).filterMap Token.word? = texts.filter (· ≠ []) := by
    rw [List.filterMap_map, ← List.filterMap_eq_filter]
    congr 1
    funext piece
    simp [Token.word?_ofPiece, Option.guard]
  have last : [Token.finish].filterMap Token.word? = [] := rfl
  rw [tokens, List.filterMap_append, pieces_words, last, List.append_nil, words]

/-- Cutting a clause into tokens loses nothing. A clause with a number of delimiters has one
token more than these, and then the end. The tokens before the end are empty or are words, which
hold no delimiter and at least one other character, and with the delimiters between them they
are the clause; no other tokens would be. Only the end is looked up as no text, and the words
of the clause are those of its tokens. -/
theorem tokens_lossless (clause : Text) : ∃ parts : List Token,
    tokens clause = parts ++ [.finish] ∧
    (tokens clause).length = (clause.filter isDelimiter).length + 2 ∧
    (∀ others, CutInto clause others ↔ others = parts) ∧
    (tokens clause).map Token.text? = parts.map (some ·.spelling) ++ [none] ∧
    (tokens clause).filterMap Token.word? = words clause := by
  refine ⟨(pieces clause).map Token.ofPiece, rfl, ?count, fun others => cutInto_iff, ?lookUps,
    filterMap_word?_tokens clause⟩
  case count =>
    rw [tokens, List.length_append, List.length_map, length_pieces, List.length_singleton]
  case lookUps =>
    have looked := List.map_congr_left fun token member =>
      ((cutInto_pieces clause).kinds token member).text?_eq
    rw [tokens, List.map_append, looked]
    rfl

/-- Empty tokens stand between two delimiters, and before the end behind the last one. -/
example : tokens "take, key!".toList =
    [.word "take".toList, .empty, .word "key".toList, .empty, .finish] := by decide

end Text
end Imperative
