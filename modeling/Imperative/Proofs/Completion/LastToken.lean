import Imperative.Completion
import Imperative.Proofs.Lexicon.Building
import Imperative.Proofs.Text.Words

/-! The word before the cursor. Looked for backwards, from the cursor to the nearest delimiter,
it is what the tokens of the typed part end in when they are read forwards. Candidates take
its place, and nothing before it changes. -/
namespace Imperative
open Text

variable {lexicon : Lexicon} {line typed before begun rest : Text} {cursor : Nat}

namespace Completion

/-- The search back from the cursor passes over the last piece and stops where it begins. -/
theorem wordStart_eq (place : PieceAt isDelimiter typed before begun []) :
    wordStart typed = byteSize before := by
  have passed : ((offsetsFrom (byteSize before) begun).reverse.find? (isDelimiter ·.2)) = none := by
    refine List.find?_eq_none.mpr fun entry member => ?_
    have inside : entry.2 ∈ begun := by
      rw [← map_offsetsFrom (byteSize before) begun]
      exact List.mem_map_of_mem (List.mem_reverse.mp member)
    simp [place.whole entry.2 inside]
  rw [wordStart, place.split_last, offsetsFrom_append, Nat.zero_add, List.reverse_append, List.find?_append,
    passed, Option.none_or]
  rcases List.eq_nil_or_concat before with rfl | ⟨front, d, rfl⟩
  · rfl
  · have nearest : isDelimiter d = true := place.opens d (by simp)
    rw [List.concat_eq_append, offsetsFrom_append, List.reverse_append, Nat.zero_add]
    simp [offsetsFrom, nearest, byteSize_append, byteSize]

theorem complete?_eq (lexicon : Lexicon) (place : PieceAt isDelimiter typed before begun [])
    (rest : Text) : complete? lexicon (typed ++ rest) (byteSize typed) =
      some ⟨byteSize before, continuations lexicon begun⟩ := by
  rw [complete?, slice?_zero_iff.mpr ⟨rest, rfl, rfl⟩, Option.bind_some, wordStart_eq place,
    place.slice?_last rest]
  rfl

/-! The candidates. -/

theorem map_inserted (lexicon : Lexicon) (begun : Text) :
    (continuations lexicon begun).map (·.inserted) =
      lexicon.allWords.filter ((lower begun).isPrefixOf ·) := by
  rw [continuations, List.map_map]
  exact List.map_id _

theorem mem_inserted {word : Text} : word ∈ (continuations lexicon begun).map (·.inserted) ↔
    word ∈ lexicon.allWords ∧ lower begun <+: word := by
  rw [map_inserted, List.mem_filter, List.isPrefixOf_iff_prefix]

theorem pairwise_inserted (lexicon : Lexicon) (begun : Text) :
    ((continuations lexicon begun).map (·.inserted)).Pairwise (· < ·) := by
  rw [map_inserted]
  exact (Lexicon.pairwise_allWords lexicon).filter _

theorem shown_eq_inserted {candidate : Candidate}
    (member : candidate ∈ continuations lexicon begun) : candidate.shown = candidate.inserted := by
  obtain ⟨word, _, rfl⟩ := List.mem_map.mp member
  rfl

/-- The line in which a candidate stands in place of the begun word. -/
def accept? (line : Text) (cursor : Nat) (completion : Completion) (candidate : Candidate) :
    Option Text :=
  (line.cutAt? completion.start).bind fun front =>
    (line.cutAt? cursor).map fun back => front.1 ++ candidate.inserted ++ back.2

theorem accept?_eq (place : PieceAt isDelimiter typed before begun []) (rest : Text)
    (candidates : List Candidate) (candidate : Candidate) :
    accept? (typed ++ rest) (byteSize typed) ⟨byteSize before, candidates⟩ candidate =
      some (before ++ candidate.inserted ++ rest) := by
  have front : cutAt? (typed ++ rest) (byteSize before) = some (before, begun ++ rest) := by
    rw [place.split_last, List.append_assoc, cutAt?_append]
  rw [accept?, front, Option.bind_some, cutAt?_append]
  rfl

/-- Wherever the cursor stands between two characters, completion begins at a place between two
characters too, from which the line up to the cursor is the last token of what was typed, the
one before the end. The candidates are the words of the lexicon that go on from this token,
lowercased, in the order of their characters and each once, and they are inserted as they are
shown. To accept one changes nothing before the token. -/
theorem completed_at_last_token (lexicon : Lexicon) (boundary : line.slice? 0 cursor = some typed) :
    ∃ completion front begun earlier, complete? lexicon line cursor = some completion ∧
      completion.start ≤ cursor ∧
      line.slice? 0 completion.start = some front ∧
      line.slice? completion.start cursor = some begun ∧
      tokens typed = earlier ++ [.ofPiece begun, .finish] ∧
      (∀ word, word ∈ completion.candidates.map (·.inserted) ↔
        word ∈ lexicon.allWords ∧ lower begun <+: word) ∧
      (completion.candidates.map (·.inserted)).Pairwise (· < ·) ∧
      ∀ candidate ∈ completion.candidates, candidate.shown = candidate.inserted ∧
        ∃ edited, accept? line cursor completion candidate = some edited ∧
          edited.slice? 0 completion.start = some front := by
  obtain ⟨rest, rfl, rfl⟩ := slice?_zero_iff.mp boundary
  obtain ⟨before, begun, place⟩ := PieceAt.exists_last isDelimiter typed
  obtain ⟨earlier, cutUp⟩ := place.splitWhere_last
  refine ⟨_, before, begun, earlier.map Token.ofPiece, complete?_eq lexicon place rest, ?start,
    ?front, place.slice?_last rest, ?token, fun word => mem_inserted, pairwise_inserted lexicon begun,
    ?accepted⟩
  case start =>
    rw [place.split_last, byteSize_append]
    exact Nat.le_add_right _ _
  case front =>
    exact slice?_zero_iff.mpr ⟨begun ++ rest, by rw [place.split_last, List.append_assoc], rfl⟩
  case token => simp [tokens, pieces, cutUp]
  case accepted =>
    intro candidate member
    refine ⟨shown_eq_inserted member, _, accept?_eq place rest _ candidate, ?_⟩
    exact slice?_zero_iff.mpr ⟨candidate.inserted ++ rest, List.append_assoc .., rfl⟩

/-- Behind an ideographic space, which is three bytes long, two words go on from what was
typed. One of them is listed twice and offered once. -/
theorem completed_behind_wide_space :
    let line : Text := "Take\u3000Dr, then go".toList
    let lexicon := Lexicon.ofLists [(.word .verb, ["drop", "drink", "take"].map String.toList),
      (.word .noun, ["drink".toList])]
    line.slice? 0 9 = some "Take\u3000Dr".toList ∧
    ∃ completion, complete? lexicon line 9 = some completion ∧ completion.start = 7 ∧
      completion.start ≤ 9 ∧
      completion.candidates.map (·.inserted) = ["drink".toList, "drop".toList] ∧
      ∀ candidate ∈ completion.candidates, ∃ edited,
        accept? line 9 completion candidate = some edited ∧
        edited.slice? 0 7 = some "Take\u3000".toList := by
  intro line lexicon
  have boundary : line.slice? 0 9 = some "Take\u3000Dr".toList := by decide
  obtain ⟨completion, front, begun, earlier, found, bound, before, _, _, _, _, accepted⟩ :=
    completed_at_last_token lexicon boundary
  have seen : complete? lexicon line 9 =
      some ⟨7, ["drink", "drop"].map fun word => .ofWord word.toList⟩ := by decide +kernel
  obtain rfl := Option.some.inj (seen.symm.trans found)
  have space : line.slice? 0 7 = some "Take\u3000".toList := by decide
  obtain rfl := Option.some.inj (space.symm.trans before)
  exact ⟨boundary, _, seen, rfl, bound, rfl, fun candidate member => (accepted candidate member).2⟩

end Completion
end Imperative
