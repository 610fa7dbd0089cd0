import Imperative.Proofs.Text.Ascii

/-! Keywords of plain letters. A plain letter is the lowercase form of itself, of its own
capital and of nothing else, so that a text is lowercased to a keyword of such letters
exactly if it spells the keyword in some ASCII case. -/
namespace Imperative.Text

variable {c : Char} {w keyword before after t : Text}

/-- All small letters but one: `k` is the lowercase form of the Kelvin sign too. -/
def plainLetters : Text := "abcdefghijlmnopqrstuvwxyz".toList

/-- A text of plain letters. -/
def IsKeyword (t : Text) : Prop := ∀ c ∈ t, c ∈ plainLetters

instance (t : Text) : Decidable (IsKeyword t) := List.decidableBAll _ t

theorem plainLetters_data : ∀ c ∈ plainLetters, Settled c ∧ c.toLower = c ∧
    (Char.ofNat (c.toNat - 32)).toLower = c ∧ isBlankChar c = false :=
  List.all_iff_forall_prop.mp (by decide +kernel)

theorem IsKeyword.settled (plain : IsKeyword t) : ∀ c ∈ t, Settled c := fun c member =>
  (plainLetters_data c (plain c member)).1

/-- The run that sends the ASCII capitals to the small letters. -/
def CaseRun.isLatin (run : CaseRun) : Bool :=
  Nat.beq run.first 65 && Nat.beq run.image 97

/-- No other run reaches a plain letter. -/
theorem caseRuns_apart_plain : (caseRuns.all fun run => run.isLatin || plainLetters.all fun c =>
    Nat.blt c.toNat run.image || Nat.blt (run.lower run.last) c.toNat) = true := by
  decide +kernel

theorem CaseRun.isLatin_of_plain {run : CaseRun} {n : Nat} (listed : run ∈ caseRuns)
    (held : run.holds n = true) (plain : c ∈ plainLetters) (reached : run.lower n = c.toNat) :
    run.first = 65 ∧ run.image = 97 := by
  have row := List.all_eq_true.mp caseRuns_apart_plain run listed
  rcases Bool.or_eq_true_iff.mp row with latin | clear
  · simpa [isLatin] using latin
  · have bounds := CaseRun.lower_bounds held
    have outside := List.all_eq_true.mp clear c plain
    simp only [Bool.or_eq_true, Nat.blt_eq] at outside
    omega

/-- A character whose lowercase form holds plain letters only spells the one that it becomes. -/
theorem lowerChar_eq_toLower (plain : IsKeyword (lowerChar c)) : lowerChar c = [c.toLower] := by
  rcases lowerChar_cases c with ⟨_, form⟩ | ⟨run, listed, held, form⟩ | ⟨_, _, form⟩
  · have dotNoLetter : Char.ofNat 0x307 ∉ plainLetters := by decide
    rw [form] at plain
    exact absurd (plain (Char.ofNat 0x307) (by simp)) dotNoLetter
  · rw [form] at plain ⊢
    have letter := plain _ List.mem_cons_self
    have code : (Char.ofNat (run.lower c.toNat)).toNat = run.lower c.toNat := by
      refine (toNat_ofNat_or _).resolve_right fun zero => ?_
      rw [zero] at letter
      exact absurd letter (by decide)
    obtain ⟨first, image⟩ := run.isLatin_of_plain listed held letter code.symm
    have low := (CaseRun.holds_iff.mp held).1
    have place : (Char.ofNat (run.lower c.toNat)).toNat - 32 = c.toNat := by
      rw [code, CaseRun.lower]
      omega
    have small := (plainLetters_data _ letter).2.2.1
    rw [place, Char.ofNat_toNat] at small
    rw [small]
  · rw [form] at plain ⊢
    rw [(plainLetters_data c (plain c List.mem_cons_self)).2.1]

theorem lowerCharIn_eq_toLower (plain : IsKeyword (lowerCharIn before after c)) :
    lowerCharIn before after c = [c.toLower] := by
  unfold lowerCharIn at plain ⊢
  split at plain
  · have letter := plain _ List.mem_cons_self
    unfold lowerSigma at letter
    split at letter <;> exact absurd letter (by decide)
  · next other => rw [if_neg other, lowerChar_eq_toLower plain]

theorem lowerIn_eq_map_toLower (plain : IsKeyword (lowerIn before w after)) :
    lowerIn before w after = w.map Char.toLower := by
  induction w generalizing before with
  | nil => rfl
  | cons c cs ih =>
    obtain ⟨first, rest⟩ := List.forall_mem_append.mp plain
    rw [lowerIn, lowerCharIn_eq_toLower first, ih rest]
    rfl

/-- A keyword is read wherever it is spelled in some ASCII case, and nowhere else. -/
theorem lowerIn_eq_keyword_iff (plain : IsKeyword keyword) :
    lowerIn before w after = keyword ↔ w.map Char.toLower = keyword := by
  constructor
  · rintro rfl
    exact (lowerIn_eq_map_toLower plain).symm
  · intro spelled
    rw [← lowerIn_map_toLower, spelled, lowerIn_settled plain.settled]

theorem lower_eq_keyword_iff (plain : IsKeyword keyword) :
    lower w = keyword ↔ w.map Char.toLower = keyword := by
  rw [lower_eq_lowerIn, lowerIn_eq_keyword_iff plain]

/-- A plain letter is seen by the sigmas on either side of it. -/
theorem meetsCased_keyword (plain : IsKeyword keyword) (nonempty : keyword ≠ [])
    (spelled : w.map Char.toLower = keyword) (t : Text) : meetsCased (w ++ t) = true := by
  have seen : ∀ c ∈ plainLetters, isCaseIgnorable c = false ∧ isCased c = true :=
    List.all_iff_forall_prop.mp (by decide +kernel)
  obtain ⟨c, cs, rfl⟩ := List.exists_cons_of_ne_nil nonempty
  obtain ⟨solid, cased⟩ := seen c (plain c List.mem_cons_self)
  rw [← meetsCased_map_toLower, List.map_append, spelled, List.cons_append, meetsCased,
    List.dropWhile_cons_of_neg (Bool.eq_false_iff.mp solid)]
  exact cased

end Imperative.Text
