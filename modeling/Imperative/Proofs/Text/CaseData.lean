import Imperative.Proofs.Text.Words

/-! What the letter-case data says of single characters. Delimiters have no case, no
letter is lowercased to a delimiter, and a lowercase letter stays as it is. Each fact
is a comparison of intervals, which is computed once over the table. -/
namespace Imperative.Text

variable {c d : Char}

/-- No range of the list meets the interval. -/
def Ranges.apart (ranges : Ranges) (first last : Nat) : Bool :=
  ranges.all fun range => Nat.blt range.2 first || Nat.blt last range.1

theorem Ranges.not_holds_of_apart {ranges : Ranges} {first last : Nat}
    (apart : ranges.apart first last = true) (lower : first ≤ c.toNat) (upper : c.toNat ≤ last) :
    ranges.holds c = false := by
  apply List.any_eq_false.mpr
  intro range member inside
  have clear := List.all_eq_true.mp apart range member
  simp only [Bool.or_eq_true, Nat.blt_eq] at clear
  simp only [Bool.and_eq_true, decide_eq_true_eq] at inside
  omega

theorem Ranges.apart_of_holds (ranges : Ranges) {others : Ranges}
    (apart : (ranges.all fun range => others.apart range.1 range.2) = true)
    (held : ranges.holds c = true) : others.holds c = false := by
  obtain ⟨range, member, inside⟩ := List.any_eq_true.mp held
  simp only [Bool.and_eq_true, decide_eq_true_eq] at inside
  exact not_holds_of_apart (List.all_eq_true.mp apart range member) inside.1 inside.2

/-- The delimiters as intervals. -/
def delimiterRanges : Ranges := blankRanges ++ delimiterTable.map fun c => (c.toNat, c.toNat)

theorem holds_of_isDelimiter (cut : isDelimiter c = true) : delimiterRanges.holds c = true := by
  rw [isDelimiter, Bool.or_eq_true] at cut
  rw [Ranges.holds, delimiterRanges, List.any_append, Bool.or_eq_true]
  rcases cut with blank | listed
  · exact .inl blank
  · refine .inr (List.any_eq_true.mpr ⟨(c.toNat, c.toNat), ?_, by simp⟩)
    exact List.mem_map_of_mem (List.contains_iff_mem.mp listed)

/-- A blank ends a word for the final form of sigma too: it is no cased letter, and it is
not passed over. -/
theorem blank_uncased (blank : isBlankChar c = true) : isCased c = false :=
  Ranges.apart_of_holds blankRanges (by decide +kernel) blank

theorem blank_not_ignorable (blank : isBlankChar c = true) : isCaseIgnorable c = false :=
  Ranges.apart_of_holds blankRanges (by decide +kernel) blank

/-- The runs that send some character into the ranges of another run. -/
def CaseRun.settles (run other : CaseRun) : Bool :=
  Nat.blt (run.lower run.last) other.first || Nat.blt other.last run.image ||
    (Nat.beq other.step 2 && (Nat.beq run.step 2 || Nat.beq run.first run.last) &&
      Nat.beq ((run.image + other.first) % 2) 1)

theorem caseRuns_settle : (caseRuns.all fun run => caseRuns.all run.settles) = true := by
  decide +kernel

theorem caseRuns_apart_delimiters :
    (caseRuns.all fun run => delimiterRanges.apart run.first run.last) = true := by
  decide +kernel

theorem caseRuns_apart_images :
    (caseRuns.all fun run => delimiterRanges.apart run.image (run.lower run.last)) = true := by
  decide +kernel

namespace CaseRun

variable {run other : CaseRun} {n : Nat}

theorem holds_iff : run.holds n = true ↔
    run.first ≤ n ∧ n ≤ run.last ∧ (n - run.first) % run.step = 0 := by
  simp [holds, and_assoc]

theorem lower_bounds (held : run.holds n = true) :
    run.image ≤ run.lower n ∧ run.lower n ≤ run.lower run.last := by
  obtain ⟨first, last, _⟩ := holds_iff.mp held
  simp only [lower]
  omega

theorem not_holds_lower (settled : run.settles other = true) (held : run.holds n = true) :
    other.holds (run.lower n) = false := by
  have bounds := lower_bounds held
  obtain ⟨first, last, place⟩ := holds_iff.mp held
  apply Bool.eq_false_iff.mpr
  intro inside
  obtain ⟨low, high, parity⟩ := holds_iff.mp inside
  simp only [settles, Bool.or_eq_true, Bool.and_eq_true, Nat.blt_eq, Nat.beq_eq] at settled
  rcases settled with (below | above) | ⟨⟨double, narrow⟩, odd⟩
  · omega
  · omega
  · rw [double] at parity
    simp only [lower] at *
    rcases narrow with even | single
    · rw [even] at place
      omega
    · omega

end CaseRun

/-- A character that lowercasing leaves as it is, wherever it stands. -/
def Settled (c : Char) : Prop := c ≠ capitalSigma ∧ lowerChar c = [c]

instance (c : Char) : Decidable (Settled c) := inferInstanceAs (Decidable (_ ∧ _))

/-- Dotted capital I, the one letter that is lowercased to two characters. -/
def dottedCode : Nat := 0x130

theorem lowerChar_cases (c : Char) :
    (c.toNat = dottedCode ∧ lowerChar c = ['i', Char.ofNat 0x307]) ∨
    (∃ run ∈ caseRuns, run.holds c.toNat = true ∧ lowerChar c = [Char.ofNat (run.lower c.toNat)]) ∨
    (c.toNat ≠ dottedCode ∧ (∀ run ∈ caseRuns, run.holds c.toNat = false) ∧ lowerChar c = [c]) := by
  unfold lowerChar
  split
  · next dotted => exact .inl ⟨dotted, rfl⟩
  · next other =>
    split
    · next run found =>
      have held : run.holds c.toNat = true := by simpa using List.find?_some found
      exact .inr (.inl ⟨run, List.mem_of_find?_eq_some found, held, rfl⟩)
    · next missing =>
      refine .inr (.inr ⟨other, fun run member => ?_, rfl⟩)
      exact Bool.eq_false_iff.mpr (List.find?_eq_none.mp missing run member)

theorem settled_of_missing (other : c.toNat ≠ dottedCode)
    (missing : ∀ run ∈ caseRuns, run.holds c.toNat = false) : Settled c := by
  constructor
  · rintro rfl
    have listed : (caseRuns.any (·.holds capitalSigma.toNat)) = true := by decide +kernel
    obtain ⟨run, member, held⟩ := List.any_eq_true.mp listed
    simp [missing run member] at held
  · rcases lowerChar_cases c with ⟨dotted, _⟩ | ⟨run, member, held, _⟩ | ⟨_, _, same⟩
    · contradiction
    · simp [missing run member] at held
    · exact same

theorem toNat_ofNat_or (n : Nat) : (Char.ofNat n).toNat = n ∨ Char.ofNat n = '\x00' := by
  by_cases valid : n.isValidChar
  · have same : Char.ofNat n = Char.ofNatAux n valid := dif_pos valid
    rw [same]
    exact .inl rfl
  · exact .inr (dif_neg valid)

theorem CaseRun.settled_image {run : CaseRun} {n : Nat} (member : run ∈ caseRuns)
    (held : run.holds n = true) : Settled (Char.ofNat (run.lower n)) := by
  rcases toNat_ofNat_or (run.lower n) with code | zero
  · have bounds := CaseRun.lower_bounds held
    rw [← code] at bounds
    refine settled_of_missing ?_ fun other listed => ?_
    · have table : (caseRuns.all fun run =>
          Ranges.apart [(dottedCode, dottedCode)] run.image (run.lower run.last)) = true := by
        decide +kernel
      have clear := List.all_eq_true.mp table run member
      have outside := Ranges.not_holds_of_apart clear bounds.1 bounds.2
      intro dotted
      simp [Ranges.holds, dotted] at outside
    · rw [code]
      have row := List.all_eq_true.mp caseRuns_settle run member
      have settles := List.all_eq_true.mp row other listed
      exact CaseRun.not_holds_lower settles held
  · rw [zero]
    decide +kernel

theorem settled_of_mem_lowerChar (member : d ∈ lowerChar c) : Settled d := by
  rcases lowerChar_cases c with ⟨_, form⟩ | ⟨run, listed, held, form⟩ | ⟨other, missing, form⟩
  · have both : Settled 'i' ∧ Settled (Char.ofNat 0x307) := by decide +kernel
    rw [form, List.mem_cons, List.mem_singleton] at member
    rcases member with rfl | rfl
    · exact both.1
    · exact both.2
  · rw [form, List.mem_singleton] at member
    exact member ▸ run.settled_image listed held
  · rw [form, List.mem_singleton] at member
    exact member ▸ settled_of_missing other missing

theorem settled_of_isDelimiter (cut : isDelimiter c = true) : Settled c := by
  have held := holds_of_isDelimiter cut
  refine settled_of_missing ?_ fun run member => ?_
  · intro dotted
    have outside : delimiterRanges.holds (Char.ofNat dottedCode) = false := by decide +kernel
    have same : c = Char.ofNat dottedCode := by rw [← dotted, Char.ofNat_toNat]
    rw [same, outside] at held
    contradiction
  · apply Bool.eq_false_iff.mpr
    intro inside
    obtain ⟨low, high, _⟩ := CaseRun.holds_iff.mp inside
    have clear := List.all_eq_true.mp caseRuns_apart_delimiters run member
    rw [Ranges.not_holds_of_apart clear low high] at held
    contradiction

theorem not_isDelimiter_of_not_holds (outside : delimiterRanges.holds c = false) :
    isDelimiter c = false :=
  Bool.eq_false_iff.mpr fun cut => Bool.eq_false_iff.mp outside (holds_of_isDelimiter cut)

/-- No letter is lowercased to a delimiter. -/
theorem unbroken_lowerChar (solid : isDelimiter c = false) : Unbroken (lowerChar c) := by
  rcases lowerChar_cases c with ⟨_, form⟩ | ⟨run, listed, held, form⟩ | ⟨_, _, form⟩
  · rw [form]
    decide +kernel
  · rw [form]
    refine unbroken_cons.mpr ⟨?_, .nil⟩
    rcases toNat_ofNat_or (run.lower c.toNat) with code | zero
    · have bounds := CaseRun.lower_bounds held
      rw [← code] at bounds
      have clear := List.all_eq_true.mp caseRuns_apart_images run listed
      exact not_isDelimiter_of_not_holds (Ranges.not_holds_of_apart clear bounds.1 bounds.2)
    · rw [zero]
      decide
  · rw [form]
    exact unbroken_cons.mpr ⟨solid, .nil⟩

theorem lowerChar_ne_nil (c : Char) : lowerChar c ≠ [] := by
  rcases lowerChar_cases c with ⟨_, form⟩ | ⟨run, _, _, form⟩ | ⟨_, _, form⟩ <;> simp [form]

end Imperative.Text
