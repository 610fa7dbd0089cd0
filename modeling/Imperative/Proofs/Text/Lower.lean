import Imperative.Proofs.Text.CaseData

/-! Lowercasing inside a text. A part is lowercased between what stands before it and
what follows; only sigma looks there, and only for the nearest cased letters. Blanks are
never looked past, so a text may be lowercased apart from what a blank divides from it. -/
namespace Imperative.Text

variable {t front back w before after blanks : Text} {c : Char}

/-- A character between what precedes it, nearest character first, and what follows. -/
def lowerCharIn (before after : Text) (c : Char) : Text :=
  if c = capitalSigma then [lowerSigma before after] else lowerChar c

/-- A part of a text between what precedes it, nearest character first, and what follows. -/
def lowerIn (before : Text) : Text → Text → Text
  | [], _ => []
  | c :: cs, after => lowerCharIn before (cs ++ after) c ++ lowerIn (c :: before) cs after

theorem lowerAfter_append (before front back : Text) :
    lowerAfter before (front ++ back) =
      lowerIn before front back ++ lowerAfter (front.reverse ++ before) back := by
  induction front generalizing before with
  | nil => rfl
  | cons c cs ih =>
    rw [List.cons_append, lowerAfter, ih, lowerIn, List.append_assoc, List.reverse_cons,
      List.append_assoc, List.singleton_append]
    rfl

theorem lower_eq_lowerIn (t : Text) : lower t = lowerIn [] t [] := by
  have whole := lowerAfter_append [] t []
  rwa [List.append_nil, lowerAfter, List.append_nil] at whole

theorem lowerIn_append (before front back after : Text) :
    lowerIn before (front ++ back) after =
      lowerIn before front (back ++ after) ++ lowerIn (front.reverse ++ before) back after := by
  induction front generalizing before with
  | nil => rfl
  | cons c cs ih =>
    rw [List.cons_append, lowerIn, ih, lowerIn, List.append_assoc, List.append_assoc,
      List.reverse_cons, List.append_assoc, List.singleton_append]

/-- A cased letter is met in a text, or past it if all of it is passed over. -/
theorem meetsCased_append (front back : Text) : meetsCased (front ++ back) =
    if front.all isCaseIgnorable then meetsCased back else meetsCased front := by
  unfold meetsCased
  rw [List.dropWhile_append]
  by_cases passed : front.all isCaseIgnorable = true
  · have empty : front.dropWhile isCaseIgnorable = [] :=
      List.dropWhile_eq_nil_iff.mpr (List.all_eq_true.mp passed)
    simp [empty, passed]
  · cases met : front.dropWhile isCaseIgnorable with
    | nil => exact absurd (List.all_eq_true.mpr (List.dropWhile_eq_nil_iff.mp met)) passed
    | cons c cs => simp [passed]

theorem meetsCased_congr (front : Text) {back other : Text}
    (same : meetsCased back = meetsCased other) :
    meetsCased (front ++ back) = meetsCased (front ++ other) := by
  simp only [meetsCased_append, same]

theorem lowerSigma_congr {before after earlier later : Text}
    (back : meetsCased before = meetsCased earlier) (ahead : meetsCased after = meetsCased later) :
    lowerSigma before after = lowerSigma earlier later := by
  simp only [lowerSigma, back, ahead]

theorem meetsCased_of_ignorable (passed : t.all isCaseIgnorable = true) : meetsCased t = false := by
  have whole := meetsCased_append t []
  rwa [List.append_nil, if_pos passed] at whole

theorem lowerSigma_eq_iff {before after earlier later : Text} :
    lowerSigma before after = lowerSigma earlier later ↔
      (meetsCased before && !meetsCased after) = (meetsCased earlier && !meetsCased later) := by
  unfold lowerSigma
  cases meetsCased before && !meetsCased after <;>
    cases meetsCased earlier && !meetsCased later <;> decide

/-- Of what surrounds a part, it matters whether cased letters are met on either side. -/
theorem lowerIn_congr (t : Text) {before after earlier later : Text}
    (back : meetsCased before = meetsCased earlier) (ahead : meetsCased after = meetsCased later) :
    lowerIn before t after = lowerIn earlier t later := by
  induction t generalizing before earlier with
  | nil => rfl
  | cons c cs ih =>
    have sigma : lowerSigma before (cs ++ after) = lowerSigma earlier (cs ++ later) :=
      lowerSigma_congr back (meetsCased_congr cs ahead)
    have next : meetsCased (c :: before) = meetsCased (c :: earlier) := meetsCased_congr [c] back
    rw [lowerIn, lowerIn, ih next, lowerCharIn, lowerCharIn, sigma]

theorem length_lowerCharIn (before earlier after later : Text) (c : Char) :
    (lowerCharIn before after c).length = (lowerCharIn earlier later c).length := by
  unfold lowerCharIn
  split <;> rfl

/-- What surrounds a part decides which sigma is written, but not how many characters are. -/
theorem length_lowerIn (before earlier t after later : Text) :
    (lowerIn before t after).length = (lowerIn earlier t later).length := by
  induction t generalizing before earlier with
  | nil => rfl
  | cons c cs ih =>
    rw [lowerIn, lowerIn, List.length_append, List.length_append, ih (c :: before) (c :: earlier),
      length_lowerCharIn before earlier (cs ++ after) (cs ++ later)]

theorem lowerCharIn_eq_iff {before earlier after later : Text} {c : Char} :
    lowerCharIn before after c = lowerCharIn earlier later c ↔
      (c = capitalSigma → lowerSigma before after = lowerSigma earlier later) := by
  unfold lowerCharIn
  split
  · next sigma => simp [sigma]
  · next other => simp [other]

/-- Two lowercasings of a part differ at a sigma, if at all. -/
theorem lowerIn_eq_iff (before earlier t after later : Text) :
    lowerIn before t after = lowerIn earlier t later ↔
      ∀ front back, t = front ++ capitalSigma :: back →
        lowerSigma (front.reverse ++ before) (back ++ after) =
          lowerSigma (front.reverse ++ earlier) (back ++ later) := by
  induction t generalizing before earlier with
  | nil => simp [lowerIn]
  | cons c cs ih =>
    have length := length_lowerCharIn before earlier (cs ++ after) (cs ++ later) c
    rw [lowerIn, lowerIn, List.append_eq_append_iff_of_size_eq_left length, ih, lowerCharIn_eq_iff]
    constructor
    · rintro ⟨here, beyond⟩ front back same
      cases front with
      | nil =>
        obtain ⟨sigma, rfl⟩ := List.cons.inj same
        exact here sigma
      | cons d front =>
        obtain ⟨rfl, rfl⟩ := List.cons.inj same
        simpa using beyond front back rfl
    · intro everywhere
      refine ⟨?_, ?_⟩
      · rintro rfl
        exact everywhere [] cs rfl
      · rintro front back rfl
        simpa using everywhere (c :: front) back rfl

theorem meetsCased_cons_blank (blank : isBlankChar c = true) (rest : Text) :
    meetsCased (c :: rest) = false := by
  simp [meetsCased, blank_not_ignorable blank, blank_uncased blank]

theorem lowerCharIn_settled (settled : Settled c) (before after : Text) :
    lowerCharIn before after c = [c] := by
  rw [lowerCharIn, if_neg settled.1, settled.2]

theorem lowerIn_settled (settled : ∀ c ∈ t, Settled c) (before after : Text) :
    lowerIn before t after = t := by
  induction t generalizing before with
  | nil => rfl
  | cons c cs ih =>
    obtain ⟨first, rest⟩ := List.forall_mem_cons.mp settled
    rw [lowerIn, lowerCharIn_settled first, ih rest, List.singleton_append]

theorem lower_settled (settled : ∀ c ∈ t, Settled c) : lower t = t := by
  rw [lower_eq_lowerIn, lowerIn_settled settled]

theorem settled_of_mem_lowerIn {d : Char} (member : d ∈ lowerIn before t after) : Settled d := by
  induction t generalizing before with
  | nil => simp [lowerIn] at member
  | cons c cs ih =>
    rcases List.mem_append.mp member with first | rest
    · unfold lowerCharIn at first
      split at first
      · obtain rfl := List.mem_singleton.mp first
        unfold lowerSigma
        split <;> decide +kernel
      · exact settled_of_mem_lowerChar first
    · exact ih rest

theorem settled_of_mem_lower {d : Char} (member : d ∈ lower t) : Settled d :=
  settled_of_mem_lowerIn (lower_eq_lowerIn t ▸ member)

theorem settled_of_blank (blank : isBlank t = true) : ∀ c ∈ t, Settled c := fun c member =>
  settled_of_isDelimiter (isDelimiter_of_blank (isBlank_iff.mp blank c member))

/-- A blank divides a text into parts that are lowercased apart. -/
theorem lower_append_blank (blank : isBlank blanks = true) (nonempty : blanks ≠ [])
    (front back : Text) :
    lower (front ++ blanks ++ back) = lower front ++ blanks ++ lower back := by
  have spaces := isBlank_iff.mp blank
  have ahead : meetsCased (blanks ++ (back ++ [])) = meetsCased [] := by
    obtain ⟨c, cs, rfl⟩ := List.exists_cons_of_ne_nil nonempty
    exact meetsCased_cons_blank (spaces c (by simp)) _
  have behind : meetsCased ((front ++ blanks).reverse ++ []) = meetsCased [] := by
    obtain ⟨cs, c, rfl⟩ := List.eq_nil_or_concat blanks |>.resolve_left nonempty
    rw [List.concat_eq_append, ← List.append_assoc, List.reverse_append]
    exact meetsCased_cons_blank (spaces c (by simp)) _
  rw [lower_eq_lowerIn, lowerIn_append, lowerIn_append, lowerIn_settled (settled_of_blank blank),
    lowerIn_congr front rfl ahead, lowerIn_congr back behind rfl, ← lower_eq_lowerIn, ← lower_eq_lowerIn]

theorem meetsCased_blank (blank : isBlank t = true) : meetsCased t = false := by
  cases t with
  | nil => rfl
  | cons c cs => exact meetsCased_cons_blank (isBlank_cons.mp blank).1 cs

/-- Blanks at the ends of a text are kept, and the text between them does not see them. -/
theorem lower_padded (before : isBlank front = true) (after : isBlank back = true) (t : Text) :
    lower (front ++ t ++ back) = front ++ lower t ++ back := by
  have behind : meetsCased (front.reverse ++ []) = meetsCased [] := by
    rw [List.append_nil, meetsCased_blank (by rwa [isBlank, List.all_reverse]), meetsCased_blank rfl]
  have ahead : meetsCased (back ++ []) = meetsCased [] := by
    rw [List.append_nil, meetsCased_blank after, meetsCased_blank rfl]
  rw [lower_eq_lowerIn, lowerIn_append, lowerIn_append, lowerIn_settled (settled_of_blank before),
    lowerIn_settled (settled_of_blank after), lowerIn_congr t behind ahead, ← lower_eq_lowerIn]

/-! Lowercasing changes no delimiter and makes none. -/

theorem lowerIn_delimiter (cut : isDelimiter c = true) (before after rest : Text) :
    lowerIn before (c :: rest) after = c :: lowerIn (c :: before) rest after := by
  rw [lowerIn, lowerCharIn_settled (settled_of_isDelimiter cut), List.singleton_append]

theorem unbroken_lowerCharIn (solid : isDelimiter c = false) (before after : Text) :
    Unbroken (lowerCharIn before after c) := by
  unfold lowerCharIn
  split
  · unfold lowerSigma
    split <;> decide
  · exact unbroken_lowerChar solid

theorem unbroken_lowerIn (unbroken : Unbroken w) (before after : Text) :
    Unbroken (lowerIn before w after) := by
  induction w generalizing before with
  | nil => exact .nil
  | cons c cs ih =>
    obtain ⟨solid, rest⟩ := unbroken_cons.mp unbroken
    exact unbroken_append.mpr ⟨unbroken_lowerCharIn solid _ _, ih rest _⟩

theorem lowerIn_eq_nil_iff : lowerIn before t after = [] ↔ t = [] := by
  cases t with
  | nil => simp [lowerIn]
  | cons c cs =>
    have first : lowerCharIn before (cs ++ after) c ≠ [] := by
      unfold lowerCharIn
      split
      · simp
      · exact lowerChar_ne_nil c
    simp [lowerIn, first]

theorem lower_eq_nil_iff : lower t = [] ↔ t = [] := by
  rw [lower_eq_lowerIn, lowerIn_eq_nil_iff]

theorem lowerIn_cut (before w rest after : Text) (cut : isDelimiter c = true) :
    lowerIn before (w ++ c :: rest) after = lowerIn before w (c :: (rest ++ after)) ++
      c :: lowerIn (c :: (w.reverse ++ before)) rest after := by
  rw [lowerIn_append, lowerIn_delimiter cut]
  rfl

theorem isBlank_lowerIn (before t after : Text) : isBlank (lowerIn before t after) = isBlank t := by
  induction t generalizing before with
  | nil => rfl
  | cons c cs ih =>
    cases cut : isDelimiter c with
    | true =>
      rw [lowerIn_delimiter cut]
      exact congrArg (isBlankChar c && ·) (ih _)
    | false =>
      have solid : isBlankChar c = false := isBlankChar_of_not_delimiter cut
      have single : Unbroken [c] := unbroken_cons.mpr ⟨cut, .nil⟩
      have staysSolid : isBlank (lowerIn before [c] (cs ++ after)) = false :=
        (unbroken_lowerIn single before (cs ++ after)).not_blank
          (mt lowerIn_eq_nil_iff.mp (List.cons_ne_nil c []))
      have split := lowerIn_append before [c] cs after
      rw [List.singleton_append] at split
      rw [split, isBlank, List.all_append, isBlank, List.all_cons, solid, Bool.false_and]
      exact Bool.and_eq_false_imp.mpr fun blank => absurd blank (Bool.eq_false_iff.mp staysSolid)

theorem isBlank_lower (t : Text) : isBlank (lower t) = isBlank t := by
  rw [lower_eq_lowerIn, isBlank_lowerIn]

/-- A text without blanks is lowercased to one without blanks, whatever delimiters are in it. -/
theorem solid_lowerIn (solid : ∀ c ∈ t, isBlankChar c = false) (before after : Text) :
    ∀ c ∈ lowerIn before t after, isBlankChar c = false := by
  induction t generalizing before with
  | nil => exact fun _ member => nomatch member
  | cons c cs ih =>
    obtain ⟨first, rest⟩ := List.forall_mem_cons.mp solid
    refine List.forall_mem_append.mpr ⟨?_, ih rest _⟩
    cases cut : isDelimiter c with
    | true =>
      rw [lowerCharIn_settled (settled_of_isDelimiter cut)]
      exact List.forall_mem_singleton.mpr first
    | false =>
      have unbroken := unbroken_lowerCharIn cut before (cs ++ after)
      exact fun d member => isBlankChar_of_not_delimiter (unbroken d member)

theorem solid_lower (solid : ∀ c ∈ t, isBlankChar c = false) :
    ∀ c ∈ lower t, isBlankChar c = false :=
  lower_eq_lowerIn t ▸ solid_lowerIn solid [] []

theorem solid_head?_lowerIn (solid : ∀ c ∈ t.head?, isBlankChar c = false) (before after : Text) :
    ∀ c ∈ (lowerIn before t after).head?, isBlankChar c = false := by
  cases t with
  | nil => exact fun _ member => nomatch member
  | cons c cs =>
    have nonempty : lowerIn before [c] (cs ++ after) ≠ [] := by simp [lowerIn_eq_nil_iff]
    rw [← List.singleton_append, lowerIn_append, List.head?_append_of_ne_nil _ nonempty]
    have first : ∀ d ∈ [c], isBlankChar d = false := by simpa using solid
    exact fun d member => solid_lowerIn first _ _ d (List.mem_of_head? member)

theorem solid_getLast?_lowerIn (solid : ∀ c ∈ t.getLast?, isBlankChar c = false) (before after : Text) :
    ∀ c ∈ (lowerIn before t after).getLast?, isBlankChar c = false := by
  rcases List.eq_nil_or_concat t with rfl | ⟨cs, c, rfl⟩
  · exact fun _ member => nomatch member
  · have nonempty : lowerIn (cs.reverse ++ before) [c] after ≠ [] := by simp [lowerIn_eq_nil_iff]
    rw [List.concat_eq_append, lowerIn_append, List.getLast?_append_of_ne_nil _ nonempty]
    have last : ∀ d ∈ [c], isBlankChar d = false := by simpa using solid
    exact fun d member => solid_lowerIn last _ _ d (List.mem_of_getLast? member)

/-- Trimming and lowercasing can change places. -/
theorem trim_lower (t : Text) : trim (lower t) = lower (trim t) := by
  obtain ⟨front, back, whole, before, after⟩ := trim_split t
  have padded : lower t = front ++ lower (trim t) ++ back :=
    (congrArg lower whole).trans (lower_padded before after _)
  rw [padded, trim_append_blank after, trim_blank_append before, lower_eq_lowerIn]
  exact trim_eq_self (solid_head?_lowerIn head?_trim [] [])
    (solid_getLast?_lowerIn getLast?_trim [] [])

end Imperative.Text
