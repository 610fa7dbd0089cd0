import Imperative.Options

/-! Arguments in two lists. Reading goes on from the options that were read before, and these
only add to what the later arguments give. So two lists in a row are read as the first and the
second apart, put together; only a setting at the end of the first takes its value from the
second. -/
namespace Imperative

/-- No spelling is both that of a setting and that of a switch. -/
theorem Switch.ofText?_of_setting {argument : Text} {setting : Setting}
    (named : Setting.ofText? argument = some setting) : ofText? argument = none := by
  have apart : ∀ setting : Setting, ∀ spelling ∈ setting.spellings, ofText? spelling = none := by
    intro setting
    cases setting <;> decide
  have spelled := List.find?_some named
  exact apart setting argument (List.contains_iff_mem.mp spelled)

namespace Options

variable {given next : Options} {front rest : List Text} {argument value : Text}
  {refusal : Refusal} {switch : Switch} {setting : Setting}

/-- Options put together: a switch is on if it is on in either, a setting of the second
replaces that of the first, and the command lines of the second come after those of the first. -/
def merge (first second : Options) : Options where
  help := first.help || second.help
  version := first.version || second.version
  quiet := first.quiet || second.quiet
  verbose := first.verbose || second.verbose
  prompt := second.prompt.or first.prompt
  maxLength := second.maxLength.or first.maxLength
  lexicon := second.lexicon.or first.lexicon
  commands := first.commands ++ second.commands

theorem merge_default (first : Options) : first.merge {} = first := by simp [merge]

theorem turnOn_merge (first second : Options) (switch : Switch) :
    (first.merge second).turnOn switch = first.merge (second.turnOn switch) := by
  cases switch <;> simp [turnOn, merge]

theorem assign_merge (first second : Options) (setting : Setting) (value : Text) :
    (first.merge second).assign setting value = (second.assign setting value).map first.merge := by
  cases setting with
  | prompt => rfl
  | lexicon => rfl
  | command => simp [assign, merge, Except.map]
  | maxLength =>
    unfold assign
    cases Text.natural? value <;> rfl

/-- Only a value for the length is ever refused. -/
theorem refusal_of_assign (refused : given.assign setting value = .error refusal) :
    refusal = .badLength value := by
  cases setting with
  | prompt => contradiction
  | lexicon => contradiction
  | command => contradiction
  | maxLength =>
    unfold assign at refused
    cases number : Text.natural? value with
    | some length => simp [number] at refused
    | none =>
      simp only [number] at refused
      exact (Except.error.inj refused).symm

/-! One option of the arguments. -/

theorem parseAfter_switch (named : Switch.ofText? argument = some switch) (rest : List Text) :
    parseAfter given (argument :: rest) = parseAfter (given.turnOn switch) rest := by
  rw [parseAfter.eq_def]
  simp only [named]

theorem parseAfter_unknown (other : Switch.ofText? argument = none)
    (neither : Setting.ofText? argument = none) (rest : List Text) :
    parseAfter given (argument :: rest) = .error (.unknownOption argument) := by
  rw [parseAfter.eq_def]
  simp only [other, neither]

theorem parseAfter_missing (named : Setting.ofText? argument = some setting) :
    parseAfter given [argument] = .error (.missingValue setting) := by
  rw [parseAfter.eq_def]
  simp only [Switch.ofText?_of_setting named, named]

theorem parseAfter_setting (named : Setting.ofText? argument = some setting) (value : Text)
    (rest : List Text) : parseAfter given (argument :: value :: rest) =
      (given.assign setting value).bind (parseAfter · rest) := by
  rw [parseAfter.eq_def]
  simp only [Switch.ofText?_of_setting named, named]
  cases given.assign setting value <;> rfl

/-! A list of arguments. -/

/-- What was read before only adds to what the arguments give, at every step of the reading. -/
theorem parseAfter_merge (first second : Options) (arguments : List Text) :
    parseAfter (first.merge second) arguments = (parseAfter second arguments).map first.merge := by
  induction second, arguments using parseAfter.induct with
  | case1 => rfl
  | case2 second argument rest switch named ih =>
    rw [parseAfter_switch named, parseAfter_switch named, turnOn_merge, ih]
  | case3 second argument rest other neither =>
    rw [parseAfter_unknown other neither, parseAfter_unknown other neither]
    rfl
  | case4 second argument other setting named =>
    rw [parseAfter_missing named, parseAfter_missing named]
    rfl
  | case5 second argument other setting named value rest refusal refused =>
    rw [parseAfter_setting named, parseAfter_setting named, assign_merge, refused]
    rfl
  | case6 second argument other setting named value rest next fits ih =>
    rw [parseAfter_setting named, parseAfter_setting named, assign_merge, fits]
    exact ih

theorem parseAfter_eq (given : Options) (arguments : List Text) :
    parseAfter given arguments = (parse arguments).map given.merge := by
  rw [parse, ← parseAfter_merge, merge_default]

/-- How arguments are read, and how they are with more behind them: to their end, up to an
option that is refused, or up to a setting that is the last of them. -/
inductive Course (given : Options) (arguments : List Text) : Prop
  | through (next : Options) (result : parseAfter given arguments = .ok next)
    (goesOn : ∀ more, parseAfter given (arguments ++ more) = parseAfter next more)
  | refused (refusal : Refusal) (other : ∀ setting, refusal ≠ .missingValue setting)
    (result : parseAfter given arguments = .error refusal)
    (stays : ∀ more, parseAfter given (arguments ++ more) = .error refusal)
  | waiting (front : List Text) (argument : Text) (setting : Setting) (next : Options)
    (split : arguments = front ++ [argument])
    (named : Setting.ofText? argument = some setting)
    (before : parseAfter given front = .ok next)
    (result : parseAfter given arguments = .error (.missingValue setting))

/-- Arguments that have been read through do not change the course of the later ones. -/
theorem Course.behind (later : Course next rest) (front : List Text)
    (reads : ∀ more, parseAfter given (front ++ more) = parseAfter next more) :
    Course given (front ++ rest) := by
  cases later with
  | through after result goesOn =>
    refine .through after ((reads rest).trans result) fun more => ?_
    rw [List.append_assoc, reads, goesOn]
  | refused refusal other result stays =>
    refine .refused refusal other ((reads rest).trans result) fun more => ?_
    rw [List.append_assoc, reads, stays]
  | waiting start argument setting after split named before result =>
    refine .waiting (front ++ start) argument setting after ?_ named ((reads start).trans before)
      ((reads rest).trans result)
    rw [split, List.append_assoc]

/-- Every list of arguments takes one of the courses. A value is read together with its setting,
so none is taken for an option. -/
theorem course (given : Options) (arguments : List Text) : Course given arguments := by
  induction given, arguments using parseAfter.induct with
  | case1 given => exact .through given rfl fun more => rfl
  | case2 given argument rest switch named ih =>
    exact ih.behind [argument] (parseAfter_switch named)
  | case3 given argument rest other neither =>
    have refuses : ∀ more, parseAfter given (argument :: more) = .error (.unknownOption argument) :=
      parseAfter_unknown other neither
    exact .refused _ (by simp) (refuses rest) fun more => refuses (rest ++ more)
  | case4 given argument other setting named =>
    exact .waiting [] argument setting given rfl named rfl (parseAfter_missing named)
  | case5 given argument other setting named value rest refusal refused =>
    obtain rfl := refusal_of_assign refused
    have refuses (more : List Text) :
        parseAfter given (argument :: value :: more) = .error (.badLength value) := by
      rw [parseAfter_setting named, refused]
      rfl
    exact .refused _ (by simp) (refuses rest) fun more => refuses (rest ++ more)
  | case6 given argument other setting named value rest next fits ih =>
    refine ih.behind [argument, value] fun more => ?_
    rw [List.cons_append, List.cons_append, parseAfter_setting named, fits]
    rfl

/-! Two lists of arguments. -/

/-- Behind arguments that are read, reading goes on from the options that they gave. -/
theorem parse_append_of_ok (read : parse front = .ok given) (more : List Text) :
    parse (front ++ more) = parseAfter given more := by
  cases course {} front with
  | through next result goesOn =>
    obtain rfl := Except.ok.inj (result.symm.trans read)
    exact goesOn more
  | refused refusal other result stays => exact absurd (result.symm.trans read) nofun
  | waiting start argument setting next split named before result =>
    exact absurd (result.symm.trans read) nofun

theorem parse_append_of_error (refuses : parse front = .error refusal)
    (other : ∀ setting, refusal ≠ .missingValue setting) (more : List Text) :
    parse (front ++ more) = .error refusal := by
  cases course {} front with
  | through next result goesOn => exact absurd (result.symm.trans refuses) nofun
  | refused first _ result stays =>
    obtain rfl := Except.error.inj (result.symm.trans refuses)
    exact stays more
  | waiting start argument setting next split named before result =>
    exact absurd (Except.error.inj (refuses.symm.trans result)) (other setting)

/-- A value is missing exactly where the arguments end in a setting. -/
theorem missingValue_iff {arguments : List Text} :
    parse arguments = .error (.missingValue setting) ↔ ∃ front argument given,
      arguments = front ++ [argument] ∧ Setting.ofText? argument = some setting ∧
      parse front = .ok given := by
  constructor
  · intro missing
    cases course {} arguments with
    | through next result goesOn => exact absurd (result.symm.trans missing) nofun
    | refused refusal other result stays =>
      exact absurd (Except.error.inj (result.symm.trans missing)) (other setting)
    | waiting front argument last next split named before result =>
      obtain rfl := Refusal.missingValue.inj (Except.error.inj (result.symm.trans missing))
      exact ⟨front, argument, next, split, named, before⟩
  · rintro ⟨front, argument, given, rfl, named, before⟩
    rw [parse_append_of_ok before, parseAfter_missing named]

/-- Arguments compose. If the first list is read, then with a second one behind it the result is
the refusal of the second, or the options of both put together. If the first is refused for
anything but a missing value, it stays refused. A value is missing only where the arguments end
in a setting, and then the first argument of the second list is the value. -/
theorem arguments_compose (a b : List Text) :
    (∀ first, parse a = .ok first → parse (a ++ b) = (parse b).map first.merge) ∧
    (∀ refusal, parse a = .error refusal → (∀ setting, refusal ≠ .missingValue setting) →
      parse (a ++ b) = .error refusal) ∧
    (∀ setting, parse a = .error (.missingValue setting) ↔ ∃ front argument given,
      a = front ++ [argument] ∧ Setting.ofText? argument = some setting ∧
      parse front = .ok given) ∧
    ∀ front argument setting given, parse front = .ok given →
      Setting.ofText? argument = some setting → ∀ value, parse (front ++ argument :: value :: b) =
        (given.assign setting value).bind fun next => (parse b).map next.merge := by
  refine ⟨?_, ?_, fun setting => missingValue_iff, ?_⟩
  · intro first read
    rw [parse_append_of_ok read, parseAfter_eq]
  · intro refusal refuses other
    exact parse_append_of_error refuses other b
  · intro front argument setting given read named value
    rw [parse_append_of_ok read, parseAfter_setting named]
    simp only [parseAfter_eq]

/-- An option is taken as the prompt, and later as a switch. The second list sets the prompt
again; where it is refused itself, or the first one is, there are no options; and where the
first ends in a setting, the second begins with the value. -/
theorem arguments_compose_at_prompt :
    let a := ["-p", "-q", "--command", "look", "-l", "a.lex"].map String.toList
    let b := ["-q", "--prompt", "> ", "-c", "go", "--max-length", "+7"].map String.toList
    let first : Options :=
      { prompt := "-q".toList, lexicon := "a.lex".toList, commands := ["look".toList] }
    let second : Options :=
      { quiet := true, prompt := "> ".toList, maxLength := some 7, commands := ["go".toList] }
    parse a = .ok first ∧ parse b = .ok second ∧
    parse (a ++ b) = .ok
      { quiet := true, prompt := "> ".toList, maxLength := some 7, lexicon := "a.lex".toList,
        commands := ["look".toList, "go".toList] } ∧
    parse (a ++ ["-x".toList]) = .error (.unknownOption "-x".toList) ∧
    parse (["--max-length", "-1"].map String.toList ++ b) = .error (.badLength "-1".toList) ∧
    parse (["-v", "-l"].map String.toList ++ b) =
      .ok { second with verbose := true, quiet := false, lexicon := "-q".toList } := by
  intro a b first second
  have read : parse a = .ok first := rfl
  have other : parse b = .ok second := rfl
  have refused : parse ["-x".toList] = .error (.unknownOption "-x".toList) := rfl
  have bad : parse (["--max-length", "-1"].map String.toList) = .error (.badLength "-1".toList) :=
    rfl
  have rest : parse b.tail = .ok { second with quiet := false } := rfl
  have verbose : parse ["-v".toList] = .ok { verbose := true } := rfl
  have joined := (arguments_compose a b).1 first read
  have broken := (arguments_compose a ["-x".toList]).1 first read
  have stays := (arguments_compose _ b).2.1 _ bad (by simp)
  have taken := (arguments_compose [] b.tail).2.2.2 _ "-l".toList .lexicon _ verbose (by decide)
    "-q".toList
  rw [other] at joined
  rw [refused] at broken
  rw [rest] at taken
  exact ⟨read, other, joined, broken, stays, taken⟩

end Options
end Imperative
