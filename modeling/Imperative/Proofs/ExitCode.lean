import Imperative.Proofs.Evaluation
import Imperative.Proofs.Progress

/-! How the program ends. It is refused its arguments, it shows a text, it cannot start, or it
serves a session; each way comes before the ones after it. A session of the program fails
only over a line of its arguments that is too long, if no read of its input fails. -/
namespace Imperative
open Text Line

variable {script : List Read} {limit : Nat}

/-- Whatever a script asks for, only a read that fails breaks the conversation off. -/
theorem Script.result_of_steady (steady : ∀ fault, .failed fault ∉ script) :
    result limit script = .ok () := by
  induction script with
  | nil => rfl
  | cons read rest ih =>
    have later := ih fun fault member => steady fault (List.mem_cons_of_mem read member)
    cases read with
    | line typed => exact result_cons_line later typed
    | interrupted => exact later
    | failed fault => exact absurd List.mem_cons_self (steady fault)
    | finished => rfl

namespace Session

theorem run_result (session : Session) (script : List Read) :
    (session.run script).result = Script.result session.settings.maxLength script :=
  congrArg Conversation.result (converse_eq session script)

/-- A batch fails if one of its lines is too long, and else it does not. -/
theorem batch_result_cases (session : Session) (lines : List Text) :
    ((∃ line ∈ lines.takeWhile (!isQuit ·), session.Overlong line) ∧
      ∃ fault, (session.batch lines).2 = .error fault) ∨
    ((¬ ∃ line ∈ lines.takeWhile (!isQuit ·), session.Overlong line) ∧
      ∃ reports, (session.batch lines).2 = .ok reports) := by
  by_cases exceeds : ∃ line ∈ lines.takeWhile (!isQuit ·), session.Overlong line
  · obtain ⟨before, line, after, split, within, here⟩ := exists_first exceeds
    exact .inl ⟨exceeds, _, congrArg Prod.snd (batch_broken split within here)⟩
  · have within : ∀ line ∈ lines.takeWhile (!isQuit ·), ¬ session.Overlong line :=
      fun line member here => exceeds ⟨line, member, here⟩
    exact .inr ⟨exceeds, _, congrArg Prod.snd (batch_within within)⟩

end Session

namespace Program

variable {read : Text → Except ReadFault Text} {asked : Option Text} {arguments : List Text}
  {options : Options}

/-- The arguments are refused. -/
def Refused (arguments : List Text) : Prop := ∃ refusal, Options.parse arguments = .error refusal

/-- The arguments ask for a session: neither for help nor for the version. -/
def Serves (arguments : List Text) (options : Options) : Prop :=
  Options.parse arguments = .ok options ∧ options.help = false ∧ options.version = false

/-- There is no session with these options: lines may have no characters, or the file of the
vocabulary gives no text, or it gives one that is no vocabulary. -/
inductive Unstartable (read : Text → Except ReadFault Text) (options : Options) : Prop
  | noLength (zero : options.maxLength = some 0)
  | unreadable {path : Text} {fault : ReadFault} (chosen : options.lexicon = some path)
    (fails : read path = .error fault)
  | misread {path source : Text} {misprint : Lexicon.Misprint}
    (chosen : options.lexicon = some path) (text : read path = .ok source)
    (fails : Lexicon.read source = .error misprint)

/-- One of the command lines before the quit word is not blank and is longer than lines may be. -/
def Overrun (options : Options) : Prop :=
  ∃ line ∈ options.commands.takeWhile (!isQuit ·),
    isBlank line = false ∧ options.maxLength.getD 80 < line.length

theorem maxLength_eq_zero_iff : options.settings.maxLength = 0 ↔ options.maxLength = some 0 := by
  have limit : options.settings.maxLength = options.maxLength.getD 80 := rfl
  rw [limit]
  cases options.maxLength <;> simp

theorem readLexicon_fails_iff {path : Text} :
    (∃ fault, Settings.readLexicon read path = .error fault) ↔ (∃ fault, read path = .error fault) ∨
      ∃ source misprint, read path = .ok source ∧ Lexicon.read source = .error misprint := by
  unfold Settings.readLexicon
  cases read path with
  | error fault => simp
  | ok source => cases written : Lexicon.read source <;> simp [written]

theorem unstartable_iff : Unstartable read options ↔ options.maxLength = some 0 ∨
    ∃ path, options.lexicon = some path ∧ ∃ fault, Settings.readLexicon read path = .error fault := by
  constructor
  · rintro (zero | ⟨chosen, fails⟩ | ⟨chosen, text, fails⟩)
    · exact .inl zero
    · exact .inr ⟨_, chosen, readLexicon_fails_iff.mpr (.inl ⟨_, fails⟩)⟩
    · exact .inr ⟨_, chosen, readLexicon_fails_iff.mpr (.inr ⟨_, _, text, fails⟩)⟩
  · rintro (zero | ⟨path, chosen, failed⟩)
    · exact .noLength zero
    · rcases readLexicon_fails_iff.mp failed with ⟨fault, fails⟩ | ⟨source, misprint, text, fails⟩
      · exact .unreadable chosen fails
      · exact .misread chosen text fails

/-- A session has the settings of the options, unless one of the reasons keeps it from
starting. -/
theorem start_cases (read : Text → Except ReadFault Text) (options : Options) :
    (Unstartable read options ∧ ∃ fault, Session.start read options.settings = .error fault) ∨
    (¬ Unstartable read options ∧ ∃ lexicon notes, Session.start read options.settings =
      .ok (⟨lexicon, options.settings⟩, notes)) := by
  rw [unstartable_iff, ← maxLength_eq_zero_iff]
  have file : options.settings.lexiconFile = options.lexicon := rfl
  unfold Session.start Settings.validate Settings.loadLexicon
  rw [file]
  by_cases zero : options.settings.maxLength = 0
  · exact .inl ⟨.inl zero, by simp [zero]⟩
  · cases chosen : options.lexicon with
    | none => exact .inr ⟨by simp [zero], .standard, [], by simp [zero]⟩
    | some path =>
      cases loaded : Settings.readLexicon read path with
      | error fault => exact .inl ⟨.inr ⟨path, rfl, fault, loaded⟩, fault, by simp [zero, loaded]⟩
      | ok lexicon => exact .inr ⟨by simp [zero, loaded], lexicon, _, by simp [zero, loaded]; rfl⟩

/-- A session that has started fails over an overrun, and over nothing else. -/
theorem work_cases (steady : ∀ fault, .failed fault ∉ script) (lexicon : Lexicon)
    (options : Options) :
    let done := (work ⟨lexicon, options.settings⟩ options.commands).follow script
    (Overrun options ∧ done.code = 1) ∨ (¬ Overrun options ∧ done.code = 0) := by
  unfold work
  cases empty : options.commands.isEmpty with
  | true =>
    have none : options.commands = [] := List.isEmpty_iff.mp empty
    right
    refine ⟨by simp [Overrun, none], ?_⟩
    simp only [if_true, follow_converse, Session.run_result, Script.result_of_steady steady,
      conclude]
  | false =>
    rcases Session.batch_result_cases ⟨lexicon, options.settings⟩ options.commands with
      ⟨exceeds, fault, failed⟩ | ⟨within, reports, done⟩
    · exact .inl ⟨exceeds, by simp [failed, conclude]⟩
    · exact .inr ⟨within, by simp [done, conclude]⟩

/-- The program fails before there is a session: its arguments are refused, or they ask for a
session that cannot start. -/
def FailsAtStart (read : Text → Except ReadFault Text) (arguments : List Text) : Prop :=
  Refused arguments ∨ ∃ options, Serves arguments options ∧ Unstartable read options

theorem Serves.unique {other : Options} (serves : Serves arguments options)
    (again : Serves arguments other) : other = options :=
  Except.ok.inj (again.1.symm.trans serves.1)

theorem not_refused (parsed : Options.parse arguments = .ok options) : ¬ Refused arguments := by
  rintro ⟨refusal, refused⟩
  rw [parsed] at refused
  contradiction

/-- Options that ask for help or for the version leave no session to serve. -/
theorem not_serves_of_asks (parsed : Options.parse arguments = .ok options)
    (asks : options.help = true ∨ options.version = true) (other : Options) :
    ¬ Serves arguments other := by
  rintro ⟨again, help, version⟩
  obtain rfl := Except.ok.inj (parsed.symm.trans again)
  rcases asks with asks | asks
  · rw [help] at asks
    contradiction
  · rw [version] at asks
    contradiction

theorem Serves.not_failsAtStart (serves : Serves arguments options)
    (able : ¬ Unstartable read options) : ¬ FailsAtStart read arguments := by
  rintro (refused | ⟨other, again, reason⟩)
  · exact not_refused serves.1 refused
  · obtain rfl := serves.unique again
    exact able reason

/-- The ways in which the program opens: it fails at the start, with a notice and nothing
else, it shows a text that was asked for, or a session is there to do its work. -/
theorem opening_cases (read : Text → Except ReadFault Text) (arguments : List Text) :
    (FailsAtStart read arguments ∧
      ∃ message, opening read arguments = .ended ⟨[failureNotice message], 1⟩) ∨
    (¬ Refused arguments ∧ (∀ options, ¬ Serves arguments options) ∧
      ∃ text, opening read arguments = .ended ⟨[.sayLine text], 0⟩) ∨
    ∃ options lexicon notes, Serves arguments options ∧ ¬ Unstartable read options ∧
      opening read arguments = (work ⟨lexicon, options.settings⟩ options.commands).after notes := by
  unfold opening
  cases parsed : Options.parse arguments with
  | error refusal => exact .inl ⟨.inl ⟨refusal, parsed⟩, refusal.message, rfl⟩
  | ok options =>
    by_cases asks : options.help = true ∨ options.version = true
    · refine .inr (.inl ⟨not_refused parsed, not_serves_of_asks parsed asks, ?_⟩)
      dsimp only
      split
      · exact ⟨helpText, rfl⟩
      · next help => exact ⟨versionText, if_pos (asks.resolve_left help)⟩
    · have serves : Serves arguments options :=
        ⟨parsed, by simpa using (not_or.mp asks).1, by simpa using (not_or.mp asks).2⟩
      simp only [serves.2.1, serves.2.2, serve, Bool.false_eq_true, if_false]
      rcases start_cases read options with
        ⟨reason, fault, failed⟩ | ⟨able, lexicon, notes, started⟩
      · refine .inl ⟨.inr ⟨options, serves, reason⟩, fault.message, ?_⟩
        rw [failed]
        rfl
      · refine .inr (.inr ⟨options, lexicon, notes, serves, able, ?_⟩)
        rw [started]

theorem run_of_ended {done : Conclusion} (opened : opening read arguments = .ended done)
    (asked : Option Text) (script : List Read) : run read asked arguments script =
      ⟨withFilter (logFilter asked arguments) done.events, done.code⟩ := by
  rw [run, opened, follow_ended]

/-- The exit code of the program is one or nought, and it is one for these reasons only: the
arguments are refused; or they ask neither for help nor for the version, and lines may have
no characters, or the file of the vocabulary gives no text or none that is a vocabulary, or
a command line before the quit word is too long. For all but the last reason nothing is
shown and no command is carried out. The reads of the input must not fail. -/
theorem exit_code_exactly (steady : ∀ fault, .failed fault ∉ script)
    (read : Text → Except ReadFault Text) (asked : Option Text) (arguments : List Text) :
    let done := run read asked arguments script
    (done.code = 1 ↔ Refused arguments ∨
      ∃ options, Serves arguments options ∧ (Unstartable read options ∨ Overrun options)) ∧
    (done.code = 0 ∨ done.code = 1) ∧
    (Refused arguments ∨ (∃ options, Serves arguments options ∧ Unstartable read options) →
      done.events.shown = [] ∧ done.events.carriedOut = []) := by
  intro done
  have reasons : (Refused arguments ∨
        ∃ options, Serves arguments options ∧ (Unstartable read options ∨ Overrun options)) ↔
      FailsAtStart read arguments ∨ ∃ options, Serves arguments options ∧ Overrun options := by
    simp only [FailsAtStart, and_or_left, exists_or, or_assoc]
  rw [reasons]
  rcases opening_cases read arguments with
    ⟨fails, message, opened⟩ | ⟨given, idle, text, opened⟩ |
    ⟨options, lexicon, notes, serves, able, opened⟩
  · have ended : done = ⟨[failureNotice message], 1⟩ := run_of_ended opened asked script
    rw [ended]
    exact ⟨iff_of_true rfl (.inl fails), .inr rfl, fun _ => ⟨rfl, rfl⟩⟩
  · have started : ¬ FailsAtStart read arguments := by
      rintro (refused | ⟨options, serves, _⟩)
      · exact given refused
      · exact idle options serves
    have ended : done.code = 0 := congrArg Conclusion.code (run_of_ended opened asked script)
    refine ⟨iff_of_false (by simp [ended]) ?_, .inl ended, fun fails => absurd fails started⟩
    rintro (fails | ⟨options, serves, _⟩)
    · exact started fails
    · exact idle options serves
  · have started := serves.not_failsAtStart able
    have code : done.code =
        ((work ⟨lexicon, options.settings⟩ options.commands).follow script).code := by
      simp only [done, run, opened, follow_after, Conclusion.after]
    rcases work_cases steady lexicon options with ⟨overrun, one⟩ | ⟨within, nought⟩
    · have ended : done.code = 1 := code.trans one
      exact ⟨iff_of_true ended (.inr ⟨options, serves, overrun⟩), .inr ended,
        fun fails => absurd fails started⟩
    · have ended : done.code = 0 := code.trans nought
      refine ⟨iff_of_false (by simp [ended]) ?_, .inl ended, fun fails => absurd fails started⟩
      rintro (fails | ⟨other, again, overrun⟩)
      · exact started fails
      · obtain rfl := serves.unique again
        exact within overrun

/-- Lines of input are read without failures. -/
theorem failed_not_mem_reads (input : Text) (fault : Fault) : .failed fault ∉ reads input := by
  intro member
  obtain ⟨line, _, same⟩ := List.mem_map.mp member
  contradiction

/-- A command line of six characters where five are allowed; the same behind the quit word,
where it does no harm; and a vocabulary with a line that has no colon, which is found before
any command line. -/
theorem exit_code_exactly_at_six :
    let read : Text → Except ReadFault Text := fun path =>
      if path = "words".toList then .ok "verb: xyzzy".toList else .ok "verb xyzzy".toList
    let script := reads "xyzzy\n".toList
    let beyond := ["-l", "words", "-c", "xyzzy", "--max-length", "5", "-c",
      "xyzzy!"].map String.toList
    let within := ["-l", "words", "-c", "xyzzy", "--max-length", "5", "-c", " Quit", "-c",
      "xyzzy!"].map String.toList
    let barred := ["-c", "xyzzy", "-l", "other"].map String.toList
    (∀ fault, .failed fault ∉ script) ∧ (run read none beyond script).code = 1 ∧
    (run read none within script).code = 0 ∧ (run read none barred script).code = 1 ∧
    FailsAtStart read barred ∧ (run read none barred script).events.shown = [] ∧
    (run read none barred script).events.carriedOut = [] := by
  intro read script beyond within barred
  have steady := failed_not_mem_reads "xyzzy\n".toList
  let five : Options :=
    { lexicon := "words".toList, maxLength := some 5,
      commands := ["xyzzy".toList, "xyzzy!".toList] }
  let other : Options := { lexicon := "other".toList, commands := ["xyzzy".toList] }
  have asked : Serves beyond five := ⟨by decide +kernel, rfl, rfl⟩
  have six : Overrun five := ⟨"xyzzy!".toList, by decide +kernel, by decide, by decide⟩
  have text : read "other".toList = .ok "verb xyzzy".toList := rfl
  have noColon : Lexicon.read "verb xyzzy".toList = .error ⟨1, .noColon "verb xyzzy".toList⟩ := rfl
  have serves : Serves barred other := ⟨by decide +kernel, rfl, rfl⟩
  have misread : Unstartable read other := .misread rfl text noColon
  have fails : FailsAtStart read barred := .inr ⟨other, serves, misread⟩
  obtain ⟨reason, _, _⟩ := exit_code_exactly steady read none beyond
  obtain ⟨cause, _, silent⟩ := exit_code_exactly steady read none barred
  obtain ⟨shown, carried⟩ := silent fails
  refine ⟨steady, reason.mpr (.inr ⟨five, asked, .inr six⟩), ?_,
    cause.mpr (.inr ⟨other, serves, .inl misread⟩), fails, shown, carried⟩
  decide +kernel

end Program
end Imperative
