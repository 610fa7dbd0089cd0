import Imperative.Proofs.Answering

/-! Whole conversations. A conversation is heard up to the first read that ends it; of
what is heard, every line that is not blank is remembered and answered, cut to the limit.
Nothing after the ending is asked for, and the farewell tells how it was ended. -/
namespace Imperative
open Text

/-! What a script of reads asks for, whoever answers it. -/

namespace Read

/-- The text that a read gives: a line that is not blank, cut to the limit. -/
def text? (limit : Nat) : Read → Option Text
  | .line typed => if isBlank typed then none else some (typed.take limit)
  | .interrupted | .failed _ | .finished => none

/-- How a read ends a conversation, if it does. -/
def ending? (limit : Nat) : Read → Option (Except Fault Unit)
  | .line typed => if (text? limit (.line typed)).any Line.isQuit then some (.ok ()) else none
  | .interrupted => none
  | .failed fault => some (.error fault)
  | .finished => some (.ok ())

/-- The text that a read gives to be answered: any but the quit word. -/
def answered? (limit : Nat) (read : Read) : Option Text :=
  (read.text? limit).filter (!Line.isQuit ·)

variable {limit : Nat} {read : Read}

theorem answered_of_on (on : read.ending? limit = none) :
    read.answered? limit = read.text? limit := by
  cases read with
  | line typed =>
    cases given : text? limit (.line typed) with
    | none => simp [answered?, given]
    | some text =>
      have goesOn : Line.isQuit text = false := by simpa [ending?, given] using on
      simp [answered?, given, goesOn]
  | interrupted => rfl
  | failed fault => contradiction
  | finished => contradiction

theorem answered_of_ending (ends : read.ending? limit ≠ none) : read.answered? limit = none := by
  cases read with
  | line typed =>
    cases given : text? limit (.line typed) with
    | none => simp [answered?, given]
    | some text =>
      have quits : Line.isQuit text = true := by simpa [ending?, given] using ends
      simp [answered?, given, quits]
  | interrupted => rfl
  | failed fault => rfl
  | finished => rfl

end Read

namespace Script

/-- The reads before the first one that ends the conversation. -/
def heard (limit : Nat) (script : List Read) : List Read :=
  script.takeWhile fun read => (read.ending? limit).isNone

/-- The read that ends the conversation. A script that runs out ends with the input. -/
def last (limit : Nat) (script : List Read) : Read :=
  (script.find? fun read => (read.ending? limit).isSome).getD .finished

def result (limit : Nat) (script : List Read) : Except Fault Unit :=
  (script.findSome? (·.ending? limit)).getD (.ok ())

def texts (limit : Nat) (script : List Read) : List Text :=
  (heard limit script).filterMap (·.text? limit)

variable {limit : Nat} {read : Read} {script : List Read}

theorem heard_cons_of_none (on : read.ending? limit = none) (rest : List Read) :
    heard limit (read :: rest) = read :: heard limit rest :=
  List.takeWhile_cons_of_pos (by simp [on])

theorem heard_cons_of_some {ended : Except Fault Unit} (ends : read.ending? limit = some ended)
    (rest : List Read) : heard limit (read :: rest) = [] :=
  List.takeWhile_cons_of_neg (by simp [ends])

theorem texts_cons_of_none (on : read.ending? limit = none) (rest : List Read) :
    texts limit (read :: rest) = (read.text? limit).toList ++ texts limit rest := by
  rw [texts, heard_cons_of_none on, texts]
  cases given : read.text? limit with
  | none => exact List.filterMap_cons_none given
  | some text => exact List.filterMap_cons_some given

theorem texts_cons_of_some {ended : Except Fault Unit} (ends : read.ending? limit = some ended)
    (rest : List Read) : texts limit (read :: rest) = [] := by
  rw [texts, heard_cons_of_some ends, List.filterMap_nil]

/-- A line never breaks a conversation off: it ends it well, or leaves it to the later reads. -/
theorem result_cons_line {rest : List Read} (ended : result limit rest = .ok ()) (line : Text) :
    result limit (.line line :: rest) = .ok () := by
  rw [result, List.findSome?_cons]
  cases quits : (Read.text? limit (.line line)).any Line.isQuit with
  | true => simp [Read.ending?, quits]
  | false =>
    have on : Read.ending? limit (.line line) = none := by simp [Read.ending?, quits]
    rw [on]
    exact ended

theorem ending_of_mem_heard (member : read ∈ heard limit script) : read.ending? limit = none := by
  simpa using List.mem_takeWhile_imp member

theorem ending_last (limit : Nat) (script : List Read) :
    (last limit script).ending? limit ≠ none := by
  unfold last
  cases found : script.find? fun read => (read.ending? limit).isSome with
  | none => simp [Read.ending?]
  | some read => simpa [Option.isSome_iff_ne_none] using List.find?_some found

end Script

namespace Session

variable {session : Session} {read : Read} {script : List Read} {line : Text}

/-- One turn of a conversation: asking for a read and answering it. -/
def turn (session : Session) (read : Read) : Transcript :=
  .ask session.settings.prompt :: (session.answer read).1

/-- A line is answered by its first characters, perhaps with a notice that it was cut. -/
theorem answer_line (session : Session) (filled : isBlank line = false) : ∃ notice,
    (notice = [] ∨ notice = session.truncationNotice) ∧
    session.answer (.line line) =
      (notice ++ (session.answerLine (line.take session.settings.maxLength)).1,
        .ok (session.answerLine (line.take session.settings.maxLength)).2) := by
  cases short : (line.drop session.settings.maxLength).isEmpty with
  | true =>
    have whole : line.take session.settings.maxLength = line :=
      List.take_of_length_le (List.drop_eq_nil_iff.mp (List.isEmpty_iff.mp short))
    refine ⟨[], .inl rfl, ?_⟩
    simp [answer, Input.accept, Input.bound, filled, short, whole]
  | false =>
    refine ⟨_, .inr rfl, ?_⟩
    simp [answer, Input.accept, Input.bound, filled, short]

theorem filterMap_notice {α : Type} {view : Event → Option α}
    (overlooks : Transcript.Overlooks view) {notice : Transcript}
    (hidden : notice = [] ∨ notice = session.truncationNotice) : notice.filterMap view = [] := by
  rcases hidden with rfl | rfl
  · rfl
  · simp [truncationNotice, Event.warnLine, overlooks.note, overlooks.warn]

theorem answer_blank (session : Session) (blank : isBlank line = true) :
    session.answer (.line line) = ([], .ok true) := by
  simp [answer, Input.accept, Input.bound, blank]

/-- A read is answered and the conversation goes on, unless the read ends it. -/
theorem answer_result (session : Session) (read : Read) : (session.answer read).2 =
    match read.ending? session.settings.maxLength with
    | none => .ok true
    | some ended => ended.map fun () => false := by
  cases read with
  | line line =>
    cases blank : isBlank line with
    | true => simp [answer_blank session blank, Read.ending?, Read.text?, blank]
    | false =>
      obtain ⟨notice, _, same⟩ := answer_line session blank
      rw [same]
      cases quits : Line.isQuit (line.take session.settings.maxLength) <;>
        simp [Read.ending?, Read.text?, blank, quits, answerLine, Except.map]
  | interrupted => rfl
  | failed fault => rfl
  | finished => rfl

theorem converse_on (on : (session.answer read).2 = .ok true) (rest : List Read) :
    session.converse (read :: rest) = (session.converse rest).after (session.turn read) := by
  have pair : session.answer read = ((session.answer read).1, .ok true) := Prod.ext rfl on
  rw [converse, pair]
  rfl

theorem converse_ended (ends : (session.answer read).2 = .ok false) (rest : List Read) :
    session.converse (read :: rest) = ⟨session.turn read, .ok (), rest⟩ := by
  have pair : session.answer read = ((session.answer read).1, .ok false) := Prod.ext rfl ends
  rw [converse, pair]
  rfl

theorem converse_broken {fault : Fault} (breaks : (session.answer read).2 = .error fault)
    (rest : List Read) :
    session.converse (read :: rest) = ⟨session.turn read, .error fault, rest⟩ := by
  have pair : session.answer read = ((session.answer read).1, .error fault) := Prod.ext rfl breaks
  rw [converse, pair]
  rfl

/-- A conversation takes its turns over the reads that are heard and the one that ends it. -/
theorem converse_eq (session : Session) (script : List Read) : session.converse script =
    ⟨(Script.heard session.settings.maxLength script ++
        [Script.last session.settings.maxLength script]).flatMap session.turn,
      Script.result session.settings.maxLength script,
      script.drop ((Script.heard session.settings.maxLength script).length + 1)⟩ := by
  induction script with
  | nil => rfl
  | cons read rest ih =>
    have answered := answer_result session read
    cases ends : read.ending? session.settings.maxLength with
    | none =>
      rw [ends] at answered
      have later : Script.last session.settings.maxLength (read :: rest) =
          Script.last session.settings.maxLength rest := by simp [Script.last, ends]
      have ended : Script.result session.settings.maxLength (read :: rest) =
          Script.result session.settings.maxLength rest := by simp [Script.result, ends]
      rw [converse_on answered, ih, Script.heard_cons_of_none ends, later, ended]
      rfl
    | some ended =>
      rw [ends] at answered
      have only : Script.last session.settings.maxLength (read :: rest) = read := by
        simp [Script.last, ends]
      have given : Script.result session.settings.maxLength (read :: rest) = ended := by
        simp [Script.result, ends]
      rw [Script.heard_cons_of_some ends, only, given, List.nil_append, List.flatMap_singleton]
      cases ended with
      | ok value => exact converse_ended answered rest
      | error fault => exact converse_broken answered rest

/-! What views show of a conversation. -/

section Views

variable {α : Type} {view : Event → Option α}

/-- A turn asks for a read, and what is to be answered of it is remembered and answered. -/
theorem filterMap_turn (overlooks : Transcript.Overlooks view) (session : Session) (read : Read) :
    (session.turn read).filterMap view = (view (.ask session.settings.prompt)).toList ++
      (read.answered? session.settings.maxLength).toList.flatMap fun text =>
        (view (.remember text)).toList ++ (session.eval text).1.filterMap view := by
  rw [turn, List.filterMap_eq_flatMap_toList, List.flatMap_cons, ← List.filterMap_eq_flatMap_toList]
  congr 1
  cases read with
  | line line =>
    cases blank : isBlank line with
    | true => simp [answer_blank session blank, Read.answered?, Read.text?, blank]
    | false =>
      obtain ⟨notice, hidden, same⟩ := answer_line session blank
      rw [same, List.filterMap_append, filterMap_notice overlooks hidden]
      cases quits : Line.isQuit (line.take session.settings.maxLength) <;>
        simp [Read.answered?, Read.text?, Option.filter, blank, quits, answerLine,
          List.filterMap_eq_flatMap_toList]
  | interrupted => rfl
  | failed fault => rfl
  | finished => rfl

/-- What a view shows of a conversation: a prompt for every read that is asked for, and
between them what is remembered and answered of the reads that are heard. -/
theorem filterMap_converse (overlooks : Transcript.Overlooks view) (session : Session)
    (script : List Read) : (session.converse script).events.filterMap view =
      (Script.heard session.settings.maxLength script).flatMap (fun read =>
        (view (.ask session.settings.prompt)).toList ++
          (read.text? session.settings.maxLength).toList.flatMap fun text =>
            (view (.remember text)).toList ++ (session.eval text).1.filterMap view) ++
      (view (.ask session.settings.prompt)).toList := by
  rw [converse_eq, List.filterMap_flatMap, List.flatMap_append, List.flatMap_singleton,
    filterMap_turn overlooks, Read.answered_of_ending (Script.ending_last _ _)]
  congr 1
  · refine List.flatMap_congr fun read member => ?_
    rw [filterMap_turn overlooks, Read.answered_of_on (Script.ending_of_mem_heard member)]
  · exact List.append_nil _

theorem filterMap_converse_of_unasked (overlooks : Transcript.Overlooks view)
    (unasked : ∀ prompt, view (.ask prompt) = none) (session : Session) (script : List Read) :
    (session.converse script).events.filterMap view =
      (Script.texts session.settings.maxLength script).flatMap fun text =>
        (view (.remember text)).toList ++ (session.eval text).1.filterMap view := by
  rw [filterMap_converse overlooks, unasked, Script.texts, List.filterMap_eq_flatMap_toList,
    List.flatMap_assoc]
  exact List.append_nil _

end Views

theorem history_converse (session : Session) (script : List Read) :
    (session.converse script).events.history =
      Script.texts session.settings.maxLength script := by
  have silent (text : Text) : (session.eval text).1.filterMap Event.remembered? = [] :=
    history_eval session text
  rw [Transcript.history,
    filterMap_converse_of_unasked Transcript.overlooks_remembered fun _ => rfl]
  simp [silent, Event.remembered?]

theorem carriedOut_converse (session : Session) (script : List Read) :
    (session.converse script).events.carriedOut =
      (Script.texts session.settings.maxLength script).flatMap fun text =>
        (Line.reportOf session.lexicon text).commands := by
  rw [Transcript.carriedOut,
    filterMap_converse_of_unasked Transcript.overlooks_command fun _ => rfl]
  exact List.flatMap_congr fun text _ => carriedOut_eval session text

/-- There is one prompt for each read that is asked for, the ending one included. -/
theorem prompts_converse (session : Session) (script : List Read) :
    (session.converse script).events.prompts =
      List.replicate ((Script.heard session.settings.maxLength script).length + 1)
        session.settings.prompt := by
  have silent (text : Text) : (session.eval text).1.filterMap Event.prompt? = [] :=
    prompts_eval session text
  have single (read : Read) : (Event.prompt? (.ask session.settings.prompt)).toList ++
      (read.text? session.settings.maxLength).toList.flatMap (fun text =>
        (Event.prompt? (.remember text)).toList ++ (session.eval text).1.filterMap Event.prompt?) =
      [session.settings.prompt] := by
    cases read.text? session.settings.maxLength <;> simp [silent, Event.prompt?]
  rw [Transcript.prompts, filterMap_converse Transcript.overlooks_prompt,
    List.flatMap_congr fun read _ => single read, ← List.map_eq_flatMap, List.map_const',
    List.replicate_succ']
  rfl

theorem converse_not_exclaimed (session : Session) (script : List Read) :
    exclamation ∉ (session.converse script).events.said := by
  rw [Transcript.said, filterMap_converse_of_unasked Transcript.overlooks_said fun _ => rfl]
  intro member
  obtain ⟨said, shown, inside⟩ := List.mem_flatten.mp member
  obtain ⟨text, _, answered⟩ := List.mem_flatMap.mp shown
  exact eval_not_exclaimed session text (List.mem_flatten.mpr ⟨said, answered, inside⟩)

theorem greeting_not_exclaimed (session : Session) : exclamation ∉ session.greeting.said := by
  unfold greeting
  split <;> decide

theorem said_run (session : Session) (script : List Read) : (session.run script).events.said =
    session.greeting.said ++ (session.converse script).events.said ++
      Transcript.said (closing (session.converse script).result) := by
  simp [run, Transcript.said]

/-- No text but the farewell holds its mark, so it is seen only where it is said. -/
theorem goodbye_said_iff (session : Session) (script : List Read) :
    "Goodbye!".toList <:+: (session.run script).events.said ↔
      (session.run script).result = .ok () := by
  have kept : (session.run script).result = (session.converse script).result := rfl
  rw [said_run, kept]
  cases (session.converse script).result with
  | ok value =>
    refine iff_of_true ?_ rfl
    have last : Transcript.said (closing (.ok value)) = ['\n'] ++ "Goodbye!".toList ++ ['\n'] := rfl
    rw [last]
    exact (List.infix_append ['\n'] _ ['\n']).trans (List.suffix_append _ _).isInfix
  | error fault =>
    refine iff_of_false (fun goodbye => ?_) (by simp)
    have mark := goodbye.subset (show exclamation ∈ "Goodbye!".toList by decide)
    rcases List.mem_append.mp mark with earlier | closed
    · rcases List.mem_append.mp earlier with greeted | answered
      · exact greeting_not_exclaimed session greeted
      · exact converse_not_exclaimed session script answered
    · contradiction

theorem filterMap_run {α : Type} {view : Event → Option α} (said : ∀ text, view (.say text) = none)
    (session : Session) (script : List Read) : (session.run script).events.filterMap view =
      (session.converse script).events.filterMap view := by
  have greeted : session.greeting.filterMap view = [] := by
    unfold greeting
    split <;> simp [banner, Event.sayLine, said]
  have closed : (closing (session.converse script).result).filterMap view = [] := by
    cases (session.converse script).result <;> simp [closing, farewell, Event.sayLine, said]
  rw [run, List.filterMap_append, List.filterMap_append, greeted, closed, List.append_nil,
    List.nil_append]

/-- Whole conversations. The history holds the texts of the reads before the first one that
ends the conversation, and the handler is given the commands of their reports, in order.
These reads are asked for and the ending one, or the end of the script, and no other; the
result is that of the ending read. The player is bidden goodbye exactly if the conversation
was not broken off. -/
theorem run_as_read (session : Session) (script : List Read) :
    let limit := session.settings.maxLength
    let talk := session.run script
    talk.events.history = Script.texts limit script ∧
    talk.events.carriedOut = (Script.texts limit script).flatMap (fun text =>
      (Line.reportOf session.lexicon text).commands) ∧
    talk.events.prompts =
      List.replicate ((Script.heard limit script).length + 1) session.settings.prompt ∧
    talk.unread = script.drop ((Script.heard limit script).length + 1) ∧
    talk.result = Script.result limit script ∧
    ("Goodbye!".toList <:+: talk.events.said ↔ talk.result = .ok ()) := by
  intro limit talk
  have form := converse_eq session script
  refine ⟨?_, ?_, ?_, congrArg Conversation.unread form, congrArg Conversation.result form,
    goodbye_said_iff session script⟩
  · exact (filterMap_run (fun _ => rfl) session script).trans (history_converse session script)
  · exact (filterMap_run (fun _ => rfl) session script).trans (carriedOut_converse session script)
  · exact (filterMap_run (fun _ => rfl) session script).trans (prompts_converse session script)

end Session
end Imperative
