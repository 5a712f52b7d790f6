/-
This file follows sessions. A command is divided at its first blank, which belongs to neither part.
A session breaks down if that blank takes several bytes, and it could only break down otherwise over
a match of very many ticks. Until then it responds to every line and goes on, and its program is the
one that the pattern accepted last has in the current mode.
-/

import Mathlib
import Rewind.Console.Transcript
import Rewind.Proofs.Matcher.Miswiring
import Rewind.Proofs.Matcher.Start
import Rewind.Proofs.Text.RoundTrip

namespace Rewind.Console

/-! ### Commands -/

/-- A line divided at its first blank. Without a blank all of it is before, and nothing behind. -/
inductive Divided (line : List Char) : List Char → List Char → Prop
  | whole (unbroken : ∀ character ∈ line, Text.isBlank character = false) : Divided line line []
  | blank {name argument : List Char} {blank : Char} (same : line = name ++ blank :: argument)
    (unbroken : ∀ character ∈ name, Text.isBlank character = false)
    (isBlank : Text.isBlank blank = true) : Divided line name argument

/-- The first blank of a line takes more than one byte. -/
def HasWideBlank (line : List Char) : Prop :=
  ∃ name blank argument, line = name ++ blank :: argument ∧
    (∀ character ∈ name, Text.isBlank character = false) ∧ Text.isBlank blank = true ∧
    blank.utf8Size ≠ 1

/-- The first word of a line is a command that is known by this word alone. -/
def StandsAlone (line : List Char) : Prop :=
  String.ofList (firstWord line) ∈ [":quit", ":q", ":clear", ":c"]

/-- A line asks to leave. -/
def AsksToQuit (line : List Char) : Prop :=
  line.head? = some commandMark ∧ String.ofList (firstWord line) ∈ [":quit", ":q"]

/-- A line is a command that cannot be cut behind its first blank. -/
def Breaks (line : List Char) : Prop :=
  line.head? = some commandMark ∧ ¬ StandsAlone line ∧ HasWideBlank line

theorem StandsAlone.of_quits {line : List Char}
    (quits : String.ofList (firstWord line) ∈ [":quit", ":q"]) : StandsAlone line :=
  List.mem_append_left [":clear", ":c"] quits

section Cutting

variable {line name argument : List Char} {blank : Char}

theorem nameAndArgument?_unbroken (unbroken : ∀ character ∈ line, Text.isBlank character = false) :
    nameAndArgument? line = some (line, []) := by
  have whole : line.takeWhile (fun character => !Text.isBlank character) = line :=
    List.takeWhile_eq_self_iff.mpr fun character member => by rw [unbroken character member]; rfl
  unfold nameAndArgument?
  dsimp only
  rw [whole, List.drop_length]

theorem nameAndArgument?_append (unbroken : ∀ character ∈ name, Text.isBlank character = false)
    (isBlank : Text.isBlank blank = true) :
    nameAndArgument? (name ++ blank :: argument) =
      if blank.utf8Size = 1 then some (name, argument) else none := by
  have before : (name ++ blank :: argument).takeWhile (fun character => !Text.isBlank character) =
      name := by
    rw [List.takeWhile_append_of_pos fun character member => by rw [unbroken character member]; rfl,
      List.takeWhile_cons_of_neg (by rw [isBlank]; exact Bool.false_ne_true), List.append_nil]
  unfold nameAndArgument?
  dsimp only
  rw [before, List.drop_left]

/-- Every line has a first blank or none. -/
theorem unbroken_or_blank (line : List Char) :
    (∀ character ∈ line, Text.isBlank character = false) ∨
      ∃ name blank argument, line = name ++ blank :: argument ∧
        (∀ character ∈ name, Text.isBlank character = false) ∧ Text.isBlank blank = true := by
  induction line with
  | nil => exact .inl nofun
  | cons first line inductionHypothesis =>
    cases isBlank : Text.isBlank first with
    | true => exact .inr ⟨[], first, line, rfl, nofun, isBlank⟩
    | false =>
      obtain unbroken | ⟨name, blank, argument, rfl, unbroken, found⟩ := inductionHypothesis
      · exact .inl (List.forall_mem_cons.mpr ⟨isBlank, unbroken⟩)
      · exact .inr ⟨first :: name, blank, argument, rfl,
          List.forall_mem_cons.mpr ⟨isBlank, unbroken⟩, found⟩

theorem nameAndArgument?_eq_none : nameAndArgument? line = none ↔ HasWideBlank line := by
  constructor
  · intro uncut
    obtain unbroken | ⟨name, blank, argument, rfl, unbroken, isBlank⟩ := unbroken_or_blank line
    · rw [nameAndArgument?_unbroken unbroken] at uncut
      cases uncut
    · refine ⟨name, blank, argument, rfl, unbroken, isBlank, fun narrow => ?_⟩
      rw [nameAndArgument?_append unbroken isBlank, if_pos narrow] at uncut
      cases uncut
  · rintro ⟨name, blank, argument, rfl, unbroken, isBlank, wide⟩
    rw [nameAndArgument?_append unbroken isBlank, if_neg wide]

theorem divided_of_nameAndArgument? (cut : nameAndArgument? line = some (name, argument)) :
    Divided line name argument := by
  obtain unbroken | ⟨front, blank, back, rfl, unbroken, isBlank⟩ := unbroken_or_blank line
  · rw [nameAndArgument?_unbroken unbroken] at cut
    cases cut
    exact .whole unbroken
  · rw [nameAndArgument?_append unbroken isBlank] at cut
    split at cut
    · cases cut
      exact .blank rfl unbroken isBlank
    · cases cut

end Cutting

namespace Command

variable {line : List Char}

/-- A command that does not stand alone is read from its name and its argument. -/
theorem ofLine?_of_not_alone (notAlone : ¬ StandsAlone line) :
    ofLine? line = (nameAndArgument? line).map fun parts =>
      ofName (String.ofList parts.1) parts.2 := by
  unfold StandsAlone at notAlone
  unfold ofLine?
  dsimp only
  simp only [List.mem_cons, List.not_mem_nil, or_false, not_or] at notAlone
  obtain ⟨notQuit, notQ, notClear, notC⟩ := notAlone
  rw [if_neg (not_or.mpr ⟨notQuit, notQ⟩), if_neg (not_or.mpr ⟨notClear, notC⟩)]

theorem ofLine?_of_alone (alone : StandsAlone line) :
    ofLine? line = some .quit ∧ String.ofList (firstWord line) ∈ [":quit", ":q"] ∨
      ofLine? line = some .clear ∧ String.ofList (firstWord line) ∉ [":quit", ":q"] := by
  unfold StandsAlone at alone
  unfold ofLine?
  dsimp only
  simp only [List.mem_cons, List.not_mem_nil, or_false] at alone ⊢
  split
  · rename_i quits
    exact .inl ⟨rfl, quits⟩
  · rename_i stays
    refine .inr ⟨if_pos ?_, stays⟩
    tauto

theorem ofLine?_eq_none : ofLine? line = none ↔ ¬ StandsAlone line ∧ HasWideBlank line := by
  by_cases alone : StandsAlone line
  · obtain ⟨found, -⟩ | ⟨found, -⟩ := ofLine?_of_alone alone
    all_goals
      rw [found]
      exact ⟨nofun, fun uncut => absurd alone uncut.1⟩
  · rw [ofLine?_of_not_alone alone, Option.map_eq_none_iff, nameAndArgument?_eq_none,
      and_iff_right alone]

theorem ofName_ne_quit (name : String) (argument : List Char) : ofName name argument ≠ .quit := by
  unfold ofName
  split_ifs <;> exact nofun

theorem ofLine?_eq_quit :
    ofLine? line = some .quit ↔ String.ofList (firstWord line) ∈ [":quit", ":q"] := by
  by_cases alone : StandsAlone line
  · obtain ⟨found, quits⟩ | ⟨found, stays⟩ := ofLine?_of_alone alone
    · exact iff_of_true found quits
    · refine iff_of_false (fun quits => ?_) stays
      rw [found] at quits
      cases quits
  · refine iff_of_false (fun quits => ?_) fun quits => alone (.of_quits quits)
    rw [ofLine?_of_not_alone alone, Option.map_eq_some_iff] at quits
    obtain ⟨parts, -, same⟩ := quits
    exact ofName_ne_quit _ _ same

end Command

/-- A line sets a pattern. -/
def Accepts (line text : List Char) : Prop :=
  line.head? = some commandMark ∧ Command.ofLine? line = some (.pattern text) ∧
    ∃ pattern, Pattern.parse text = .ok pattern

/-- The last of some lines that sets a pattern sets this one. -/
def LastAccepted (lines : List (List Char)) (text : List Char) : Prop :=
  ∃ before line later, lines = before ++ line :: later ∧ Accepts line text ∧
    ∀ other ∈ later, ∀ instead, ¬ Accepts other instead

/-! ### Responses -/

/-- A session goes on after a response. -/
def Response.GoesOn (response : Response) : Prop := response ≠ .quit ∧ response ≠ .crash

theorem Response.goesOn_output (text : String) : (Response.output text).GoesOn := ⟨nofun, nofun⟩

theorem Response.goesOn_complaint (text : String) :
    (Response.complaint text).GoesOn := ⟨nofun, nofun⟩

namespace Session

open Response

variable {session : Session} {line : List Char}

/-- Matching a line against the current pattern is broken off, which takes very many ticks. -/
def BreaksOff (session : Session) (line : List Char) : Prop :=
  ∃ program, session.program = some program ∧ ∃ defect reached,
    (Matcher.ofProgram program session.settings).matchText line = .error (.defect defect) reached ∧
    0x100000000 ≤ reached.ticks + 1

/-- A line is to be matched, and that is broken off. -/
def Overruns (session : Session) (line : List Char) : Prop :=
  line ≠ [] ∧ line.head? ≠ some commandMark ∧ session.BreaksOff line

theorem respond_command (isCommand : line.head? = some commandMark) :
    session.respond line =
      match Command.ofLine? line with
      | some command => session.obey command
      | none => (.crash, session) := by
  match line with
  | [] => cases isCommand
  | first :: line =>
    exact if_pos (Option.some.inj isCommand)

theorem respond_text (nonempty : line ≠ []) (isText : line.head? ≠ some commandMark) :
    session.respond line = session.matchLine line := by
  match line with
  | [] => exact absurd rfl nonempty
  | first :: line =>
    exact if_neg fun same => isText (congrArg some same)

theorem setPattern_of_ok (session : Session) {text : List Char} {pattern : Pattern}
    (parsed : Pattern.parse text = .ok pattern) :
    ∃ program, pattern.compile session.search = .ok program ∧
      session.setPattern text =
        (.outputLine ("compiled into " ++ toString program.size ++ " nodes"),
          { session with program := some program }) := by
  obtain ⟨program, _, compiled, -⟩ := pattern.compile_spec session.search
  refine ⟨program, compiled, ?_⟩
  unfold setPattern Source.compile
  rw [parsed]
  dsimp only
  rw [compiled]
  rfl

/-- A pattern that cannot be read is complained about, and leaves everything as it is. -/
theorem setPattern_of_error {text : List Char} {error : ParseError}
    (refused : Pattern.parse text = .error error) :
    session.setPattern text =
      (.complaint (error.report { name := "<stdin>", text := text }), session) := by
  unfold setPattern Source.compile
  rw [refused]

theorem obey_pattern (text : List Char) :
    session.obey (.pattern text) = session.setPattern text := rfl

theorem goesOn_setPattern (session : Session) (text : List Char) :
    (session.setPattern text).1.GoesOn := by
  cases parsed : Pattern.parse text with
  | ok pattern =>
    obtain ⟨program, -, set⟩ := session.setPattern_of_ok parsed
    rw [set]
    exact goesOn_output _
  | error error =>
    rw [setPattern_of_error parsed]
    exact goesOn_complaint _

/-- Of all commands only the one to leave ends a session, and none breaks it. -/
theorem goesOn_obey {command : Command} (stays : command ≠ .quit) :
    (session.obey command).1.GoesOn := by
  cases command with
  | quit => exact absurd rfl stays
  | clear | help | search => exact goesOn_output _
  | unknown => exact goesOn_complaint _
  | pattern text => exact session.goesOn_setPattern text
  | statistics =>
    unfold obey showStatistics
    cases session.statistics with
    | none => exact goesOn_complaint _
    | some text => exact goesOn_output _

/-- A match that is not broken off is answered. -/
theorem goesOn_outcomeOf {outcome : Outcome} {reached : Matcher}
    (readable : outcome = .matched → ∃ tree, reached.result = .ok tree) :
    (outcomeOf reached outcome).GoesOn := by
  cases outcome with
  | matched =>
    obtain ⟨tree, read⟩ := readable rfl
    unfold outcomeOf
    rw [read]
    exact goesOn_output _
  | noMatch | paused => exact goesOn_output _

theorem matchText_ends (program : Program) (settings : Settings) (line : List Char) :
    ∃ most, Matcher.CallEnds most ((Matcher.ofProgram program settings).matchText line) :=
  have fresh : (Matcher.ofProgram program settings).Settled 0 :=
    ⟨⟨Store.wiped_empty settings.store, rfl⟩, (fun impossible => nomatch impossible), Nat.le_refl 0⟩
  ⟨_, Matcher.callEnds_perform fresh (.run program.root line (.ofSettings settings.run))⟩

/-- Matching a line breaks a session if it is broken off, and else at most changes what is known of
the last match. -/
theorem matchLine_spec (session : Session) (line : List Char) :
    (session.matchLine line).1 ≠ .quit ∧
    ((session.matchLine line).1 = .crash ↔ session.BreaksOff line) ∧
    ∃ statistics, (session.matchLine line).2 = { session with statistics := statistics } := by
  obtain ⟨settings, search, current, last⟩ := session
  unfold matchLine BreaksOff
  cases current with
  | none =>
    obtain ⟨stays, goes⟩ := goesOn_complaint "no pattern; set one with :pattern"
    refine ⟨stays, iff_of_false goes ?_, last, rfl⟩
    rintro ⟨program, missing, -⟩
    cases missing
  | some program =>
    obtain ⟨most, ends⟩ := matchText_ends program settings line
    simp only [Option.some.injEq, exists_eq_left']
    generalize (Matcher.ofProgram program settings).matchText line = result at ends
    cases ends with
    | ok settled readable =>
      obtain ⟨stays, goes⟩ := goesOn_outcomeOf readable
      refine ⟨stays, iff_of_false goes ?_, _, rfl⟩
      rintro ⟨defect, reached, same, -⟩
      cases same
    | @failed failure reached settled expected =>
      obtain ⟨stays, goes⟩ := goesOn_complaint failure.message
      refine ⟨stays, iff_of_false goes ?_, last, rfl⟩
      rintro ⟨defect, reached, same, -⟩
      cases same
    | overflow settled many counted =>
      exact ⟨nofun, iff_of_true rfl ⟨_, _, rfl, many⟩, last, rfl⟩

/-- There are three kinds of lines. -/
theorem kinds_of_lines (line : List Char) :
    line = [] ∨ line.head? = some commandMark ∨ line ≠ [] ∧ line.head? ≠ some commandMark := by
  tauto

/-- A session ends with a line exactly if the line asks for it. -/
theorem respond_eq_quit : (session.respond line).1 = .quit ↔ AsksToQuit line := by
  unfold AsksToQuit
  obtain rfl | isCommand | ⟨nonempty, isText⟩ := kinds_of_lines line
  · exact iff_of_false nofun fun asks => nomatch asks.1
  · rw [respond_command isCommand, and_iff_right isCommand, ← Command.ofLine?_eq_quit]
    cases Command.ofLine? line with
    | none => exact iff_of_false nofun nofun
    | some command =>
      by_cases quits : command = .quit
      · rw [quits]
        exact iff_of_true rfl rfl
      · exact iff_of_false (goesOn_obey quits).1 fun same => quits (Option.some.inj same)
  · rw [respond_text nonempty isText]
    exact iff_of_false (session.matchLine_spec line).1 fun asks => isText asks.1

/-- A session breaks with a line exactly if the line cannot be cut, or its match is broken off. -/
theorem respond_eq_crash :
    (session.respond line).1 = .crash ↔ Breaks line ∨ session.Overruns line := by
  unfold Breaks Overruns
  obtain rfl | isCommand | ⟨nonempty, isText⟩ := kinds_of_lines line
  · refine iff_of_false nofun ?_
    rintro (⟨impossible, -⟩ | ⟨nonempty, -⟩)
    · cases impossible
    · exact nonempty rfl
  · have notText : ¬ (line ≠ [] ∧ line.head? ≠ some commandMark ∧ session.BreaksOff line) :=
      fun overruns => overruns.2.1 isCommand
    rw [respond_command isCommand, and_iff_right isCommand, or_iff_left notText,
      ← Command.ofLine?_eq_none]
    cases Command.ofLine? line with
    | none => exact iff_of_true rfl rfl
    | some command =>
      refine iff_of_false ?_ nofun
      by_cases quits : command = .quit
      · rw [quits]
        exact nofun
      · exact (goesOn_obey quits).2
  · have notCommand : ¬ (line.head? = some commandMark ∧ ¬ StandsAlone line ∧ HasWideBlank line) :=
      fun breaks => isText breaks.1
    rw [respond_text nonempty isText, or_iff_right notCommand, and_iff_right nonempty,
      and_iff_right isText]
    exact (session.matchLine_spec line).2.1

/-- A line that sets a pattern makes its program in the current mode, and changes nothing else. -/
theorem respond_of_accepts (session : Session) {text : List Char} (accepts : Accepts line text) :
    ∃ pattern program, Pattern.parse text = .ok pattern ∧
      pattern.compile session.search = .ok program ∧
      (session.respond line).2 = { session with program := some program } := by
  obtain ⟨isCommand, read, pattern, parsed⟩ := accepts
  obtain ⟨program, compiled, set⟩ := session.setPattern_of_ok parsed
  refine ⟨pattern, program, parsed, compiled, ?_⟩
  rw [respond_command isCommand, read]
  dsimp only
  rw [obey_pattern, set]

/-- What a line does to the program: it sets it, takes it away, or leaves it and the mode as they
are. -/
theorem respond_program (session : Session) (line : List Char) :
    (∃ text, Accepts line text) ∨ (session.respond line).2.program = none ∨
    (∀ text, ¬ Accepts line text) ∧ (session.respond line).2.program = session.program ∧
      (session.respond line).2.search = session.search := by
  obtain rfl | isCommand | ⟨nonempty, isText⟩ := kinds_of_lines line
  · exact .inr (.inr ⟨(fun text accepts => nomatch accepts.1), rfl, rfl⟩)
  · rw [respond_command isCommand]
    cases read : Command.ofLine? line with
    | none =>
      refine .inr (.inr ⟨fun text accepts => ?_, rfl, rfl⟩)
      cases read.symm.trans accepts.2.1
    | some command =>
      have others (notPattern : ∀ text, command ≠ .pattern text) (text : List Char) :
          ¬ Accepts line text :=
        fun accepts => notPattern text (Option.some.inj (read.symm.trans accepts.2.1))
      cases command with
      | pattern text =>
        cases parsed : Pattern.parse text with
        | ok pattern => exact .inl ⟨text, isCommand, read, pattern, parsed⟩
        | error error =>
          dsimp only
          rw [obey_pattern, setPattern_of_error parsed]
          refine .inr (.inr ⟨fun other accepts => ?_, rfl, rfl⟩)
          obtain ⟨-, same, pattern, accepted⟩ := accepts
          cases read.symm.trans same
          cases parsed.symm.trans accepted
      | search => exact .inr (.inl rfl)
      | quit | clear | help | statistics | unknown => exact .inr (.inr ⟨others nofun, rfl, rfl⟩)
  · obtain ⟨statistics, same⟩ := (session.matchLine_spec line).2.2
    rw [respond_text nonempty isText, same]
    exact .inr (.inr ⟨fun text accepts => isText accepts.1, rfl, rfl⟩)

/-- The responses to some lines. -/
def responses (session : Session) : List (List Char) → List Response
  | [] => []
  | line :: lines => (session.respond line).1 :: responses (session.respond line).2 lines

/-- A session after some lines. -/
def after (session : Session) (lines : List (List Char)) : Session :=
  lines.foldl (fun session line => (session.respond line).2) session

theorem after_concat (session : Session) (lines : List (List Char)) (line : List Char) :
    session.after (lines ++ [line]) = ((session.after lines).respond line).2 := List.foldl_concat ..

/-- Every response is the one to some line, by the session that the lines before have led to. -/
theorem mem_responses {response : Response} {lines : List (List Char)}
    (member : response ∈ session.responses lines) : ∃ before line later,
      lines = before ++ line :: later ∧ response = ((session.after before).respond line).1 := by
  induction lines generalizing session with
  | nil => cases member
  | cons line lines inductionHypothesis =>
    obtain rfl | member := List.mem_cons.mp member
    · exact ⟨[], line, lines, rfl, rfl⟩
    · obtain ⟨before, other, later, rfl, same⟩ := inductionHypothesis member
      exact ⟨line :: before, other, later, rfl, same⟩

/-- The program of a session is the one of the pattern that was accepted last, in the current
mode. -/
theorem program_after {session : Session} (empty : session.program = none)
    (lines : List (List Char)) {program : Program}
    (current : (session.after lines).program = some program) :
    ∃ text pattern, LastAccepted lines text ∧ Pattern.parse text = .ok pattern ∧
      pattern.compile (session.after lines).search = .ok program := by
  induction lines using List.reverseRecOn generalizing program with
  | nil => cases empty.symm.trans current
  | append_singleton lines line inductionHypothesis =>
    rw [after_concat] at current ⊢
    obtain ⟨text, accepts⟩ | dropped | ⟨ignored, kept, mode⟩ :=
      (session.after lines).respond_program line
    · obtain ⟨pattern, set, parsed, compiled, same⟩ :=
        (session.after lines).respond_of_accepts accepts
      rw [same] at current ⊢
      cases current
      exact ⟨text, pattern, ⟨lines, line, [], rfl, accepts, nofun⟩, parsed, compiled⟩
    · cases dropped.symm.trans current
    · obtain ⟨text, pattern, ⟨before, setting, later, split, accepts, none⟩, parsed, compiled⟩ :=
        inductionHypothesis (kept.symm.trans current)
      rw [mode]
      refine ⟨text, pattern, ⟨before, setting, later ++ [line], ?_, accepts, ?_⟩, parsed, compiled⟩
      · rw [split, List.append_assoc, List.cons_append]
      · intro other member
        obtain inside | last := List.mem_append.mp member
        · exact none other inside
        · exact List.mem_singleton.mp last ▸ ignored

end Session

/-! ### Transcripts -/

/-- A transcript that starts with a response. -/
def Response.startOf (transcript : Transcript) : Response → Transcript
  | .output text => transcript.printedFirst text
  | .complaint text => transcript.saidFirst (complaintLine text)
  | .silence | .quit | .crash => transcript

/-- As long as a session neither ends nor breaks, it responds to one line after the other and goes
on with the lines behind. -/
theorem converse_append {session : Session} {lines : List (List Char)}
    (goes : ∀ response ∈ session.responses lines, response.GoesOn)
    (rest : List (List UInt8)) :
    converse session (lines.map Text.encode ++ rest) =
      (session.responses lines).foldr (fun response transcript => response.startOf transcript)
        (converse (session.after lines) rest) := by
  induction lines generalizing session with
  | nil => rfl
  | cons line lines inductionHypothesis =>
    obtain ⟨stays, others⟩ := List.forall_mem_cons.mp goes
    have next := inductionHypothesis others
    change converse session (Text.encode line :: (lines.map Text.encode ++ rest)) =
      Response.startOf ((Session.responses _ lines).foldr _ (converse (Session.after _ lines) rest))
        (session.respond line).1
    rw [← next, converse, Text.decode?_encode]
    dsimp only
    generalize session.respond line = responded at stays
    obtain ⟨response, session⟩ := responded
    cases response with
    | silence | output | complaint => rfl
    | quit => exact absurd rfl stays.1
    | crash => exact absurd rfl stays.2

/-- A session responds to all lines, one after the other, as long as none of them asks to leave, is
a command with a wide first blank, or takes a match of very many ticks. The line it breaks down over
is one of the last two kinds. Any other command is taken for what stands before its first blank,
with what stands behind it as its argument. A pattern that is refused leaves the session as it is,
one that is accepted changes its program alone, and this is always the program of the pattern that
was accepted last in the current mode. -/
theorem sessions_go_on (lines : List (List Char)) :
    (∀ rest : List (List UInt8), (∀ before line later, lines = before ++ line :: later →
        ¬ AsksToQuit line ∧ ¬ Breaks line ∧ ¬ (Session.after {} before).Overruns line) →
      converse {} (lines.map Text.encode ++ rest) =
        (Session.responses {} lines).foldr (fun response transcript => response.startOf transcript)
          (converse (Session.after {} lines) rest)) ∧
    (∀ line, ((Session.after {} lines).respond line).1 = .crash ↔
      Breaks line ∨ (Session.after {} lines).Overruns line) ∧
    (∀ line, line.head? = some commandMark → ¬ StandsAlone line → ¬ HasWideBlank line →
      ∃ name argument, Divided line name argument ∧ (Session.after {} lines).respond line =
        (Session.after {} lines).obey (.ofName (String.ofList name) argument)) ∧
    (∀ text error, Pattern.parse text = .error error →
      (Session.after {} lines).obey (.pattern text) =
      (.complaint (error.report { name := "<stdin>", text := text }), Session.after {} lines)) ∧
    (∀ line text, Accepts line text → ∃ pattern program, Pattern.parse text = .ok pattern ∧
      pattern.compile (Session.after {} lines).search = .ok program ∧
      ((Session.after {} lines).respond line).2 =
        { Session.after {} lines with program := some program }) ∧
    ∀ program, (Session.after {} lines).program = some program → ∃ text pattern,
      LastAccepted lines text ∧ Pattern.parse text = .ok pattern ∧
        pattern.compile (Session.after {} lines).search = .ok program := by
  refine ⟨fun rest sound => converse_append ?_ rest, fun line => Session.respond_eq_crash,
    fun line isCommand notAlone narrow => ?_, fun text error refused => ?_,
    fun line text => Session.respond_of_accepts _, fun program => Session.program_after rfl lines⟩
  · intro response member
    obtain ⟨before, line, later, split, rfl⟩ := Session.mem_responses member
    obtain ⟨stays, uncut, short⟩ := sound before line later split
    rw [Response.GoesOn, Ne, Ne, Session.respond_eq_quit, Session.respond_eq_crash, not_or]
    exact ⟨stays, uncut, short⟩
  · cases cut : nameAndArgument? line with
    | none => exact absurd (nameAndArgument?_eq_none.mp cut) narrow
    | some parts =>
      obtain ⟨name, argument⟩ := parts
      refine ⟨name, argument, divided_of_nameAndArgument? cut, ?_⟩
      rw [Session.respond_command isCommand, Command.ofLine?_of_not_alone notAlone, cut]
      rfl
  · rw [Session.obey_pattern, Session.setPattern_of_error refused]

/-- A request for help with an ideographic space behind it. -/
def wideHelp : List Char := [':', 'h', 'e', 'l', 'p', '\u3000', 'x', '\n']

/-- The ideographic space takes three bytes, so the line cannot be cut one byte behind its start. -/
theorem wideHelp_breaks : Breaks wideHelp := by
  unfold Breaks StandsAlone
  refine ⟨rfl, by decide +kernel, [':', 'h', 'e', 'l', 'p'], '\u3000', ['x', '\n'], rfl, ?_, ?_, ?_⟩
  · simp [Text.isBlank, Text.CharRanges.contains, Text.blankRanges]
  · decide +kernel
  · decide

/-- Not every session survives every line that does not ask to leave. -/
theorem wide_blank_ends_session :
    ¬ AsksToQuit wideHelp ∧ (interact (Text.encode wideHelp)).ending = .crash := by
  constructor
  · unfold AsksToQuit
    decide +kernel
  · decide +kernel

/-- A request to match the letter `b`. -/
def matchLetter : List Char := [':', 'p', ' ', 'b']

theorem sessions_go_on_after_letter :
    converse {} ([matchLetter].map Text.encode ++ []) =
      { output := "compiled into 2 nodes\n", ending := .success } ∧
    ((Session.after {} [matchLetter]).respond wideHelp).1 = .crash ∧
    (∃ name argument, Divided matchLetter name argument ∧
      (Session.after {} [matchLetter]).respond matchLetter =
        (Session.after {} [matchLetter]).obey (.ofName (String.ofList name) argument)) ∧
    (∃ report, (Session.after {} [matchLetter]).obey (.pattern ['*']) =
      (.complaint report, Session.after {} [matchLetter])) ∧
    (∃ program, ((Session.after {} [matchLetter]).respond matchLetter).2 =
      { Session.after {} [matchLetter] with program := some program }) ∧
    ∃ program text pattern, (Session.after {} [matchLetter]).program = some program ∧
      LastAccepted [matchLetter] text ∧ Pattern.parse text = .ok pattern ∧
      pattern.compile (Session.after {} [matchLetter]).search = .ok program := by
  obtain ⟨goesOn, breaks, divided, refused, accepted, current⟩ := sessions_go_on [matchLetter]
  have notAlone : ¬ StandsAlone matchLetter := by
    unfold StandsAlone
    decide +kernel
  have narrow : ¬ HasWideBlank matchLetter := by
    rw [← nameAndArgument?_eq_none]
    decide +kernel
  refine ⟨?_, (breaks wideHelp).mpr (.inl wideHelp_breaks), divided matchLetter rfl notAlone narrow,
    ?_, ?_, ?_⟩
  · refine (goesOn [] fun before line later split => ?_).trans (by decide +kernel)
    obtain ⟨-, only⟩ | ⟨-, impossible⟩ := List.append_eq_singleton_iff.mp split.symm
    · cases only
      exact ⟨fun asks => notAlone (.of_quits asks.2), fun cut => narrow cut.2.2,
        fun overruns => overruns.2.1 rfl⟩
    · cases impossible
  · cases parsed : Pattern.parse ['*'] with
    | error error => exact ⟨_, refused ['*'] error parsed⟩
    | ok pattern =>
      have unparsed : (Pattern.parse ['*']).toOption.isNone = true := by decide +kernel
      rw [parsed] at unparsed
      cases unparsed
  · cases parsed : Pattern.parse ['b'] with
    | ok pattern =>
      have read : Command.ofLine? matchLetter = some (.pattern ['b']) := by decide +kernel
      obtain ⟨-, program, -, -, set⟩ := accepted matchLetter ['b'] ⟨rfl, read, pattern, parsed⟩
      exact ⟨program, set⟩
    | error error =>
      have unrefused : (Pattern.parse ['b']).toOption.isSome = true := by decide +kernel
      rw [parsed] at unrefused
      cases unrefused
  · have isSome : (Session.after {} [matchLetter]).program.isSome = true := by decide +kernel
    obtain ⟨program, found⟩ := Option.isSome_iff_exists.mp isSome
    obtain ⟨text, pattern, last⟩ := current program found
    exact ⟨program, text, pattern, found, last⟩

end Rewind.Console
