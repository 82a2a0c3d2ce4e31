import RobotCity.Proofs.CommandLine.Runs
import RobotCity.Proofs.Documents.Writable
import RobotCity.Proofs.Stages

/-!
# Programs that are released

A run that is asked to write a program releases it only if it succeeds, and what it releases is
accepted by every check and written as it is by every further run.
-/

namespace RobotCity

/-- A program that was read from a file or from the standard input is sound. -/
theorem Program.sound_of_bytes {bytes : List UInt8} {program : Program}
    (read : Program.ofBytes bytes = .ok program) : program.Sound := by
  rw [ofBytes] at read
  cases decoded : decodeText bytes with
  | error error =>
      rw [decoded] at read
      cases read
  | ok text =>
      rw [decoded] at read
      exact sound_of_read (mapError_eq_ok_iff.mp read)

/-- The text that a run writes for a program. -/
def Arguments.text (arguments : Arguments) (program : Program) : String :=
  String.ofList (program.written arguments.layout arguments.envelope)

/-- This text with the line end behind it. -/
def Arguments.line (arguments : Arguments) (program : Program) : String :=
  arguments.text program ++ "\n"

theorem Arguments.toList_line (arguments : Arguments) (program : Program) :
    (arguments.line program).toList =
      program.written arguments.layout arguments.envelope ++ ['\n'] := by
  rw [line, text, String.toList_append, String.toList_ofList]
  rfl

/-- The bytes of this text. -/
def Arguments.lineBytes (arguments : Arguments) (program : Program) : List UInt8 :=
  Utf8.encode (arguments.line program).toList

/-- The output or a file, where one is given, can be written. -/
def Storage.Opens (storage : Storage) (path : Option String) : Prop :=
  ∀ given ∈ path, ∃ names, storage.Leads (plainPath given) names

/-- A run has written a line to the output or to a file, and nothing else but complaints. -/
inductive Console.Writes (before : Storage) (line : String) : Option String → Console → Prop
  | output {console : Console} : console.storage = before → console.output = line →
    Writes before line none console
  | file {console : Console} {path : String} {names : List String} :
    before.Leads (plainPath path) names → console.output = "" →
    console.storage = before.set names (.file (Utf8.encode line.toList)) →
    Writes before line (some path) console

/-- What stands afterwards where a run writes its program. -/
def Console.released (console : Console) : Option String → Except StorageError (List UInt8)
  | none => .ok (Utf8.encode console.output.toList)
  | some path => console.storage.readBytes (plainPath path)

namespace Console

variable {before : Storage} {console : Console} {line : String} {path : Option String}

theorem Writes.released (writes : console.Writes before line path) :
    console.released path = .ok (Utf8.encode line.toList) := by
  cases writes with
  | output kept written => rw [Console.released, written]
  | file leads quiet written => rw [Console.released, written, leads.readBytes]

theorem Writes.opens (writes : console.Writes before line path) : console.storage.Opens path := by
  cases writes with
  | output kept written => exact nofun
  | file leads quiet written =>
      rintro given ⟨⟩
      exact ⟨_, written ▸ leads.set⟩

theorem write_of_opens (text : String) (alike : console.Alike (.ofStorage before))
    (opens : before.Opens path) :
    ∃ after : Console, after.Writes before (text ++ "\n") path ∧
      console.write path text = (after, .exit .success) := by
  cases path with
  | none =>
      have written : (console.print text).output = text ++ "\n" := by
        rw [print, alike.output, ofStorage, String.empty_append]
      exact ⟨console.print text, .output alike.storage written, rfl⟩
  | some path =>
      obtain ⟨names, leads⟩ := opens path rfl
      let bytes := Utf8.encode (text ++ "\n").toList
      let after : Console := { console with storage := before.set names (.file bytes) }
      have written : before.writeBytes (plainPath path) bytes = .ok after.storage :=
        Storage.writeBytes_eq_ok_iff.mpr ⟨names, leads, rfl⟩
      refine ⟨after, .file leads alike.output rfl, ?_⟩
      rw [write, alike.storage]
      dsimp only [ofStorage]
      rw [written]

theorem write_of_not_opens (text : String) (alike : console.Alike (.ofStorage before))
    (closed : ¬before.Opens path) :
    ∃ (after : Console) (ending : Ending), after.Alike (.ofStorage before) ∧ ending.IsRefusal ∧
      console.write path text = (after, ending) := by
  cases path with
  | none => exact absurd nofun closed
  | some path =>
      rw [write, alike.storage]
      dsimp only [ofStorage]
      cases outcome : before.writeBytes (plainPath path) (Utf8.encode (text ++ "\n").toList) with
      | ok storage =>
          obtain ⟨names, leads, -⟩ := Storage.writeBytes_eq_ok_iff.mp outcome
          refine absurd ?_ closed
          rintro given ⟨⟩
          exact ⟨names, leads⟩
      | error error =>
          dsimp only
          split
          · exact ⟨console, .crash (.storage error), alike, ⟨nofun, nofun⟩, rfl⟩
          · exact ⟨_, .exit .refused, alike.complain _, ⟨nofun, nofun⟩, rfl⟩

end Console

/-! ## Runs that write a program -/

/-- A run finds a program in its input. -/
def Surface.Gives (surface : Surface) (arguments : Arguments) (program : Program) : Prop :=
  ∃ bytes, surface.source (givenPath arguments.input) = .ok bytes ∧
    Program.ofBytes bytes = .ok program

/-- What becomes of a run that is asked to write a program. -/
structure Emission (arguments : Arguments) (surface : Surface) (configuration : Configuration)
    (console : Console) (ending : Ending) : Prop where
  /-- The run succeeds if it finds a program, accepts it unless it is told not to check it, and can
  write; and only then. -/
  success_iff : ending = .exit .success ↔
    surface.machine.storage.Opens (givenPath arguments.output) ∧ ∃ program,
      surface.Gives arguments program ∧
        (arguments.unchecked = false → program.verdict configuration = .ok none)
  /-- It then writes this program, and its output can be read and written again. -/
  written : ending = .exit .success → ∀ program, surface.Gives arguments program →
    program.toText arguments.layout arguments.envelope = .ok (arguments.text program) ∧
    console.Writes surface.machine.storage (arguments.line program) (givenPath arguments.output) ∧
      console.released (givenPath arguments.output) = .ok (arguments.lineBytes program) ∧
      console.storage.Opens (givenPath arguments.output)
  /-- It writes nothing otherwise. -/
  silent : ending ≠ .exit .success →
    console.output = "" ∧ console.storage = surface.machine.storage
  /-- It leaves the verdict open exactly if the check meets something that it does not know. -/
  inconclusive_iff : ending = .exit .inconclusive ↔ arguments.unchecked = false ∧
    ∃ program report, surface.Gives arguments program ∧
      program.verdict configuration = .ok (some report) ∧ report.internal

theorem Surface.Gives.toText_eq {surface : Surface} {arguments : Arguments} {program : Program}
    (gives : surface.Gives arguments program) :
    program.toText arguments.layout arguments.envelope = .ok (arguments.text program) := by
  obtain ⟨bytes, -, read⟩ := gives
  exact (Program.sound_of_bytes read).toText_eq _ _

theorem Surface.Gives.unique {surface : Surface} {arguments : Arguments} {program other : Program}
    (gives : surface.Gives arguments program) (gives_other : surface.Gives arguments other) :
    other = program := by
  obtain ⟨bytes, there, read⟩ := gives
  obtain ⟨same, there_too, read_other⟩ := gives_other
  obtain rfl := Except.ok.inj (there.symm.trans there_too)
  exact Except.ok.inj (read_other.symm.trans read)

namespace Emission

variable {arguments : Arguments} {surface : Surface} {configuration : Configuration}
  {console : Console} {ending : Ending} {program : Program}

theorem of_refusal (refusal : ending.IsRefusal)
    (alike : console.Alike (.ofStorage surface.machine.storage))
    (impossible : surface.machine.storage.Opens (givenPath arguments.output) →
      ∀ program, surface.Gives arguments program → arguments.unchecked = false ∧
        program.verdict configuration ≠ .ok none)
    (decided : arguments.unchecked = false → ∀ program report, surface.Gives arguments program →
      program.verdict configuration = .ok (some report) → ¬report.internal) :
    Emission arguments surface configuration console ending := by
  refine ⟨⟨fun success => absurd success refusal.1, ?_⟩, fun success => absurd success refusal.1,
    fun _ => ⟨alike.output, alike.storage⟩,
    ⟨fun inconclusive => absurd inconclusive refusal.2, ?_⟩⟩
  · rintro ⟨opens, program, gives, accepted⟩
    obtain ⟨checked, not_accepted⟩ := impossible opens program gives
    exact absurd (accepted checked) not_accepted
  · rintro ⟨checked, program, report, gives, judged, internal⟩
    exact absurd internal (decided checked program report gives judged)

theorem of_inconclusive {report : Report}
    (alike : console.Alike (.ofStorage surface.machine.storage))
    (checked : arguments.unchecked = false) (gives : surface.Gives arguments program)
    (judged : program.verdict configuration = .ok (some report)) (internal : report.internal) :
    Emission arguments surface configuration console (.exit .inconclusive) := by
  refine ⟨⟨nofun, ?_⟩, nofun, fun _ => ⟨alike.output, alike.storage⟩,
    ⟨fun _ => ⟨checked, program, report, gives, judged, internal⟩, fun _ => rfl⟩⟩
  rintro ⟨opens, other, gives_other, accepted⟩
  have accepted_too := accepted checked
  rw [gives.unique gives_other, judged] at accepted_too
  cases accepted_too

/-- Writing a program that was found, and is accepted unless it is not checked. -/
theorem exists_of_write {blank : Console} (alike : blank.Alike (.ofStorage surface.machine.storage))
    (gives : surface.Gives arguments program)
    (accepted : arguments.unchecked = false → program.verdict configuration = .ok none) :
    ∃ console ending, blank.writeProgram arguments program = (console, ending) ∧
      Emission arguments surface configuration console ending := by
  rw [Console.writeProgram, gives.toText_eq]
  dsimp only
  have decided (checked : arguments.unchecked = false) (other : Program) (report : Report)
      (gives_other : surface.Gives arguments other)
      (judged : other.verdict configuration = .ok (some report)) : ¬report.internal := by
    rw [gives.unique gives_other, accepted checked] at judged
    cases judged
  by_cases opens : surface.machine.storage.Opens (givenPath arguments.output)
  · obtain ⟨console, writes, comes_to⟩ :=
      Console.write_of_opens (arguments.text program) alike opens
    refine ⟨console, _, comes_to, ⟨fun _ => ⟨opens, program, gives, accepted⟩, fun _ => rfl⟩, ?_,
      fun failure => absurd rfl failure, ⟨nofun, ?_⟩⟩
    · intro _ other gives_other
      rw [gives.unique gives_other]
      exact ⟨gives.toText_eq, writes, writes.released, writes.opens⟩
    · rintro ⟨checked, other, report, gives_other, judged, internal⟩
      exact absurd internal (decided checked other report gives_other judged)
  · obtain ⟨console, ending, alike, refusal, comes_to⟩ :=
      Console.write_of_not_opens (arguments.text program) alike opens
    exact ⟨console, ending, comes_to,
      of_refusal refusal alike (fun opens_now => absurd opens_now opens) decided⟩

/-- A program that is found is checked unless the run is told not to, and written if it passes. -/
theorem exists_of_act {blank : Console} {journal : Journal}
    (alike : blank.Alike (.ofStorage surface.machine.storage))
    (to_errors : journal.target = .errorOutput) (gives : surface.Gives arguments program) :
    ∃ console ending,
      Command.emit.act arguments blank journal configuration program = (console, ending) ∧
        Emission arguments surface configuration console ending := by
  rw [Command.act]
  by_cases unchecked : arguments.unchecked
  · rw [if_pos unchecked]
    exact exists_of_write alike gives fun checked => by simp [unchecked] at checked
  · rw [if_neg unchecked]
    have checked : arguments.unchecked = false := by simpa using unchecked
    obtain ⟨console, check_alike, check_eq⟩ :=
      Console.check_alike blank configuration program to_errors
    have console_alike := check_alike.trans alike
    rw [check_eq]
    -- Every program that the run finds is this one.
    have judged_as {other : Program} (gives_other : surface.Gives arguments other) :
        other.verdict configuration = program.verdict configuration := by
      rw [gives.unique gives_other]
    rcases judged : program.verdict configuration with error | _ | report
    · refine ⟨console, _, rfl, of_refusal ⟨nofun, nofun⟩ console_alike ?_ ?_⟩
      · intro _ other gives_other
        exact ⟨checked, by simp [judged_as gives_other, judged]⟩
      · intro _ other report gives_other judged_other
        simp [judged_as gives_other, judged] at judged_other
    · exact exists_of_write console_alike gives fun _ => judged
    · refine ⟨console, _, rfl, ?_⟩
      cases internal : report.internal with
      | true =>
          rw [Report.status, if_pos internal]
          exact of_inconclusive console_alike checked gives judged internal
      | false =>
          rw [Report.status, if_neg (by simp [internal])]
          refine of_refusal ⟨nofun, nofun⟩ console_alike ?_ ?_
          · intro _ other gives_other
            exact ⟨checked, by simp [judged_as gives_other, judged]⟩
          · intro _ other other_report gives_other judged_other
            rw [judged_as gives_other, judged] at judged_other
            cases judged_other
            simp [internal]

end Emission

namespace Command

variable {arguments : Arguments} {surface : Surface} {configuration : Configuration}

theorem exists_emission (ready : Ready arguments surface configuration) :
    ∃ console ending, Command.emit.carryOut arguments surface = (console, ending) ∧
      Emission arguments surface configuration console ending := by
  cases read : readProgram surface.machine.storage surface.input (givenPath arguments.input) with
  | error error =>
      obtain ⟨console, ending, alike, refusal, comes_to⟩ :=
        carryOut_of_unread .emit ready read
      have no_program (program : Program) : ¬surface.Gives arguments program := by
        intro gives
        cases read.symm.trans (readProgram_eq_ok_iff.mpr gives)
      exact ⟨console, ending, comes_to, .of_refusal refusal alike
        (fun _ program gives => absurd gives (no_program program))
        (fun _ program _ gives => absurd gives (no_program program))⟩
  | ok program =>
      obtain ⟨blank, journal, to_errors, alike, comes_to⟩ :=
        carryOut_of_read .emit ready read
      rw [comes_to]
      exact Emission.exists_of_act alike to_errors (readProgram_eq_ok_iff.mp read)

end Command

/-! ## Output that is used again -/

/-- The words of a command line ask for a command with some arguments. -/
structure Asks (words : List String) (command : Command) (arguments : Arguments) : Prop where
  named : (Command.ofWords words).1 = command
  settled : command.arguments (Command.ofWords words).2 = .ok arguments

theorem run_of_asks {words : List String} {command : Command} {arguments : Arguments}
    (asks : Asks words command arguments) {surface : Surface} {console : Console} {ending : Ending}
    (comes_to : command.carryOut arguments surface = (console, ending)) :
    run words surface = .carriedOut console ending := by
  obtain ⟨rfl, settled⟩ := asks
  rw [run]
  dsimp only
  rw [settled]
  dsimp only
  rw [comes_to]

/-- Every check of a program that is read from some bytes succeeds under a configuration. -/
def Rechecks (configuration : Configuration) (bytes : List UInt8) : Prop :=
  ∀ words arguments surface, Asks words .check arguments →
    Command.Ready arguments surface configuration →
    surface.source (givenPath arguments.input) = .ok bytes →
    ∃ console, run words surface = .carriedOut console (.exit .success)

/-- The options that say how a program is written and where, and whether it is checked. -/
structure Arguments.SameFlags (arguments other : Arguments) : Prop where
  output : arguments.output = other.output
  compact : arguments.compact = other.compact
  envelope : arguments.envelope = other.envelope
  unchecked : arguments.unchecked = other.unchecked

/-- Every run with the same options writes the program that it reads from some bytes as these bytes,
under a configuration and where it can write. -/
def Reproduces (arguments : Arguments) (configuration : Configuration) (bytes : List UInt8) :
    Prop :=
  ∀ words again surface, Asks words .emit again → again.SameFlags arguments →
    Command.Ready again surface configuration →
    surface.source (givenPath again.input) = .ok bytes →
    surface.machine.storage.Opens (givenPath again.output) →
    ∃ console, run words surface = .carriedOut console (.exit .success) ∧
      console.released (givenPath again.output) = .ok bytes

theorem Arguments.SameFlags.lineBytes_eq {arguments other : Arguments}
    (same : arguments.SameFlags other) (program : Program) :
    arguments.lineBytes program = other.lineBytes program := by
  rw [lineBytes, lineBytes, line, line, text, text, layout, layout, same.compact, same.envelope]

namespace Program.Writable

variable {program : Program} (writable : program.Writable)

include writable

/-- A program is read back from the bytes that are written for it. -/
theorem ofBytes_lineBytes (arguments : Arguments) :
    Program.ofBytes (arguments.lineBytes program) = .ok program := by
  have allowed := writable.line_allowed arguments.layout arguments.envelope
  rw [← arguments.toList_line program] at allowed
  have no_return : ∀ c ∈ (arguments.line program).toList, c ≠ '\r' := by
    rintro c member rfl
    rcases allowed _ member with ink | line_end
    · exact absurd ink (by decide)
    · exact absurd line_end (by decide)
  rw [Program.ofBytes, Arguments.lineBytes, decodeText_encode,
    Text.unifyNewlines_of_no_return no_return]
  dsimp only
  rw [arguments.toList_line, writable.read_line]
  rfl

theorem rechecks {configuration : Configuration} (arguments : Arguments)
    (accepted : program.verdict configuration = .ok none) :
    Rechecks configuration (arguments.lineBytes program) := by
  intro words again surface asks ready there
  have read := readProgram_eq_ok_iff.mpr ⟨_, there, writable.ofBytes_lineBytes arguments⟩
  obtain ⟨blank, journal, to_errors, -, comes_to⟩ :=
    Command.carryOut_of_read .check ready read
  obtain ⟨console, -, check_eq⟩ :=
    Console.check_alike blank configuration program to_errors
  obtain ⟨name, named⟩ := writable.name_plain.showable.exists_asName
  rw [Command.act, check_eq, accepted] at comes_to
  dsimp only [continuation] at comes_to
  rw [named] at comes_to
  exact ⟨_, run_of_asks asks comes_to⟩

theorem reproduces {configuration : Configuration} {arguments : Arguments}
    (accepted : arguments.unchecked = false → program.verdict configuration = .ok none) :
    Reproduces arguments configuration (arguments.lineBytes program) := by
  intro words again surface asks same ready there opens
  obtain ⟨console, ending, comes_to, emission⟩ := Command.exists_emission ready
  have gives : surface.Gives again program := ⟨_, there, writable.ofBytes_lineBytes arguments⟩
  have success : ending = .exit .success := by
    refine emission.success_iff.mpr ⟨opens, program, gives, fun checked => ?_⟩
    exact accepted (same.unchecked ▸ checked)
  obtain ⟨-, -, released, -⟩ := emission.written success program gives
  rw [same.lineBytes_eq program] at released
  exact ⟨console, success ▸ run_of_asks asks comes_to, released⟩

end Program.Writable

/-- A run that is asked to write a program writes nothing unless it succeeds.  If it does, then what
it writes is the text of the program and a line end; unless the program is not checked, it is
accepted, by this run and by every check of the output; and writing the output again gives the
output again.  The verdict is left open exactly where the check meets something that it does not
know. -/
theorem emission_checked_and_stable {words : List String} {arguments : Arguments}
    {surface : Surface} {configuration : Configuration} (asks : Asks words .emit arguments)
    (ready : Command.Ready arguments surface configuration) :
    ∃ console ending, run words surface = .carriedOut console ending ∧
      Emission arguments surface configuration console ending ∧
      (ending = .exit .success → ∀ program, surface.Gives arguments program →
        program.name.FloatFree →
          (arguments.unchecked = false →
            Rechecks configuration (arguments.lineBytes program)) ∧
          Reproduces arguments configuration (arguments.lineBytes program)) := by
  obtain ⟨console, ending, comes_to, emission⟩ := Command.exists_emission ready
  refine ⟨console, ending, run_of_asks asks comes_to, emission, ?_⟩
  intro success program gives name_free
  have accepted (checked : arguments.unchecked = false) :
      program.verdict configuration = .ok none := by
    obtain ⟨-, found, gives_found, accepted⟩ := emission.success_iff.mp success
    rw [gives_found.unique gives]
    exact accepted checked
  have writable : program.Writable := by
    obtain ⟨bytes, -, read⟩ := gives
    exact (Program.sound_of_bytes read).writable name_free
  exact ⟨fun checked => writable.rechecks arguments (accepted checked),
    writable.reproduces accepted⟩

/-- A command line that asks for a program to be written to a file, on one line. -/
def courierWords : List String := ["emit", "--compact", "-o", "out.json"]

/-- What this command line settles. -/
def courierArguments : Arguments :=
  { Arguments.standard with output := some "out.json", compact := true }

/-- A patrol on the standard input, indented and in an envelope. -/
def courier : Surface :=
  { machine := { storage := .empty, environment := [], home := "home" }
    input := { Arguments.standard with envelope := true }.lineBytes patrol }

/-- The patrol leaves its envelope and is written to the file, and this file can be used in its
turn. -/
theorem courier_releases_patrol :
    ∃ console, run courierWords courier = .carriedOut console (.exit .success) ∧
      console.released (some "out.json") = .ok (courierArguments.lineBytes patrol) ∧
      Rechecks .standard (courierArguments.lineBytes patrol) ∧
      Reproduces courierArguments .standard (courierArguments.lineBytes patrol) := by
  obtain ⟨console, ending, comes_to, emission, stable⟩ := @emission_checked_and_stable
    courierWords courierArguments courier .standard ⟨rfl, rfl⟩ ⟨rfl, rfl, rfl⟩
  have opens : courier.machine.storage.Opens (givenPath courierArguments.output) := by
    rintro given ⟨⟩
    exact ⟨["out.json"], rfl, by decide⟩
  have short : ∀ value ∈ patrol.integers, (Nat.toDigits 10 value.natAbs).length ≤ 4300 := by
    decide
  have writable : patrol.Writable := ⟨.string, Json.isName_string "patrol", short⟩
  have read : Program.ofBytes courier.input = .ok patrol := by
    dsimp only [courier]
    exact writable.ofBytes_lineBytes _
  have gives : courier.Gives courierArguments patrol := ⟨courier.input, rfl, read⟩
  have accepted : patrol.verdict .standard = .ok none := rfl
  have success : ending = .exit .success :=
    emission.success_iff.mpr ⟨opens, patrol, gives, fun _ => accepted⟩
  obtain ⟨-, -, released, -⟩ := emission.written success patrol gives
  obtain ⟨rechecks, reproduces⟩ := stable success patrol gives .string
  exact ⟨console, success ▸ comes_to, released, rechecks rfl, reproduces⟩

end RobotCity
