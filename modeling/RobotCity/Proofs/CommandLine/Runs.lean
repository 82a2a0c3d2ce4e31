import RobotCity.CommandLine.Run
import RobotCity.Proofs.Storage

/-!
# What a run comes to

A run reads its program, checks it and does something with it.  Up to then it writes to nothing but
the error output, as long as its log goes there too.
-/

namespace RobotCity

namespace Console

/-- A console differs from another one in nothing but its error output. -/
structure Alike (console other : Console) : Prop where
  storage : console.storage = other.storage
  output : console.output = other.output

namespace Alike

variable {console other last : Console}

theorem refl (console : Console) : console.Alike console :=
  ⟨rfl, rfl⟩

theorem trans (first : console.Alike other) (second : other.Alike last) : console.Alike last :=
  ⟨first.storage.trans second.storage, first.output.trans second.output⟩

theorem complain (alike : console.Alike other) (line : String) :
    (console.complain line).Alike other :=
  ⟨alike.storage, alike.output⟩

theorem record (alike : console.Alike other) {journal : Journal}
    (to_errors : journal.target = .errorOutput) (entry : LogRecord) :
    (console.record journal entry).Alike other := by
  rw [Console.record, to_errors]
  split
  · exact alike
  · exact alike.complain entry.line

theorem recordAll (alike : console.Alike other) {journal : Journal}
    (to_errors : journal.target = .errorOutput) (entries : List LogRecord) :
    (console.recordAll journal entries).Alike other := by
  induction entries generalizing console with
  | nil => exact alike
  | cons entry rest ih => exact ih (alike.record to_errors entry)

end Alike

end Console

/-- The bytes from which a run reads its program: those of a file, or those of the standard input
where no file is given. -/
def Surface.source (surface : Surface) : Option String → Except StorageError (List UInt8)
  | none => .ok surface.input
  | some path => surface.machine.storage.readBytes (plainPath path)

theorem readProgram_eq_ok_iff {surface : Surface} {path : Option String} {program : Program} :
    readProgram surface.machine.storage surface.input path = .ok program ↔
      ∃ bytes, surface.source path = .ok bytes ∧ Program.ofBytes bytes = .ok program := by
  cases path with
  | none => simp [readProgram, Surface.source]
  | some path =>
      rw [readProgram, Program.ofFile, Surface.source]
      cases surface.machine.storage.readBytes (plainPath path) <;> simp

/-- How a run goes on after a check, or ends. -/
def continuation : Except CheckError Verdict → Except Ending Unit
  | .ok none => .ok ()
  | .ok (some report) => .error (.exit report.status)
  | .error error => .error (.crash (.check error))

/-- An ending with which a run neither succeeds nor leaves the verdict open. -/
def Ending.IsRefusal (ending : Ending) : Prop :=
  ending ≠ .exit .success ∧ ending ≠ .exit .inconclusive

namespace Console

variable {console : Console} {journal : Journal} {input : List UInt8} {path : Option String}

theorem readProgram_of_read {program : Program} (to_errors : journal.target = .errorOutput)
    (read : RobotCity.readProgram console.storage input path = .ok program) :
    ∃ after : Console, after.Alike console ∧
      console.readProgram journal input path = (after, .ok program) := by
  have alike := (Alike.refl console).recordAll to_errors (readingRecords path)
  refine ⟨_, alike, ?_⟩
  rw [readProgram, alike.storage, read]

theorem readProgram_of_unread {error : FileError} (to_errors : journal.target = .errorOutput)
    (unread : RobotCity.readProgram console.storage input path = .error error) :
    ∃ (after : Console) (ending : Ending), after.Alike console ∧ ending.IsRefusal ∧
      console.readProgram journal input path = (after, .error ending) := by
  have alike := (Alike.refl console).recordAll to_errors (readingRecords path)
  rw [readProgram, alike.storage, unread]
  dsimp only
  cases readingNotice path error with
  | ok notice => exact ⟨_, .exit .refused, alike.complain notice, ⟨nofun, nofun⟩, rfl⟩
  | error cause => exact ⟨_, .crash cause, alike, ⟨nofun, nofun⟩, rfl⟩

/-- A run goes on after a check only if the program is accepted. -/
theorem check_alike (console : Console) (configuration : Configuration) (program : Program)
    (to_errors : journal.target = .errorOutput) :
    ∃ after : Console, after.Alike console ∧
      console.check journal configuration program =
        (after, continuation (program.verdict configuration)) := by
  rw [check, ← Program.logged_verdict]
  obtain ⟨records, verdict⟩ := program.logged configuration
  have alike := (Alike.refl console).recordAll to_errors records
  rcases verdict with error | _ | report
  · exact ⟨_, alike, rfl⟩
  · exact ⟨_, alike, rfl⟩
  · exact ⟨_, alike.complain _, rfl⟩

end Console

namespace Command

/-- The configuration of a run can be loaded, and its log goes to the error output. -/
structure Ready (arguments : Arguments) (surface : Surface) (configuration : Configuration) :
    Prop where
  level_given : arguments.level.isSome
  log_to_errors : givenPath arguments.logFile = none
  loads : surface.machine.loadConfiguration arguments.config = .ok configuration

variable (command : Command) {arguments : Arguments} {surface : Surface}
  {configuration : Configuration} {program : Program}

/-- A run whose program can be read comes to what its command does with the program. -/
theorem carryOut_of_read (ready : Ready arguments surface configuration)
    (read : readProgram surface.machine.storage surface.input (givenPath arguments.input) =
      .ok program) :
    ∃ (console : Console) (journal : Journal), journal.target = .errorOutput ∧
      console.Alike (.ofStorage surface.machine.storage) ∧
      command.carryOut arguments surface =
        command.act arguments console journal configuration program := by
  obtain ⟨level, level_given⟩ := Option.isSome_iff_exists.mp ready.level_given
  let journal : Journal := { level, target := .errorOutput }
  obtain ⟨console, alike, reads⟩ := @Console.readProgram_of_read
    (.ofStorage surface.machine.storage) journal surface.input (givenPath arguments.input) program
    rfl read
  refine ⟨console, journal, rfl, alike, ?_⟩
  rw [carryOut, ready.log_to_errors, level_given]
  dsimp only [LogTarget.open?]
  rw [ready.loads]
  dsimp only
  rw [reads]

/-- A run whose program cannot be read ends with a complaint at most. -/
theorem carryOut_of_unread (ready : Ready arguments surface configuration) {error : FileError}
    (unread : readProgram surface.machine.storage surface.input (givenPath arguments.input) =
      .error error) :
    ∃ (console : Console) (ending : Ending), console.Alike (.ofStorage surface.machine.storage) ∧
      ending.IsRefusal ∧ command.carryOut arguments surface = (console, ending) := by
  obtain ⟨level, level_given⟩ := Option.isSome_iff_exists.mp ready.level_given
  obtain ⟨console, ending, alike, refusal, reads⟩ := @Console.readProgram_of_unread
    (.ofStorage surface.machine.storage) ⟨level, .errorOutput⟩ surface.input
    (givenPath arguments.input) error rfl unread
  refine ⟨console, ending, alike, refusal, ?_⟩
  rw [carryOut, ready.log_to_errors, level_given]
  dsimp only [LogTarget.open?]
  rw [ready.loads]
  dsimp only
  rw [reads]

end Command

end RobotCity
