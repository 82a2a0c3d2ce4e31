import RobotCity.Proofs.Acceptance
import RobotCity.Proofs.CommandLine.Emission
import RobotCity.Proofs.Configuration.Bounds
import RobotCity.Proofs.ProgramFiles

/-!
# Checks that say what came of them

A check of an input that can be read ends with a status, and the last line of the error output says
what came of it.  It breaks off only where it gives up on a number of too many digits.
-/

namespace RobotCity

/-- A run has ended with a status, and the last line of the error output says what came of it. -/
inductive Console.Settles (console : Console) : Ending → Prop
  | accepted {before : Console} {told : String} :
    console = before.complain ("OK: " ++ told) → Settles console (.exit .success)
  | refused {before : Console} {told : String} {status : ExitStatus} :
    status ≠ .success → console = before.complain ("Error: " ++ told) →
    Settles console (.exit status)

/-- A run has settled its input, or breaks off at a number of too many digits in it. -/
def Console.SettlesOrGivesUp (bytes : List UInt8) (console : Console) (ending : Ending) : Prop :=
  console.Settles ending ∨ ∃ digits, ending = .crash (.longNumeral digits) ∧
    FileError.GivesUpIn bytes (.text (.longNumeral digits))

theorem readProgram_of_source {storage : Storage} {surface : Surface} {path : Option String}
    {bytes : List UInt8}
    (readable : { surface with machine := { surface.machine with storage } }.source path =
      .ok bytes) : readProgram storage surface.input path = Program.ofBytes bytes := by
  cases path with
  | none =>
      cases readable
      rfl
  | some path =>
      rw [Surface.source] at readable
      rw [readProgram, Program.ofFile, readable]

/-- What a run says about a broken document. -/
theorem readingNotice_of_format {path : Option String} {error : FileError}
    (broken : error.errorClass = .format) :
    ∃ told, readingNotice path error = .ok ("Error: " ++ told) := by
  have notice (message : String) :
      "Error: Malformed program AST: " ++ message =
        "Error: " ++ ("Malformed program AST: " ++ message) := by
    rw [← String.append_assoc]
    rfl
  cases error with
  | storage error => cases broken
  | encoding error => exact ⟨_, congrArg Except.ok (notice _)⟩
  | text error =>
      cases error with
      | malformed defect line column => exact ⟨_, congrArg Except.ok (notice _)⟩
      | longNumeral digits => cases broken
      | unshown defect => cases broken
      | misshapen shape => exact ⟨_, congrArg Except.ok (notice _)⟩

namespace Console

variable {console : Console} {journal : Journal}

/-- A program that cannot be read settles the run, unless a number is given up. -/
theorem settles_of_unread {input : List UInt8} {path : Option String} {bytes : List UInt8}
    {error : FileError}
    (unread : RobotCity.readProgram
      (console.recordAll journal (readingRecords path)).storage input path = .error error)
    (refused : error.errorClass = .format ∨ error.GivesUpIn bytes) :
    ∃ after ending, console.readProgram journal input path = (after, .error ending) ∧
      after.SettlesOrGivesUp bytes ending := by
  rw [readProgram, unread]
  dsimp only
  rcases refused with broken | gives_up
  · obtain ⟨told, notice⟩ := readingNotice_of_format broken
    rw [notice]
    exact ⟨_, _, rfl, .inl (.refused (by decide) rfl)⟩
  · obtain ⟨text, _, decoded, rfl, digits, rfl, too_many, holds⟩ := gives_up
    exact ⟨_, _, rfl, .inr ⟨digits, rfl, text, _, decoded, rfl, digits, rfl, too_many, holds⟩⟩

/-- A check of a program settles the run, whatever the verdict is. -/
theorem settles_of_check (arguments : Arguments) {configuration : Configuration} {program : Program}
    {verdict : Verdict} (name_showable : program.name.Showable)
    (judged : program.verdict configuration = .ok verdict) :
    ∃ after ending,
      Command.check.act arguments console journal configuration program = (after, ending) ∧
        after.Settles ending := by
  rw [← Program.logged_verdict] at judged
  rw [Command.act, check]
  generalize program.logged configuration = outcome at judged ⊢
  obtain ⟨records, found⟩ := outcome
  obtain rfl : found = .ok verdict := judged
  cases verdict with
  | none =>
      obtain ⟨name, named⟩ := name_showable.exists_asName
      have line : s!"OK: program '{name}' is valid" =
          "OK: " ++ ("program '" ++ name ++ "' is valid") := by
        simp only [← String.append_assoc]
        rfl
      dsimp only
      rw [named]
      exact ⟨_, _, rfl, .accepted (congrArg _ line)⟩
  | some report =>
      refine ⟨_, _, rfl, .refused ?_ rfl⟩
      rw [Report.status]
      split <;> decide

end Console

/-- What a run finds once its log has been opened and tells from which file the program is read. -/
def Surface.logging (surface : Surface) (journal : Journal) (storage : Storage)
    (path : Option String) : Surface :=
  { surface with
    machine := { surface.machine with
      storage := ((Console.ofStorage storage).recordAll journal (readingRecords path)).storage } }

namespace Command

/-- A check has what it needs: a level and a place for its log, a configuration in which texts stand for
the kinds of items, and an input that can be read. -/
structure Equipped (arguments : Arguments) (surface : Surface) (journal : Journal)
    (storage : Storage) (configuration : Configuration) (bytes : List UInt8) : Prop where
  level_given : arguments.level = some journal.level
  log_opens : LogTarget.open? surface.machine.storage (givenPath arguments.logFile) =
    .ok (storage, journal.target)
  loads : { surface.machine with storage }.loadConfiguration arguments.config = .ok configuration
  kinds_given : ∃ kinds : List Text, configuration.settings.itemKinds = kinds.map .string
  readable : (surface.logging journal storage (givenPath arguments.input)).source
    (givenPath arguments.input) = .ok bytes

theorem carryOut_settles {arguments : Arguments} {surface : Surface} {journal : Journal}
    {storage : Storage} {configuration : Configuration} {bytes : List UInt8}
    (equipped : Equipped arguments surface journal storage configuration bytes) :
    ∃ console ending, Command.check.carryOut arguments surface = (console, ending) ∧
      console.SettlesOrGivesUp bytes ending := by
  have read := readProgram_of_source equipped.readable
  rw [carryOut, equipped.log_opens]
  dsimp only
  rw [equipped.level_given]
  dsimp only
  rw [equipped.loads]
  dsimp only
  cases given : Program.ofBytes bytes with
  | error error =>
      have unread := read.trans given
      obtain ⟨after, ending, stopped, settled⟩ :=
        Console.settles_of_unread unread (FileError.format_or_givesUp given)
      rw [stopped]
      exact ⟨after, ending, rfl, settled⟩
  | ok program =>
      rw [given] at read
      obtain ⟨kinds, kinds_given⟩ := equipped.kinds_given
      obtain ⟨verdict, judged⟩ : ∃ verdict, program.verdict configuration = .ok verdict :=
        Program.verdict_total (Configuration.showable_of_loaded equipped.loads) kinds_given
      rw [Console.readProgram, read]
      dsimp only
      obtain ⟨after, ending, settled_as, settled⟩ :=
        Console.settles_of_check arguments (Program.sound_of_bytes given).name_sound.showable judged
      exact ⟨after, ending, settled_as, .inl settled⟩

/-- A check breaks off where its input is given up for the digits of a number. -/
theorem carryOut_breaks_off {arguments : Arguments} {surface : Surface} {journal : Journal}
    {storage : Storage} {configuration : Configuration} {bytes : List UInt8} {digits : Nat}
    (equipped : Equipped arguments surface journal storage configuration bytes)
    (given_up : Program.ofBytes bytes = .error (.text (.longNumeral digits))) :
    ∃ console, Command.check.carryOut arguments surface =
      (console, .crash (.longNumeral digits)) := by
  have unread := (readProgram_of_source equipped.readable).trans given_up
  rw [carryOut, equipped.log_opens]
  dsimp only
  rw [equipped.level_given]
  dsimp only
  rw [equipped.loads]
  dsimp only
  rw [Console.readProgram, unread]
  exact ⟨_, rfl⟩

end Command

/-- A text and the bytes of a file are refused as a broken document or give up on a number of more than
4300 digits; and a check that has what it needs ends with a status and a line that says what came of it,
unless it gives up on such a number. -/
theorem refusals_name_the_document (text : List Char) (storage : Storage) (path : String)
    (bytes : List UInt8) (words : List String) (arguments : Arguments) (surface : Surface)
    (journal : Journal) (opened : Storage) (configuration : Configuration) :
    (∀ error, Program.ofChars text = .error error →
      error.errorClass = .format ∨ error.GivesUpIn text) ∧
    (∀ error, storage.readBytes (plainPath path) = .ok bytes →
      Program.ofFile storage path = .error error →
        error.errorClass = .format ∨ error.GivesUpIn bytes) ∧
    (Asks words .check arguments →
      Command.Equipped arguments surface journal opened configuration bytes →
        ∃ console ending, run words surface = .carriedOut console ending ∧
          console.SettlesOrGivesUp bytes ending) := by
  refine ⟨fun _ => TextError.format_or_givesUp, ?_, ?_⟩
  · intro error there refused
    rw [Program.ofFile, there] at refused
    exact FileError.format_or_givesUp refused
  · intro asks equipped
    obtain ⟨console, ending, comes_to, settled⟩ := Command.carryOut_settles equipped
    exact ⟨console, ending, run_of_asks asks comes_to, settled⟩

/-- A document in which the areas are no list. -/
def misfit : List Char := "\x7b\"AREAS\": 5\x7d".toList

theorem misfit_refused :
    Program.ofChars misfit = .error (.misshapen ⟨.notList "AREAS", .program⟩) := by
  have plain : (Json.object [("AREAS", .integer 5)]).Plain :=
    plain_object (by simp) (.integer (Nat.le_of_ble_eq_true rfl))
  have read : Json.readChars misfit = .ok (.object [("AREAS", .integer 5)]) :=
    Json.readChars_written plain .line
  rw [Program.ofChars_of_readChars read]
  rfl

/-- A number of 4301 digits. -/
def endless : List Char := List.replicate 4301 '1'

theorem endless_digits : ∀ c ∈ endless, c.isDigit := by
  intro c member
  rw [List.eq_of_mem_replicate member]
  rfl

theorem endless_refused : Program.ofChars endless = .error (.longNumeral 4301) := by
  have size : ('1' :: List.replicate 4300 '1').length = 4301 := by
    rw [List.length_cons, List.length_replicate]
  have digits := endless_digits
  rw [endless, List.replicate_succ] at digits ⊢
  have stopped := Json.readChars_digits (by decide) digits (by rw [size]; decide)
  rw [size] at stopped
  rw [Program.ofChars, stopped]

/-- A storage that holds both in files. -/
def rejects : Storage :=
  ⟨[ (["misfit.json"], .file (Utf8.encode misfit))
   , (["endless.json"], .file (Utf8.encode endless)) ]⟩

/-- What a run finds that has a text on its standard input. -/
def Surface.ofText (text : List Char) : Surface :=
  { courier with input := Utf8.encode text }

theorem Surface.equipped_ofText (text : List Char) :
    Command.Equipped .standard (.ofText text) ⟨.warning, .errorOutput⟩ .empty .standard
      (Utf8.encode text) := by
  have no_file : givenPath Arguments.standard.input = none := rfl
  have loads : Machine.loadConfiguration courier.machine none = .ok .standard := rfl
  refine ⟨rfl, rfl, loads, ⟨["flower", "paper"], rfl⟩, ?_⟩
  rw [no_file, source, logging]
  rfl

/-- A misshapen document is refused as such, and a check of it ends with a line about it; a number of 4301
digits is given up wherever it stands, and a check of it breaks off. -/
theorem rejects_settled :
    ((∃ error, Program.ofChars misfit = .error error ∧ error.errorClass = .format) ∧
      (∃ error, Program.ofFile rejects "./misfit.json" = .error error ∧
        error.errorClass = .format) ∧
      ∃ console ending, run [] (.ofText misfit) = .carriedOut console ending ∧
        console.Settles ending) ∧
    (∃ error, Program.ofChars endless = .error error ∧ error.GivesUpIn endless) ∧
      (∃ error, Program.ofFile rejects "./endless.json" = .error error ∧
        error.GivesUpIn (Utf8.encode endless)) ∧
      ∃ console, run [] (.ofText endless) = .carriedOut console (.crash (.longNumeral 4301)) ∧
        console.SettlesOrGivesUp (Utf8.encode endless) (.crash (.longNumeral 4301)) := by
  constructor
  · obtain ⟨as_text, as_file, checked⟩ :=
      refusals_name_the_document misfit rejects "./misfit.json" (Utf8.encode misfit) [] .standard
        (.ofText misfit) ⟨.warning, .errorOutput⟩ .empty .standard
    have holds : rejects.readBytes (plainPath "./misfit.json") = .ok (Utf8.encode misfit) := rfl
    have file_refused : Program.ofFile rejects "./misfit.json" =
        .error (.text (.misshapen ⟨.notList "AREAS", .program⟩)) := by
      rw [Program.ofFile_eq_ofChars holds]
      change (Program.ofChars misfit).mapError FileError.text = _
      rw [misfit_refused]
      rfl
    refine ⟨⟨_, misfit_refused, (as_text _ misfit_refused).resolve_right ?_⟩,
      ⟨_, file_refused, (as_file _ holds file_refused).resolve_right ?_⟩, ?_⟩
    · rintro ⟨_, ⟨⟩, -⟩
    · rintro ⟨_, _, -, ⟨⟩, _, ⟨⟩, -⟩
    obtain ⟨console, ending, comes_to, settled | ⟨digits, rfl, gives_up⟩⟩ :=
      checked ⟨rfl, rfl⟩ (Surface.equipped_ofText misfit)
    · exact ⟨console, ending, comes_to, settled⟩
    · obtain ⟨_, _, decoded, ⟨⟩, _, ⟨⟩, too_many, row, inside, long, -⟩ := gives_up
      rw [decodeText_encode] at decoded
      cases decoded
      have short : row.length ≤ misfit.length := inside.length_le
      have few : misfit.length ≤ 4300 := by decide
      omega
  · obtain ⟨as_text, as_file, checked⟩ :=
      refusals_name_the_document endless rejects "./endless.json" (Utf8.encode endless) [] .standard
        (.ofText endless) ⟨.warning, .errorOutput⟩ .empty .standard
    have holds : rejects.readBytes (plainPath "./endless.json") = .ok (Utf8.encode endless) := rfl
    have unified : Text.unifyNewlines endless = endless :=
      Text.unifyNewlines_of_no_return fun c member => Json.ne_of_isDigit (endless_digits c member) rfl
    have file_refused : Program.ofFile rejects "./endless.json" =
        .error (.text (.longNumeral 4301)) := by
      rw [Program.ofFile_eq_ofChars holds, unified, endless_refused]
      rfl
    have unread : Program.ofBytes (Utf8.encode endless) = .error (.text (.longNumeral 4301)) := by
      rw [Program.ofBytes, decodeText_encode, unified]
      dsimp only
      rw [endless_refused]
      rfl
    obtain ⟨console, ending, comes_to, given_up⟩ :=
      checked ⟨rfl, rfl⟩ (Surface.equipped_ofText endless)
    obtain ⟨same, breaks_off⟩ :=
      Command.carryOut_breaks_off (Surface.equipped_ofText endless) unread
    cases comes_to.symm.trans (run_of_asks ⟨rfl, rfl⟩ breaks_off)
    have no_format : ErrorClass.number ≠ .format := by decide
    exact ⟨⟨_, endless_refused, (as_text _ endless_refused).resolve_left no_format⟩,
      ⟨_, file_refused, (as_file _ holds file_refused).resolve_left no_format⟩,
      console, comes_to, given_up⟩

/-- A number of 4301 digits is a JSON text, but refused neither as JSON nor for its shape. -/
theorem long_numeral_escapes :
    Program.ofChars (List.replicate 4301 '1') = .error (.longNumeral 4301) ∧
      ¬∀ text error, Program.ofChars text = .error error → error.errorClass = .format := by
  refine ⟨endless_refused, fun all_format => ?_⟩
  cases all_format _ _ endless_refused

end RobotCity
