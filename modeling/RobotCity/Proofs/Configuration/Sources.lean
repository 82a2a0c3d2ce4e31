import RobotCity.Configuration.Source
import RobotCity.Proofs.Storage

/-!
# One source for a configuration

A configuration comes from the one file that is meant, or from the variables of the environment if that
file is not there.  Which file is meant depends on where files are, but not on what they hold.  No other
file and no other variable has a say in the configuration.
-/

namespace RobotCity

/-- What stands at a place of two storages: nothing, a file or a directory in both. -/
inductive Entry.AlikeAt : Option Entry → Option Entry → Prop
  | nothing : AlikeAt none none
  | file (bytes others : List UInt8) : AlikeAt (some (.file bytes)) (some (.file others))
  | directory : AlikeAt (some .directory) (some .directory)

theorem Entry.AlikeAt.symm {entry other : Option Entry} (alike : AlikeAt entry other) :
    AlikeAt other entry := by
  cases alike with
  | nothing => exact .nothing
  | file bytes others => exact .file others bytes
  | directory => exact .directory

theorem Entry.AlikeAt.refl (entry : Option Entry) : AlikeAt entry entry := by
  rcases entry with _ | ⟨bytes⟩ | _
  · exact .nothing
  · exact .file bytes bytes
  · exact .directory

namespace Storage

/-- Two storages have their files and directories at the same places, whatever the files hold. -/
def SameLayout (storage other : Storage) : Prop :=
  ∀ names, Entry.AlikeAt (Storage.entry? storage names) (Storage.entry? other names)

/-- A file that is written anew stays where it is. -/
theorem sameLayout_set {storage : Storage} {names : List String} {old : List UInt8}
    (found : Storage.entry? storage names = some (.file old)) (bytes : List UInt8) :
    storage.SameLayout (storage.set names (.file bytes)) := by
  intro other
  by_cases same : other = names
  · have inside : ¬isOutside names := not_isOutside_of_no_directory (by rw [found]; simp)
    rw [same, entry?_set_self inside, found]
    exact .file old bytes
  · rw [entry?_set_of_ne same]
    exact .refl _

namespace SameLayout

variable {storage other : Storage}

theorem symm (same : storage.SameLayout other) : other.SameLayout storage :=
  fun names => (same names).symm

theorem follow (same : storage.SameLayout other) (reached steps : List String) :
    other.follow reached steps = storage.follow reached steps := by
  induction steps generalizing reached with
  | nil => rfl
  | cons name rest ih =>
      have alike := same reached
      rw [Storage.follow, Storage.follow]
      generalize Storage.entry? storage reached = here at alike ⊢
      generalize Storage.entry? other reached = there at alike ⊢
      cases alike with
      | nothing => rfl
      | file bytes others => rfl
      | directory => exact ih (step reached name)

theorem resolve (same : storage.SameLayout other) (path : String) :
    other.resolve path = storage.resolve path := by
  rw [Storage.resolve, Storage.resolve, resolveSteps, resolveSteps, same.follow]

/-- Paths lead to the same files. -/
theorem isFile (same : storage.SameLayout other) (path : String) :
    other.isFile path = storage.isFile path := by
  rw [Storage.isFile, Storage.isFile, readBytes, readBytes, same.resolve]
  cases storage.resolve path with
  | error error => rfl
  | ok names =>
      have alike := same names
      simp only [bind, Except.bind]
      generalize Storage.entry? storage names = here at alike ⊢
      generalize Storage.entry? other names = there at alike ⊢
      cases alike <;> rfl

end SameLayout
end Storage

/-- A path that is left out or empty. -/
def Unsaid (path : Option String) : Prop :=
  path = none ∨ path = some ""

theorem filter_eq_none_iff_unsaid {path : Option String} :
    path.filter (· ≠ "") = none ↔ Unsaid path := by
  cases path <;> simp [Unsaid, Option.filter_eq_none_iff]

namespace Machine

/-- The configuration file in the home directory. -/
def homeFile (machine : Machine) : String :=
  machine.home ++ "/.robotscript/" ++ usualName

/-- The configuration file that is meant, there or not: the one that is asked for, else the one that the
environment names, else the one in the current directory if it is there, else the one in the home
directory if it is there. -/
inductive Means (machine : Machine) (asked : Option String) : String → Prop
  | asked {path : String} (asks : asked = some path) (given : path ≠ "") : Means machine asked path
  | named {path : String} (unasked : Unsaid asked)
      (names : machine.environment.lookup fileVariable = some path) (given : path ≠ "") :
      Means machine asked path
  | current (unasked : Unsaid asked) (unnamed : Unsaid (machine.environment.lookup fileVariable))
      (there : machine.storage.isFile usualName) : Means machine asked usualName
  | home (unasked : Unsaid asked) (unnamed : Unsaid (machine.environment.lookup fileVariable))
      (missing : ¬machine.storage.isFile usualName) (there : machine.storage.isFile machine.homeFile) :
      Means machine asked machine.homeFile

/-- The configuration file that is meant, if there is any, is not there. -/
def FindsNoFile (machine : Machine) (asked : Option String) : Prop :=
  ∀ path, machine.Means asked path → ¬machine.storage.isFile path

variable {machine other : Machine} {asked : Option String} {path : String}

theorem find?_usualFiles_eq_some_iff :
    machine.usualFiles.find? machine.storage.isFile = some path ↔
      machine.storage.isFile usualName ∧ path = usualName ∨
        ¬machine.storage.isFile usualName ∧ machine.storage.isFile machine.homeFile ∧
          path = machine.homeFile := by
  rw [usualFiles, List.find?_cons, List.find?_singleton]
  split <;> rename_i there
  · simp [there, eq_comm (a := path)]
  · simp [there, homeFile, eq_comm (a := path)]

theorem meantFile?_eq_some_iff : machine.meantFile? asked = some path ↔ machine.Means asked path := by
  rw [meantFile?]
  cases asks : asked.filter (· ≠ "") with
  | some given =>
      obtain ⟨rfl, nonempty⟩ : asked = some given ∧ given ≠ "" := by simpa using asks
      constructor
      · rintro ⟨⟩
        exact .asked rfl nonempty
      · intro means
        cases means with
        | asked asks given => exact asks
        | named unasked | current unasked | home unasked => simp [Unsaid, nonempty] at unasked
  | none =>
      have unasked := filter_eq_none_iff_unsaid.mp asks
      cases names : (machine.environment.lookup fileVariable).filter (· ≠ "") with
      | some given =>
          obtain ⟨named, nonempty⟩ :
              machine.environment.lookup fileVariable = some given ∧ given ≠ "" := by
            simpa using names
          constructor
          · rintro ⟨⟩
            exact .named unasked named nonempty
          · intro means
            cases means with
            | asked asks given => simp [asks, Unsaid, given] at unasked
            | named _ names _ => exact named.symm.trans names
            | current _ unnamed | home _ unnamed => simp [named, Unsaid, nonempty] at unnamed
      | none =>
          have unnamed := filter_eq_none_iff_unsaid.mp names
          dsimp only
          rw [find?_usualFiles_eq_some_iff]
          constructor
          · rintro (⟨there, rfl⟩ | ⟨missing, there, rfl⟩)
            · exact .current unasked unnamed there
            · exact .home unasked unnamed missing there
          · intro means
            cases means with
            | asked asks given => simp [asks, Unsaid, given] at unasked
            | named _ names given => simp [names, Unsaid, given] at unnamed
            | current _ _ there => exact .inl ⟨there, rfl⟩
            | home _ _ missing there => exact .inr ⟨missing, there, rfl⟩

/-- At most one file is meant. -/
theorem Means.unique {another : String} (means : machine.Means asked path)
    (means_another : machine.Means asked another) : path = another :=
  Option.some.inj
    ((meantFile?_eq_some_iff.mpr means).symm.trans (meantFile?_eq_some_iff.mpr means_another))

/-- Two machines with the same files to choose from: they have their files at the same places, and the
same home directory and configuration file are named.  What the files hold may differ, and so may all
other variables. -/
structure SameChoice (machine other : Machine) : Prop where
  layout : machine.storage.SameLayout other.storage
  home : other.home = machine.home
  named : other.environment.lookup fileVariable = machine.environment.lookup fileVariable

/-- The same file is meant on machines with the same choice. -/
theorem SameChoice.means (same : machine.SameChoice other) (means : machine.Means asked path) :
    other.Means asked path := by
  cases means with
  | asked asks given => exact .asked asks given
  | named unasked names given => exact .named unasked (same.named.trans names) given
  | current unasked unnamed there =>
      apply Means.current unasked
      · rwa [same.named]
      · rwa [same.layout.isFile]
  | home unasked unnamed missing there =>
      have home_same : other.homeFile = machine.homeFile := by rw [homeFile, homeFile, same.home]
      rw [← home_same]
      apply Means.home unasked
      · rwa [same.named]
      · rwa [same.layout.isFile]
      · rwa [same.layout.isFile, home_same]

theorem SameChoice.symm (same : machine.SameChoice other) : other.SameChoice machine :=
  ⟨same.layout.symm, same.home.symm, same.named.symm⟩

theorem loadConfiguration_of_file (means : machine.Means asked path)
    (there : machine.storage.isFile path) :
    machine.loadConfiguration asked = machine.loadSource (.file path) := by
  rw [loadConfiguration, source, meantFile?_eq_some_iff.mpr means]
  dsimp only
  rw [if_pos there]

theorem loadConfiguration_of_no_file (no_file : machine.FindsNoFile asked) :
    machine.loadConfiguration asked =
      (Configuration.ofEnvironment machine.environment).mapError .configuration := by
  rw [loadConfiguration, source]
  split
  · rename_i path meant
    rw [if_neg (no_file path (meantFile?_eq_some_iff.mp meant))]
    rfl
  · rfl

end Machine

/-- The variables that give a configuration where no file does. -/
def valueVariables : List String :=
  [lowVariable, highVariable, kindsVariable, everyoneVariable, strictVariable]

/-- Two environments with the same values of these variables. -/
def Environment.SameValues (environment other : Environment) : Prop :=
  ∀ name ∈ valueVariables, other.lookup name = environment.lookup name

theorem Configuration.ofEnvironment_eq {environment other : Environment}
    (same : environment.SameValues other) :
    Configuration.ofEnvironment other = Configuration.ofEnvironment environment := by
  simp only [Environment.SameValues, valueVariables, List.forall_mem_cons] at same
  obtain ⟨low, high, kinds, everyone, strict, -⟩ := same
  rw [ofEnvironment, ofEnvironment, Grid.ofEnvironment, Grid.ofEnvironment, Settings.ofEnvironment,
    Settings.ofEnvironment, boundOfEnvironment, boundOfEnvironment, low, high, kinds, everyone, strict]
  rfl

namespace Machine

variable {machine other : Machine} {asked : Option String} {path : String}

/-- Where two machines have the same bytes in the file that is meant, they load the same. -/
theorem loadConfiguration_eq_of_file (means : machine.Means asked path)
    (there : machine.storage.isFile path) (means_other : other.Means asked path)
    (bytes : other.storage.readBytes path = machine.storage.readBytes path) :
    other.loadConfiguration asked = machine.loadConfiguration asked := by
  have there_other : other.storage.isFile path := by rwa [Storage.isFile, bytes]
  rw [loadConfiguration_of_file means there, loadConfiguration_of_file means_other there_other,
    loadSource, loadSource, Storage.readText, Storage.readText, bytes]

theorem SameChoice.findsNoFile (same : machine.SameChoice other)
    (no_file : machine.FindsNoFile asked) : other.FindsNoFile asked := by
  intro path means
  rw [same.layout.isFile]
  exact no_file path (same.symm.means means)

/-- A configuration depends on one source alone.  If the file that is meant is there, this is what it
holds, whatever other files hold and other variables say.  If it is not, this is what the five variables
say, whatever is in any file; a file that is asked for or named but not there is not made up for by another
one. -/
theorem configured_by_one_source (machine : Machine) (asked : Option String) :
    (∀ path, machine.Means asked path → machine.storage.isFile path →
      ∀ other, machine.SameChoice other →
        other.storage.readBytes path = machine.storage.readBytes path →
          other.loadConfiguration asked = machine.loadConfiguration asked) ∧
    (machine.FindsNoFile asked → ∀ other, machine.environment.SameValues other.environment →
      (machine.SameChoice other → other.loadConfiguration asked = machine.loadConfiguration asked) ∧
      ∀ asked', other.FindsNoFile asked' →
        other.loadConfiguration asked' = machine.loadConfiguration asked) ∧
    ∀ path, path ≠ "" → ¬machine.storage.isFile path →
      (asked = some path ∨
        Unsaid asked ∧ machine.environment.lookup fileVariable = some path) →
      machine.loadConfiguration asked =
        (Configuration.ofEnvironment machine.environment).mapError .configuration := by
  refine ⟨?_, ?_, ?_⟩
  · intro path means there other same bytes
    exact loadConfiguration_eq_of_file means there (same.means means) bytes
  · intro no_file other values
    have alike : ∀ asked', other.FindsNoFile asked' →
        other.loadConfiguration asked' = machine.loadConfiguration asked := by
      intro asked' no_file'
      rw [loadConfiguration_of_no_file no_file, loadConfiguration_of_no_file no_file',
        Configuration.ofEnvironment_eq values]
    exact ⟨fun same => alike asked (same.findsNoFile no_file), alike⟩
  · intro path given missing said
    have means : machine.Means asked path := by
      rcases said with asks | ⟨unasked, names⟩
      · exact .asked asks given
      · exact .named unasked names given
    apply loadConfiguration_of_no_file
    intro another means_another
    rwa [means_another.unique means]

/-- A machine with two configuration files, of which the usual one is no document, and with an environment
that names a third one. -/
def office : Machine where
  storage := ⟨[(["city.json"], .file (Utf8.encode "\x7b\x7d".toList)), ([usualName], .file [0xff])]⟩
  environment := [(fileVariable, "lost.json"), (highVariable, "9")]
  home := "home"

/-- The same machine after somebody has emptied the usual file and set a bound. -/
def laterOffice : Machine where
  storage := office.storage.set [usualName] (.file [])
  environment := (lowVariable, "-3") :: office.environment
  home := "home"

/-- The file that is asked for decides alone.  The named file is not there and leaves it to the variables,
although the usual file is there, and so does any other missing file in an empty storage. -/
theorem office_configured :
    laterOffice.loadConfiguration (some "city.json") = office.loadConfiguration (some "city.json") ∧
      Machine.loadConfiguration { office with storage := .empty } (some "gone.json") =
        office.loadConfiguration none ∧
      office.loadConfiguration none = .ok { Configuration.standard with grid := ⟨1, 9⟩ } := by
  obtain ⟨of_file, -, -⟩ := configured_by_one_source office (some "city.json")
  obtain ⟨-, of_variables, of_lost⟩ := configured_by_one_source office none
  have same : office.SameChoice laterOffice := ⟨Storage.sameLayout_set rfl [], rfl, rfl⟩
  have asked : office.Means (some "city.json") "city.json" := .asked rfl (by decide)
  have lost : office.FindsNoFile none := by
    intro path means
    rw [means.unique (.named (.inl rfl) rfl (by decide))]
    decide
  have gone : Machine.FindsNoFile { office with storage := .empty } (some "gone.json") := by
    intro path means
    rw [means.unique (.asked rfl (by decide))]
    decide
  obtain ⟨-, of_values⟩ := of_variables lost { office with storage := .empty } (fun _ _ => rfl)
  refine ⟨of_file "city.json" asked rfl laterOffice same rfl, of_values _ gone, ?_⟩
  rw [of_lost "lost.json" (by decide) (by decide) (.inr ⟨.inl rfl, rfl⟩)]
  rfl

end Machine
end RobotCity
