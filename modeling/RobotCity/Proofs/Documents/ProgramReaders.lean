import RobotCity.Proofs.Documents.StatementReaders

/-!
# Readers of declarations and programs

Declarations, setups and programs are read as they are spelled.
-/

namespace RobotCity

open Json (member member?)

variable {α : Type}

/-- An object without a tag is read by its members. -/
theorem readsForm_of_members {form : Form} {slots : List (String × Slot)}
    {spelledBy : List (Text × Json) → α → Prop} {read : Place → Json → Except ShapeError α}
    (known : ∀ members, form.slots members = .ok slots)
    (refused : ∀ place value, (∀ members, value ≠ .object members) →
      read place value = .error ⟨.notObject value.kind, place⟩)
    (reads : ∀ place members, Reads (spelledBy members)
      (slots.flatMap fun (name, slot) => slot.defects place members name)
      (read place (.object members))) (value : Json) :
    ReadsForm form (Json.Spells spelledBy) read value := by
  intro place
  cases value with
  | object members =>
      refine (reads place members).congr (fun part => ⟨?_, .object⟩)
        (Spot.defects_of_slots (known members))
      rintro ⟨spelled⟩
      exact spelled
  | _ =>
      rw [refused place _ (by simp), Spot.defects_of_not_object (by simp)]
      refine .refused ?_
      rintro part ⟨⟩

theorem readObject_bind_of_not_object {place : Place} {value : Json}
    {next : List (Text × Json) → Except ShapeError α}
    (not_object : ∀ members, value ≠ .object members) :
    (readObject place value >>= next) = .error ⟨.notObject value.kind, place⟩ := by
  cases value with
  | object members => exact absurd rfl (not_object members)
  | _ => rfl

theorem Variable.ofJson_reads : ∀ value,
    ReadsForm .variable (Json.Spells Variable.SpelledBy) Variable.ofJson value := by
  refine readsForm_of_members (fun _ => rfl) (fun _ _ => readObject_bind_of_not_object)
    fun place members => ?_
  have name := readText_reads place members "identifier"
  have type := readToken_reads place members "type_value" ValueType.lookup_eq_some_iff
  refine (name.bind fun _ _ => type.bind fun _ _ => .pure _).congr (fun part => ⟨?_, ?_⟩) (by simp)
  · rintro ⟨name, type⟩
    exact ⟨_, name, _, type, rfl⟩
  · rintro ⟨_, name, _, type, rfl⟩
    exact ⟨name, type⟩

theorem Parameter.ofJson_reads : ∀ value,
    ReadsForm .parameter (Json.Spells Parameter.SpelledBy) Parameter.ofJson value := by
  refine readsForm_of_members (fun _ => rfl) (fun _ _ => readObject_bind_of_not_object)
    fun place members => ?_
  have passing := readToken_reads place members "type_parameter" Passing.lookup_eq_some_iff
  have name := readText_reads place members "identifier"
  have type := readToken_reads place members "type_value" ValueType.lookup_eq_some_iff
  refine (passing.bind fun _ _ => name.bind fun _ _ => type.bind fun _ _ => .pure _).congr
    (fun part => ⟨?_, ?_⟩) (by simp)
  · rintro ⟨passing, name, type⟩
    exact ⟨_, passing, _, name, _, type, rfl⟩
  · rintro ⟨_, passing, _, name, _, type, rfl⟩
    exact ⟨passing, name, type⟩

theorem readVariables_reads (place : Place) (members : List (Text × Json)) :
    Reads (Json.ListsIfNamed (Json.Spells Variable.SpelledBy) members "local_variables")
      ((Slot.list false .variable).defects place members "local_variables")
      (readVariables place members) :=
  readOptionalList_reads place fun _ _ item _ => Variable.ofJson_reads item

theorem readBody_reads (place : Place) (members : List (Text × Json)) :
    Reads (Json.Lists Statement.Spelled members "body")
      ((Slot.list true .statement).defects place members "body") (readBody place members) := by
  simp only [readBody, Statement.bodyOfJson_eq_readEach]
  exact readList_reads place fun _ _ item _ => Statement.ofJson_reads item

theorem Procedure.ofJson_reads : ∀ value,
    ReadsForm .procedure (Json.Spells Procedure.SpelledBy) Procedure.ofJson value := by
  refine readsForm_of_members (fun _ => rfl) (fun _ _ => readObject_bind_of_not_object)
    fun place members => ?_
  have parameters : Reads
      (Json.ListsIfNamed (Json.Spells Parameter.SpelledBy) members "parameters") _ _ :=
    readOptionalList_reads place fun _ _ item _ => Parameter.ofJson_reads item
  have name := readText_reads place members "identifier"
  have locals := readVariables_reads place members
  have body := readBody_reads place members
  refine (parameters.bind_bind fun _ _ => name.bind fun _ _ => locals.bind fun _ _ =>
    body.bind fun _ _ => .pure _).congr (fun part => ⟨?_, ?_⟩) (by simp)
  · rintro ⟨name, parameters, locals, body⟩
    exact ⟨_, parameters, _, name, _, locals, _, body, rfl⟩
  · rintro ⟨_, parameters, _, name, _, locals, _, body, rfl⟩
    exact ⟨name, parameters, locals, body⟩

theorem RobotType.ofJson_reads : ∀ value,
    ReadsForm .robotType (Json.Spells RobotType.SpelledBy) RobotType.ofJson value := by
  refine readsForm_of_members (fun _ => rfl) (fun _ _ => readObject_bind_of_not_object)
    fun place members => ?_
  have name := readText_reads place members "identifier"
  have locals := readVariables_reads place members
  have body := readBody_reads place members
  refine (name.bind fun _ _ => locals.bind fun _ _ => body.bind fun _ _ => .pure _).congr
    (fun part => ⟨?_, ?_⟩) (by simp)
  · rintro ⟨name, locals, body⟩
    exact ⟨_, name, _, locals, _, body, rfl⟩
  · rintro ⟨_, name, _, locals, _, body, rfl⟩
    exact ⟨name, locals, body⟩

theorem readPoint_reads (place : Place) (members : List (Text × Json)) :
    Reads (Point.SpelledBy members)
      (Slot.integer.defects place members "x" ++ Slot.integer.defects place members "y")
      (readPoint place members) := by
  have x := readInteger_reads place members "x"
  have y := readInteger_reads place members "y"
  refine (x.bind fun _ _ => y.bind fun _ _ => .pure _).congr (fun part => ⟨?_, ?_⟩) (by simp)
  · rintro ⟨x, y⟩
    exact ⟨_, x, _, y, rfl⟩
  · rintro ⟨_, x, _, y, rfl⟩
    exact ⟨x, y⟩

theorem Point.ofJson_reads : ∀ value,
    ReadsForm .point (Json.Spells Point.SpelledBy) Point.ofJson value := by
  refine readsForm_of_members (fun _ => rfl) (fun _ _ => readObject_bind_of_not_object)
    fun place members => ?_
  exact (readPoint_reads place members).congr (fun _ => Iff.rfl) (by simp)

theorem Area.ofJson_reads : ∀ value,
    ReadsForm .area (Json.Spells Area.SpelledBy) Area.ofJson value := by
  refine readsForm_of_members (fun _ => rfl) (fun _ _ => readObject_bind_of_not_object)
    fun place members => ?_
  have name := readText_reads place members "identifier"
  have occupancy := readToken_reads place members "type" Occupancy.lookup_eq_some_iff
  have low := Point.ofJson_reads (member members "a") (place.field "a")
  have high := Point.ofJson_reads (member members "b") (place.field "b")
  refine (name.bind fun _ _ => occupancy.bind fun _ _ => low.bind fun _ _ =>
    high.bind fun _ _ => .pure _).congr (fun part => ⟨?_, ?_⟩) (by simp)
  · rintro ⟨name, occupancy, low, high⟩
    exact ⟨_, name, _, occupancy, _, low, _, high, rfl⟩
  · rintro ⟨_, name, _, occupancy, _, low, _, high, rfl⟩
    exact ⟨name, occupancy, low, high⟩

theorem Robot.ofJson_reads : ∀ value,
    ReadsForm .robot (Json.Spells Robot.SpelledBy) Robot.ofJson value := by
  refine readsForm_of_members (fun _ => rfl) (fun _ _ => readObject_bind_of_not_object)
    fun place members => ?_
  have name := readText_reads place members "identifier"
  have type := readText_reads place members "type"
  refine (name.bind fun _ _ => type.bind fun _ _ => .pure _).congr (fun part => ⟨?_, ?_⟩) (by simp)
  · rintro ⟨name, type⟩
    exact ⟨_, name, _, type, rfl⟩
  · rintro ⟨_, name, _, type, rfl⟩
    exact ⟨name, type⟩

theorem Grant.ofJson_reads : ∀ value,
    ReadsForm .grant (Json.Spells Grant.SpelledBy) Grant.ofJson value := by
  refine readsForm_of_members (fun _ => rfl) (fun _ _ => readObject_bind_of_not_object)
    fun place members => ?_
  have robot := readText_reads place members "identifier"
  have area := readText_reads place members "type"
  refine (robot.bind fun _ _ => area.bind fun _ _ => .pure _).congr (fun part => ⟨?_, ?_⟩) (by simp)
  · rintro ⟨robot, area⟩
    exact ⟨_, robot, _, area, rfl⟩
  · rintro ⟨_, robot, _, area, rfl⟩
    exact ⟨robot, area⟩

theorem Supply.ofJson_reads : ∀ value,
    ReadsForm .supply (Json.Spells Supply.SpelledBy) Supply.ofJson value := by
  refine readsForm_of_members (fun _ => rfl) (fun _ _ => readObject_bind_of_not_object)
    fun place members => ?_
  have kinds := readTexts_reads place members "type"
  have robot := readText_reads place members "identifier"
  have quantity := readInteger_reads place members "value"
  refine (kinds.bind fun _ _ => robot.bind fun _ _ => quantity.bind fun _ _ => .pure _).congr
    (fun part => ⟨?_, ?_⟩) (by simp)
  · rintro ⟨robot, kinds, quantity⟩
    exact ⟨_, kinds, _, robot, _, quantity, rfl⟩
  · rintro ⟨_, kinds, _, robot, _, quantity, rfl⟩
    exact ⟨robot, kinds, quantity⟩

theorem Origin.ofJson_reads : ∀ value,
    ReadsForm .origin (Json.Spells Origin.SpelledBy) Origin.ofJson value := by
  refine readsForm_of_members (fun _ => rfl) (fun _ _ => readObject_bind_of_not_object)
    fun place members => ?_
  have robot := readText_reads place members "identifier"
  have point := readPoint_reads place members
  refine (robot.bind fun _ _ => point.bind fun _ _ => .pure _).congr (fun part => ⟨?_, ?_⟩)
    (by simp)
  · rintro ⟨robot, x, y⟩
    exact ⟨_, robot, _, ⟨x, y⟩, rfl⟩
  · rintro ⟨_, robot, _, ⟨x, y⟩, rfl⟩
    exact ⟨robot, x, y⟩

theorem Setup.ofMembers_reads (members : List (Text × Json)) :
    Reads (Setup.SpelledBy members)
      (Spot.defects ⟨.setup, Setup.place, .object members⟩) (Setup.ofMembers members) := by
  rw [Spot.defects_of_slots rfl]
  have grants : Reads (Json.ListsIfNamed (Json.Spells Grant.SpelledBy) members "assign_areas") _ _ :=
    readOptionalList_reads Setup.place fun _ _ item _ => Grant.ofJson_reads item
  have supplies : Reads
      (Json.ListsIfNamed (Json.Spells Supply.SpelledBy) members "assign_items") _ _ :=
    readOptionalList_reads Setup.place fun _ _ item _ => Supply.ofJson_reads item
  have origins : Reads
      (Json.ListsIfNamed (Json.Spells Origin.SpelledBy) members "assign_origins") _ _ :=
    readOptionalList_reads Setup.place fun _ _ item _ => Origin.ofJson_reads item
  refine (grants.bind_bind fun _ _ => supplies.bind_bind fun _ _ => origins.bind_bind fun _ _ =>
    .pure _).congr (fun part => ⟨?_, ?_⟩) (by simp)
  · rintro ⟨grants, supplies, origins⟩
    exact ⟨_, grants, _, supplies, _, origins, rfl⟩
  · rintro ⟨_, grants, _, supplies, _, origins, rfl⟩
    exact ⟨grants, supplies, origins⟩

theorem Setup.spelledIn_reads (members : List (Text × Json)) :
    Reads (Setup.SpelledIn members)
      ((Slot.part .ifNamed .setup).defects .program members "INITS")
      (Setup.ofJson Setup.place ((member? members "INITS").getD (.object []))) := by
  rw [Slot.defects_part_ifNamed, member]
  cases found : member? members "INITS" with
  | none =>
      refine .found fun setup => ⟨?_, ?_⟩
      · rintro (missing | ⟨there, -⟩)
        · rfl
        · cases found.symm.trans there
      · rintro rfl
        exact .missing found
  | some value =>
      have spelled_iff : ∀ setup, Setup.SpelledIn members setup ↔
          value.Spells Setup.SpelledBy setup := by
        refine fun setup => ⟨?_, .named found⟩
        rintro (missing | ⟨there, spelled⟩)
        · cases found.symm.trans missing
        · cases found.symm.trans there
          exact spelled
      rw [Option.getD_some, Option.getD_some, Option.isSome_some, if_pos rfl]
      cases value with
      | object records =>
          refine (Setup.ofMembers_reads records).congr (fun setup => ?_) rfl
          rw [spelled_iff]
          refine ⟨?_, .object⟩
          rintro ⟨spelled⟩
          exact spelled
      | _ =>
          rw [Spot.defects_of_not_object (by simp)]
          refine .refused fun setup spelled => ?_
          rcases (spelled_iff setup).mp spelled with ⟨⟩

theorem nameOf_of_not_named {members : List (Text × Json)}
    (not_named : ∀ label name, member? members "NAME" = some (.object label) →
      member? label "identifier" = some name → name.isGiven = false) :
    nameOf members = .string .empty := by
  rw [nameOf, member]
  cases labelled : member? members "NAME" with
  | none => rfl
  | some label =>
      cases label with
      | object label =>
          have not_given : (member label "identifier").isGiven = false := by
            rw [member]
            cases named : member? label "identifier" with
            | none => rfl
            | some name => exact not_named label name labelled named
          simp [not_given]
      | _ => rfl

theorem nameOf_of_named {members label : List (Text × Json)} {name : Json}
    (labelled : member? members "NAME" = some (.object label))
    (named : member? label "identifier" = some name) (given : name.isGiven) :
    nameOf members = name := by
  simp [nameOf, member, labelled, named, given]

theorem Program.namedBy_iff {members : List (Text × Json)} {name : Json} :
    Program.NamedBy members name ↔ name = nameOf members := by
  constructor
  · rintro (⟨labelled, named, given⟩ | not_named)
    · exact (nameOf_of_named labelled named given).symm
    · exact (nameOf_of_not_named not_named).symm
  · rintro rfl
    by_cases is_named : ∃ label name, member? members "NAME" = some (.object label) ∧
        member? label "identifier" = some name ∧ name.isGiven
    · obtain ⟨label, name, labelled, named, given⟩ := is_named
      rw [nameOf_of_named labelled named given]
      exact .label labelled named given
    · have not_named : ∀ label name, member? members "NAME" = some (.object label) →
          member? label "identifier" = some name → name.isGiven = false := by
        intro label name labelled named
        by_contra given
        exact is_named ⟨label, name, labelled, named, by simpa using given⟩
      rw [nameOf_of_not_named not_named]
      exact .nothing not_named

theorem tagOf_eq_string_iff {members : List (Text × Json)} {token : Text} :
    tagOf members = .string token ↔ member? members "type" = some (.string token) := by
  rw [tagOf, member]
  cases member? members "type" <;> simp

theorem Json.unwraps_iff {document inner : Json} :
    document.Unwraps inner ↔ inner = unwrapped document := by
  constructor
  · rintro (⟨typed, valued⟩ | not_envelope)
    · have is_envelope : tagOf _ = .string envelopeTag := tagOf_eq_string_iff.mpr typed
      rw [unwrapped, if_pos is_envelope, valued, Option.getD_some]
    · unfold unwrapped
      split
      · split
        · rename_i members typed
          cases valued : member? members "value" with
          | none => rfl
          | some value =>
              exact absurd valued
                (not_envelope members value rfl (tagOf_eq_string_iff.mp typed))
        · rfl
      · rfl
  · rintro rfl
    cases document with
    | object members =>
        rw [unwrapped]
        split
        case isTrue typed =>
          cases valued : member? members "value" with
          | none =>
              refine .bare ?_
              rintro others value ⟨⟩ - there
              cases valued.symm.trans there
          | some value => exact .envelope (tagOf_eq_string_iff.mp typed) valued
        case isFalse untyped =>
          refine .bare ?_
          rintro others value ⟨⟩ typed
          exact absurd (tagOf_eq_string_iff.mpr typed) untyped
    | _ => exact .bare (by simp)

/-- The spot of a program in a document. -/
def Spot.root (document : Json) : Spot :=
  { form := .program, place := .program, value := unwrapped document }

theorem readDeclarations_reads {form : Form} {spelled : Json → α → Prop}
    {read : Place → Json → Except ShapeError α} (reads : ∀ item, ReadsForm form spelled read item)
    (members : List (Text × Json)) (name : String) :
    Reads (Json.ListsIfNamed spelled members name)
      ((Slot.list false form).defects .program members name)
      (readDeclarations read members name) :=
  readOptionalList_reads .program fun _ _ item _ => reads item

/-- A program is read as it is spelled. -/
theorem Program.ofJson_reads (document : Json) :
    Reads (Program.Spelled document) (Spot.root document).defects (Program.ofJson document) := by
  have spelled_iff : ∀ program, Program.Spelled document program ↔
      (unwrapped document).Spells Program.SpelledBy program := by
    simp [Program.Spelled, Json.unwraps_iff]
  refine Reads.congr ?_ spelled_iff rfl
  rw [Spot.root, Program.ofJson]
  cases unwrapped document with
  | object members =>
      rw [Spot.defects_of_slots rfl, readObject, ok_bind]
      have procedures := readDeclarations_reads Procedure.ofJson_reads members "PROCEDURES"
      have areas := readDeclarations_reads Area.ofJson_reads members "AREAS"
      have robotTypes := readDeclarations_reads RobotType.ofJson_reads members "ROBOT_TYPES"
      have robots := readDeclarations_reads Robot.ofJson_reads members "INSTANCES"
      have setup := Setup.spelledIn_reads members
      refine (procedures.bind fun _ _ => areas.bind fun _ _ => robotTypes.bind fun _ _ =>
        robots.bind fun _ _ => setup.bind fun _ _ => .pure _).congr (fun part => ⟨?_, ?_⟩)
        (by simp)
      · rintro ⟨name, procedures, areas, robotTypes, robots, setup⟩
        refine ⟨_, procedures, _, areas, _, robotTypes, _, robots, _, setup, ?_⟩
        rw [← Program.namedBy_iff.mp name]
      · rintro ⟨_, procedures, _, areas, _, robotTypes, _, robots, _, setup, rfl⟩
        exact .object ⟨Program.namedBy_iff.mpr rfl, procedures, areas, robotTypes, robots, setup⟩
  | _ =>
      rw [Spot.defects_of_not_object (by simp)]
      refine .refused ?_
      rintro program ⟨⟩

end RobotCity
