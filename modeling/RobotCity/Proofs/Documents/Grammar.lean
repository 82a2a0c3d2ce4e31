import RobotCity.Proofs.Documents.Agreement
import RobotCity.Proofs.Documents.Defects

/-!
# The grammar of program documents

The documents that are loaded are those that spell a program, and what is loaded is the program that is
spelled.  Documents that agree are loaded as the same program.
-/

namespace RobotCity

open Json (member member?)

/-- Two program documents agree, each without the envelope that may be around it. -/
inductive DocumentsAgree (document other : Json) : Prop
  | programs {members others : List (Text × Json)} :
    document.Unwraps (.object members) → other.Unwraps (.object others) →
    Agrees (.members .program) (.object members) (.object others) →
    nameOf members = nameOf others → DocumentsAgree document other

/-- Objects agree if the same values stand under the names that count in them. -/
theorem agrees_of_member?_eq {form : Form} {members others : List (Text × Json)}
    (same_tag : form.isTagged → member? members "type" = member? others "type")
    (same_values : ∀ name slot, form.HasSlot members name slot →
      member? members name = member? others name) :
    Agrees (.members form) (.object members) (.object others) := by
  refine MembersAgree.agrees ⟨fun counts => ?_, fun slot => ?_, fun slot missing => ?_,
    fun slot named => ?_⟩
  · rw [tagOf, tagOf, member, member, same_tag counts]
  · rw [member, member, same_values _ _ slot]
  · exact (same_values _ _ slot).symm.trans missing
  · exact ⟨_, (same_values _ _ slot).symm.trans named, .same⟩

theorem Program.Spelled.of_agree {document other : Json} {program : Program}
    (spelled : program.Spelled document) (agree : DocumentsAgree document other) :
    program.Spelled other := by
  obtain ⟨unwraps, other_unwraps, agrees, same_name⟩ := agree
  obtain ⟨inner, inner_unwraps, inner_spelled⟩ := spelled
  rw [Json.unwraps_iff] at unwraps inner_unwraps
  obtain rfl := inner_unwraps.trans unwraps.symm
  obtain ⟨spelled⟩ := inner_spelled
  obtain ⟨others, same, members_agree⟩ := agrees.membersAgree
  cases same
  exact ⟨_, other_unwraps, .object (spelled.of_agree members_agree same_name)⟩

theorem Program.load_eq_ok_iff_spelled {document : Json} {program : Program} :
    Program.load document = .ok program ↔ program.Spelled document := by
  rw [Program.load_eq_ok_iff]
  exact (Program.ofJson_reads document).eq_ok_iff program

/-- The documents that are loaded are those that spell a program, and this program is what is loaded;
every other document is refused.  It is refused for its shape, except that it is refused for an integer of
too many digits if its first defect is a tag that shows one.  What is loaded does not change with the order
of the members in an object or with what stands under names that are not read. -/
theorem Program.load_by_grammar (document : Json) :
    (∀ program, Program.load document = .ok program ↔ program.Spelled document) ∧
    ((∃ reason, Program.load document = .error reason) ↔
      ∀ program : Program, ¬program.Spelled document) ∧
    (∀ defect, Program.load document = .error (.unshown defect) ↔
      ∃ error ∈ (Spot.root document).defects.head?, error.defect.ShowsLong) ∧
    ∀ other, DocumentsAgree document other → ∀ program, Program.load document = .ok program →
      Program.load other = .ok program := by
  refine ⟨fun program => Program.load_eq_ok_iff_spelled, ?_, fun defect => ?_,
    fun other agree program loaded => ?_⟩
  · simp only [← Program.load_eq_ok_iff_spelled]
    cases Program.load document <;> simp
  · refine loadBy_eq_unshown_iff.trans (exists_congr fun error => and_congr_left fun _ => ?_)
    exact (Program.ofJson_reads document).eq_error_iff error
  · rw [Program.load_eq_ok_iff_spelled] at loaded ⊢
    exact loaded.of_agree agree

/-- The document of a corner. -/
def cornerDocument (x y : Int) : Json :=
  .object [("x", .integer x), ("y", .integer y)]

/-- An area. -/
def north : List (Text × Json) :=
  [ ("identifier", .string "north"), ("type", .string "SHARED"), ("a", cornerDocument 1 1)
  , ("b", cornerDocument 9 9) ]

/-- The same area in another order, with a colour that is not read. -/
def colouredNorth : List (Text × Json) :=
  [ ("colour", .string "green"), ("b", cornerDocument 9 9), ("a", cornerDocument 1 1)
  , ("type", .string "SHARED"), ("identifier", .string "north") ]

/-- A program with one area and a name that is no label. -/
def plot : List (Text × Json) :=
  [("NAME", .string "plot"), ("AREAS", .array [.object north])]

/-- The same program in another order, with a comment that is not read. -/
def colouredPlot : List (Text × Json) :=
  [("AREAS", .array [.object colouredNorth]), ("COMMENT", .array [.null])]

theorem north_agrees : Agrees (.members .area) (.object north) (.object colouredNorth) := by
  refine agrees_of_member?_eq (by simp [Form.isTagged]) ?_
  rintro name slot ⟨_, ⟨⟩, listed⟩
  simp only [List.mem_cons, Prod.mk.injEq, List.not_mem_nil, or_false] at listed
  rcases listed with ⟨rfl, -⟩ | ⟨rfl, -⟩ | ⟨rfl, -⟩ | ⟨rfl, -⟩ <;> rfl

theorem plots_agree :
    DocumentsAgree (.object plot)
      (.object [("value", .object colouredPlot), ("type", .string "PROGRAM")]) := by
  have areas : Agrees (.items .area) (.array [.object north]) (.array [.object colouredNorth]) := by
    refine .items rfl fun index item other found found_other => ?_
    cases index with
    | zero =>
        cases found
        cases found_other
        exact north_agrees
    | succ index => cases found
  have members : MembersAgree .program plot colouredPlot := by
    refine ⟨by simp [Form.isTagged], ?_, ?_, ?_⟩
    · rintro name part ⟨_, ⟨⟩, listed⟩
      simp at listed
    · rintro name slot ⟨_, ⟨⟩, listed⟩ missing
      simp only [List.mem_cons, Prod.mk.injEq, List.not_mem_nil, or_false] at listed
      rcases listed with ⟨rfl, -⟩ | ⟨rfl, -⟩ | ⟨rfl, -⟩ | ⟨rfl, -⟩ | ⟨rfl, -⟩
      · rfl
      · cases missing
      all_goals rfl
    · rintro name slot value ⟨_, ⟨⟩, listed⟩ named
      simp only [List.mem_cons, Prod.mk.injEq, List.not_mem_nil, or_false] at listed
      rcases listed with ⟨rfl, -⟩ | ⟨rfl, rfl⟩ | ⟨rfl, -⟩ | ⟨rfl, -⟩ | ⟨rfl, -⟩
      · cases named
      · cases named
        exact ⟨_, rfl, areas⟩
      all_goals cases named
  refine .programs (.bare ?_) (.envelope rfl rfl) members.agrees rfl
  rintro _ value ⟨⟩ typed
  cases typed

/-- A name that is no label and a comment do not keep a program from being loaded. -/
theorem plots_load_alike :
    ∃ program, program.areas = [⟨"north", .shared, ⟨⟨1, 1⟩, ⟨9, 9⟩⟩⟩] ∧
      Program.load (.object plot) = .ok program ∧
      Program.load (.object [("value", .object colouredPlot), ("type", .string "PROGRAM")]) =
        .ok program := by
  have area : Area.SpelledBy north ⟨"north", .shared, ⟨⟨1, 1⟩, ⟨9, 9⟩⟩⟩ :=
    ⟨rfl, rfl, .object ⟨rfl, rfl⟩, .object ⟨rfl, rfl⟩⟩
  have spelled : Program.SpelledBy plot
      { name := .string .empty
        procedures := []
        areas := [⟨"north", .shared, ⟨⟨1, 1⟩, ⟨9, 9⟩⟩⟩]
        robotTypes := []
        robots := []
        setup := ⟨[], [], []⟩ } :=
    ⟨Program.namedBy_iff.mpr rfl, .missing rfl, .named (.all rfl (.cons (.object area) .nil)),
      .missing rfl, .missing rfl, .missing rfl⟩
  obtain ⟨load_iff, -, -, load_alike⟩ := Program.load_by_grammar (.object plot)
  have loaded := (load_iff _).mpr ⟨_, Json.unwraps_iff.mpr rfl, .object spelled⟩
  exact ⟨_, rfl, loaded, load_alike _ plots_agree _ loaded⟩

/-- A statement whose tag is a number of 4301 digits. -/
def countlessStep : List (Text × Json) :=
  [("type", .integer Text.leastLong)]

theorem countlessStep_refused (place : Place) :
    Statement.ofJson place (.object countlessStep) =
      .error ⟨.unknownStatement (.integer Text.leastLong), place⟩ := by
  rw [Statement.ofJson]
  rfl

theorem countlessStep_showsLong :
    ShapeDefect.ShowsLong (.unknownStatement (.integer Text.leastLong)) :=
  .statement (mt Json.showable_integer_iff.mp Text.leastLong_not_short)

/-- A program with this statement is refused, but not for its shape. -/
theorem countlessWalk_unshown :
    Program.load (walk (.array []) (.object countlessStep)) = .error (.unshown .longInteger) ∧
      ¬∀ document, (∃ program, Program.load document = .ok program) ∨
        ∃ error, Program.load document = .error (.misshapen error) := by
  have unshown := Program.load_of_refused
    (walk_refused (.array []) (countlessStep_refused walkStep))
  rw [ShapeError.raised_of_showsLong countlessStep_showsLong] at unshown
  refine ⟨unshown, fun all_shaped => ?_⟩
  obtain ⟨program, loaded⟩ | ⟨error, misshapen⟩ := all_shaped _
  · cases unshown.symm.trans loaded
  · cases unshown.symm.trans misshapen

end RobotCity
