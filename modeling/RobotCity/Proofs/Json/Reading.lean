import Mathlib.Data.List.Nodup
import RobotCity.Json.Reader
import RobotCity.Proofs.Json.Characters

/-!
# Written values are read back

The reader takes the characters of a written value from every state in which a value may start to
the state in which this value has been read.  Neither the value nor the layout limits the depth of
nesting.
-/

namespace RobotCity
namespace Json

/-- The characters in front of a text take the reader from one state to another. -/
def Leads (state : ReaderState) (input : List Char) (next : ReaderState) (rest : List Char) :
    Prop :=
  ∀ position, ∃ stop, (lexemes position input).foldlM ReaderState.next state =
    (lexemes stop rest).foldlM ReaderState.next next

namespace Leads

variable {state next last : ReaderState} {input middle rest : List Char}

theorem refl (state : ReaderState) (rest : List Char) : Leads state rest state rest :=
  fun position => ⟨position, rfl⟩

theorem trans (first : Leads state input next middle) (second : Leads next middle last rest) :
    Leads state input last rest := by
  intro position
  obtain ⟨between, first_run⟩ := first position
  obtain ⟨stop, second_run⟩ := second between
  exact ⟨stop, first_run.trans second_run⟩

theorem token {front : List Char} {token : Token} (makes : Makes front token rest)
    (taken : ∀ position, state.next ⟨token, position⟩ = .ok next) :
    Leads state (front ++ rest) next rest := by
  intro position
  obtain ⟨stop, cut⟩ := makes position
  refine ⟨stop, ?_⟩
  rw [cut, List.foldlM_cons, taken]
  rfl

theorem mark {c : Char} {token : Token} (ink : isSpace c = false)
    (mark : punctuation? c = some token)
    (taken : ∀ position, state.next ⟨token, position⟩ = .ok next) :
    Leads state (c :: rest) next rest :=
  .token (makes_mark rest ink mark) taken

theorem blank {spaces : List Char} (blank : ∀ c ∈ spaces, isSpace c) :
    Leads state (spaces ++ rest) state rest := by
  induction spaces with
  | nil => exact refl state rest
  | cons c spaces ih =>
      obtain ⟨space, spaces_blank⟩ := List.forall_mem_cons.mp blank
      intro position
      obtain ⟨stop, run⟩ := ih spaces_blank (position + 1)
      refine ⟨stop, ?_⟩
      rw [List.cons_append, lexemes_space position _ space, run]

end Leads

variable {layout : Layout} {frames : List Frame} {rest : List Char}

theorem lineBreak_blank (layout : Layout) (depth : Nat) :
    ∀ c ∈ layout.lineBreak depth, isSpace c := by
  cases layout with
  | line => simp [Layout.lineBreak]
  | indented width =>
      refine List.forall_mem_cons.mpr ⟨rfl, fun c member => ?_⟩
      rw [List.eq_of_mem_replicate member]
      rfl

theorem exists_separator (layout : Layout) (depth : Nat) :
    ∃ spaces, layout.separator depth = ',' :: spaces ∧ ∀ c ∈ spaces, isSpace c := by
  cases layout with
  | line => exact ⟨[' '], rfl, by simp [isSpace]⟩
  | indented width => exact ⟨_, rfl, lineBreak_blank (.indented width) depth⟩

theorem endsValue_lineBreak (layout : Layout) (depth : Nat) {close : Char} (rest : List Char)
    (closes : close ∈ [',', '\n', ']', '\x7d']) :
    EndsValue (layout.lineBreak depth ++ close :: rest) := by
  cases layout with
  | line => exact endsValue_cons closes
  | indented width => exact endsValue_cons (by decide)

theorem endsValue_separator (layout : Layout) (depth : Nat) (rest : List Char) :
    EndsValue (layout.separator depth ++ rest) := by
  obtain ⟨spaces, comma, -⟩ := exists_separator layout depth
  rw [comma]
  exact endsValue_cons (by decide)

/-- A value may start in a state, inside of the frames that are open then.  Where the first item of
an array is due, its end may come instead. -/
def Starts (state : ReaderState) (frames : List Frame) : Prop :=
  ∀ token position, token ≠ .closeArray →
    state.next ⟨token, position⟩ = startValue frames ⟨token, position⟩

theorem starts_valueDue (frames : List Frame) : Starts (.valueDue frames) frames :=
  fun _ _ _ => rfl

theorem starts_itemDue (frames : List Frame) :
    Starts (.itemDue frames) (.array [] :: frames) := by
  intro token position no_end
  cases token with
  | closeArray => exact absurd rfl no_end
  | _ => rfl

/-- What is written for a value is read as this value wherever a value may start. -/
def Legible (value : Json) : Prop :=
  ∀ (layout : Layout) (depth : Nat) (state : ReaderState) (frames : List Frame) (rest : List Char),
    Starts state frames → EndsValue rest →
      Leads state (written layout depth value ++ rest) (.valueRead frames value) rest

theorem legible_of_makes {value : Json} {token : Token}
    (makes : ∀ layout depth rest, EndsValue rest → Makes (written layout depth value) token rest)
    (open_frames : token ≠ .closeArray)
    (read : ∀ frames position, startValue frames ⟨token, position⟩ = .ok (.valueRead frames value)) :
    value.Legible := by
  intro layout depth state frames rest starts ends
  refine .token (makes layout depth rest ends) fun position => ?_
  rw [starts token position open_frames, read]

theorem endsValue_items (layout : Layout) (depth outer : Nat) (items : List Json)
    (rest : List Char) :
    EndsValue (writtenItems layout depth items ++ (layout.lineBreak outer ++ ']' :: rest)) := by
  cases items with
  | nil => exact endsValue_lineBreak layout outer rest (by decide)
  | cons item items =>
      rw [writtenItems, List.append_assoc, List.append_assoc]
      exact endsValue_separator layout depth _

/-- The items behind the first one are read up to the end of their array. -/
theorem leads_items (layout : Layout) (depth outer : Nat) {items : List Json}
    (legible : ∀ item ∈ items, item.Legible) (read : List Json) (value : Json) (frames : List Frame)
    (rest : List Char) :
    Leads (.valueRead (.array read :: frames) value)
      (writtenItems layout depth items ++ (layout.lineBreak outer ++ ']' :: rest))
      (.valueRead frames (.array (read.reverse ++ value :: items))) rest := by
  induction items generalizing read value with
  | nil =>
      refine (Leads.blank (lineBreak_blank layout outer)).trans (.mark rfl rfl fun position => ?_)
      rw [← List.reverse_cons]
      rfl
  | cons item items ih =>
      obtain ⟨item_legible, items_legible⟩ := List.forall_mem_cons.mp legible
      obtain ⟨spaces, separator, spaces_blank⟩ := exists_separator layout depth
      rw [writtenItems, separator, List.append_assoc, List.append_assoc, List.cons_append]
      have comma (input : List Char) : Leads (.valueRead (.array read :: frames) value)
          (',' :: input) (.valueDue (.array (value :: read) :: frames)) input :=
        .mark rfl rfl fun _ => rfl
      have next := ih items_legible (value :: read) item
      rw [List.reverse_cons, List.append_assoc] at next
      exact (comma _).trans <| (Leads.blank spaces_blank).trans <|
        (item_legible layout depth _ _ _ (starts_valueDue _)
          (endsValue_items layout depth outer items rest)).trans next

theorem Legible.array {items : List Json} (legible : ∀ item ∈ items, item.Legible) :
    (Json.array items).Legible := by
  intro layout depth state frames rest starts ends
  have opened (input : List Char) : Leads state ('[' :: input) (.itemDue frames) input :=
    .mark rfl rfl fun position => starts .openArray position Token.noConfusion
  cases items with
  | nil => exact (opened (']' :: rest)).trans (.mark rfl rfl fun _ => rfl)
  | cons item items =>
      obtain ⟨item_legible, items_legible⟩ := List.forall_mem_cons.mp legible
      rw [written]
      simp only [List.append_assoc, List.cons_append, List.nil_append]
      exact (opened _).trans <| (Leads.blank (lineBreak_blank layout (depth + 1))).trans <|
        (item_legible layout (depth + 1) _ _ _ (starts_itemDue frames)
          (endsValue_items layout (depth + 1) depth items rest)).trans <|
        leads_items layout (depth + 1) depth items_legible [] item frames rest

theorem setMember_of_not_mem {members : List (Text × Json)} {name : Text} (value : Json)
    (fresh : name ∉ members.map (·.1)) :
    setMember name value members = members ++ [(name, value)] := by
  induction members with
  | nil => rfl
  | cons entry members ih =>
      obtain ⟨other, old⟩ := entry
      rw [List.map_cons, List.mem_cons, not_or] at fresh
      rw [setMember, if_neg (Ne.symm fresh.1), ih fresh.2, List.cons_append]

theorem setMember_of_nodup {read members : List (Text × Json)} {name : Text} (value : Json)
    (names_nodup : ((read ++ (name, value) :: members).map (·.1)).Nodup) :
    setMember name value read = read ++ [(name, value)] := by
  rw [List.map_append, List.map_cons, List.nodup_middle, List.nodup_cons] at names_nodup
  exact setMember_of_not_mem value fun member => names_nodup.1 (List.mem_append_left _ member)

theorem leads_name {state : ReaderState} {read : List (Text × Json)} (name : Text)
    (due : ∀ position, state.next ⟨.text name, position⟩ = .ok (.colonDue frames read name)) :
    Leads state (writtenText name ++ ':' :: ' ' :: rest)
      (.valueDue (.object read name :: frames)) rest := by
  have colon : Leads (.colonDue frames read name) (':' :: ' ' :: rest)
      (.valueDue (.object read name :: frames)) (' ' :: rest) :=
    .mark rfl rfl fun _ => rfl
  have space : ∀ c ∈ [' '], isSpace c := by simp [isSpace]
  exact (Leads.token (makes_text name _) due).trans (colon.trans (.blank space))

theorem endsValue_members (layout : Layout) (depth outer : Nat) (members : List (Text × Json))
    (rest : List Char) :
    EndsValue (writtenMembers layout depth members ++ (layout.lineBreak outer ++ '\x7d' :: rest)) := by
  cases members with
  | nil => exact endsValue_lineBreak layout outer rest (by decide)
  | cons entry members =>
      simp only [writtenMembers, List.append_assoc]
      exact endsValue_separator layout depth _

/-- The members behind the first one are read up to the end of their object. -/
theorem leads_members (layout : Layout) (depth outer : Nat) {members : List (Text × Json)}
    (legible : ∀ entry ∈ members, entry.2.Legible) (read : List (Text × Json)) (name : Text)
    (value : Json) (names_nodup : ((read ++ (name, value) :: members).map (·.1)).Nodup)
    (frames : List Frame) (rest : List Char) :
    Leads (.valueRead (.object read name :: frames) value)
      (writtenMembers layout depth members ++ (layout.lineBreak outer ++ '\x7d' :: rest))
      (.valueRead frames (.object (read ++ (name, value) :: members))) rest := by
  induction members generalizing read name value with
  | nil =>
      refine (Leads.blank (lineBreak_blank layout outer)).trans (.mark rfl rfl fun position => ?_)
      rw [← setMember_of_nodup value names_nodup]
      rfl
  | cons entry members ih =>
      obtain ⟨next_name, next_value⟩ := entry
      obtain ⟨entry_legible, members_legible⟩ := List.forall_mem_cons.mp legible
      obtain ⟨spaces, separator, spaces_blank⟩ := exists_separator layout depth
      simp only [writtenMembers, separator, List.append_assoc, List.cons_append, List.nil_append]
      -- The name differs from all names before it, so that its member goes to the end.
      have comma (input : List Char) : Leads (.valueRead (.object read name :: frames) value)
          (',' :: input) (.nameDue frames (read ++ [(name, value)])) input := by
        refine .mark rfl rfl fun position => ?_
        rw [← setMember_of_nodup value names_nodup]
        rfl
      rw [List.append_cons] at names_nodup
      have next := ih members_legible (read ++ [(name, value)]) next_name next_value names_nodup
      rw [List.append_assoc] at next
      exact (comma _).trans <| (Leads.blank spaces_blank).trans <|
        (leads_name next_name fun _ => rfl).trans <|
        (entry_legible layout depth _ _ _ (starts_valueDue _)
          (endsValue_members layout depth outer members rest)).trans next

theorem Legible.object {members : List (Text × Json)} (names_nodup : (members.map (·.1)).Nodup)
    (legible : ∀ entry ∈ members, entry.2.Legible) : (Json.object members).Legible := by
  intro layout depth state frames rest starts ends
  have opened (input : List Char) : Leads state ('\x7b' :: input) (.memberDue frames) input :=
    .mark rfl rfl fun position => starts .openObject position Token.noConfusion
  cases members with
  | nil => exact (opened ('\x7d' :: rest)).trans (.mark rfl rfl fun _ => rfl)
  | cons entry members =>
      obtain ⟨name, value⟩ := entry
      obtain ⟨value_legible, members_legible⟩ := List.forall_mem_cons.mp legible
      rw [written]
      simp only [List.append_assoc, List.cons_append, List.nil_append]
      exact (opened _).trans <| (Leads.blank (lineBreak_blank layout (depth + 1))).trans <|
        (leads_name name fun _ => rfl).trans <|
        (value_legible layout (depth + 1) _ _ _ (starts_valueDue _)
          (endsValue_members layout (depth + 1) depth members rest)).trans <|
        leads_members layout (depth + 1) depth members_legible [] name value names_nodup frames rest

theorem Plain.legible {value : Json} (plain : value.Plain) : value.Legible := by
  induction plain with
  | null =>
      exact legible_of_makes (fun _ _ rest _ => makes_null rest) Token.noConfusion fun _ _ => rfl
  | boolean =>
      exact legible_of_makes (fun _ _ rest _ => makes_boolean _ rest) Token.noConfusion
        fun _ _ => rfl
  | @integer value short =>
      have makes (layout : Layout) (depth : Nat) (rest : List Char) (ends : EndsValue rest) :
          Makes (written layout depth (.integer value)) (.atom (.integer value)) rest := by
        rw [written]
        exact makes_integer short ends
      exact legible_of_makes makes Token.noConfusion fun _ _ => rfl
  | @string text =>
      have makes (layout : Layout) (depth : Nat) (rest : List Char) (_ : EndsValue rest) :
          Makes (written layout depth (.string text)) (.text text) rest := by
        rw [written]
        exact makes_text text rest
      exact legible_of_makes makes Token.noConfusion fun _ _ => rfl
  | array items_plain ih => exact .array ih
  | object names_nodup values_plain ih => exact .object names_nodup ih

theorem lexemes_blank {spaces : List Char} (blank : ∀ c ∈ spaces, isSpace c) (position : Nat) :
    lexemes position spaces = [] := by
  induction spaces generalizing position with
  | nil => rw [lexemes]
  | cons c spaces ih =>
      obtain ⟨space, spaces_blank⟩ := List.forall_mem_cons.mp blank
      rw [lexemes_space position _ space, ih spaces_blank]

/-- A plain value is read back from what is written for it, also if blanks follow. -/
theorem readChars_written_append {value : Json} (plain : value.Plain) (layout : Layout)
    {spaces : List Char} (blank : ∀ c ∈ spaces, isSpace c) (ends : EndsValue spaces) :
    readChars (written layout 0 value ++ spaces) = .ok value := by
  have no_mark : (written layout 0 value ++ spaces).head? ≠ some '\ufeff' := by
    intro mark
    rcases List.mem_append.mp (List.mem_of_head? mark) with inside | behind
    · rcases plain.allowed 0 _ inside with ink | ⟨line_end, -⟩
      · simp [IsInk] at ink
      · simp at line_end
    · exact absurd (blank _ behind) (by decide)
  have leads := plain.legible layout 0 (.valueDue []) [] spaces (starts_valueDue []) ends
  obtain ⟨stop, run⟩ := leads 0
  rw [readChars, if_neg no_mark, run, lexemes_blank blank]
  rfl

theorem readChars_written {value : Json} (plain : value.Plain) (layout : Layout) :
    readChars (written layout 0 value) = .ok value := by
  simpa using readChars_written_append plain layout (List.forall_mem_nil _) endsValue_nil

end Json
end RobotCity
