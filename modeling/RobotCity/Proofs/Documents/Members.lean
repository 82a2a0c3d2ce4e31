import Mathlib.Data.List.Forall2
import RobotCity.Program.Shape
import RobotCity.Proofs.NameTable
import RobotCity.Proofs.Outcomes

/-!
# Members of objects

An object is known by the values under its names.  The order of its members counts neither for the
readers of members nor when two values are compared.
-/

namespace RobotCity

namespace Json

/-- Two values are the same but for the order of the members in their objects. -/
inductive Alike : Json → Json → Prop
  | same {value : Json} : Alike value value
  | array {items others : List Json} :
    List.Forall₂ Alike items others → Alike (.array items) (.array others)
  | object {members arranged others : List (Text × Json)} :
    members.map (·.1) = arranged.map (·.1) →
    List.Forall₂ Alike (members.map (·.2)) (arranged.map (·.2)) →
    arranged.Perm others → Alike (.object members) (.object others)

/-- A value is an object of exactly these members, in any order. -/
def Holds (document : Json) (members : List (Text × Json)) : Prop :=
  ∃ given, document = .object given ∧ given.Perm members

theorem holds_object (members : List (Text × Json)) : (Json.object members).Holds members :=
  ⟨members, rfl, .refl members⟩

/-- An object is like every other one that has like values under the same names. -/
theorem Holds.alike {document : Json} {written members : List (Text × Json)}
    (holds : document.Holds members) (names : written.map (·.1) = members.map (·.1))
    (values : List.Forall₂ Alike (written.map (·.2)) (members.map (·.2))) :
    (Json.object written).Alike document := by
  obtain ⟨given, rfl, perm⟩ := holds
  exact .object names values perm.symm

theorem texts?_map_string (contents : List Text) :
    texts? (contents.map .string) = some contents := by
  induction contents with
  | nil => rfl
  | cons content rest ih => rw [List.map_cons, texts?, ih, Option.map_some]

/-- The same values are found under all names. -/
def Shows (given members : List (Text × Json)) : Prop :=
  ∀ name, member? given name = member? members name

theorem Holds.shows {document : Json} {members : List (Text × Json)}
    (holds : document.Holds members) (names_nodup : (members.map (·.1)).Nodup) :
    ∃ given, document = .object given ∧ Shows given members := by
  obtain ⟨given, rfl, perm⟩ := holds
  refine ⟨given, rfl, fun name => ?_⟩
  have given_nodup : (given.map (·.1)).Nodup := (perm.map _).nodup_iff.mpr names_nodup
  apply Option.ext
  intro value
  rw [member?, member?, NameTable.lookup_eq_some_iff_mem given_nodup,
    NameTable.lookup_eq_some_iff_mem names_nodup, perm.mem_iff]

namespace Shows

variable {given members : List (Text × Json)} {place : Place}

theorem member_eq (shows : Shows given members) (name : Text) :
    Json.member given name = Json.member members name := by
  rw [Json.member, Json.member, shows name]

theorem found (shows : Shows given members) (name : Text) (value : Json)
    (there : Json.member members name = value) : Json.member given name = value :=
  (shows.member_eq name).trans there

theorem text {content : Text} (shows : Shows given members)
    (name : String) (found : Json.member members name = .string content) :
    readText place given name = .ok content := by
  rw [readText, shows.member_eq, found]

theorem integer {value : Int} (shows : Shows given members)
    (name : String) (found : Json.member members name = .integer value) :
    readInteger place given name = .ok value := by
  rw [readInteger, shows.member_eq, found]

theorem boolean {value : Bool} (shows : Shows given members)
    (name : String) (found : Json.member members name = .boolean value) :
    readBoolean place given name = .ok value := by
  rw [readBoolean, shows.member_eq, found]

theorem token {α : Type} {tokens : List (Text × α)} {token : Text} {value : α}
    (shows : Shows given members) (name : String)
    (found : Json.member members name = .string token)
    (known : tokens.lookup token = some value) :
    readToken tokens place given name = .ok value := by
  rw [readToken, shows.text name found, ok_bind, known]

theorem member?_array {items : List Json} (shows : Shows given members)
    (name : String) (found : Json.member members name = .array items) :
    member? given name = some (.array items) := by
  rw [shows]
  cases present : member? members name with
  | none => simp [Json.member, present] at found
  | some value => simpa [Json.member, present] using found

theorem list {items : List Json} (shows : Shows given members)
    (name : String) (found : Json.member members name = .array items) :
    readList place given name = .ok items := by
  rw [readList, shows.member?_array name found]

theorem optionalList {items : List Json} (shows : Shows given members)
    (name : String) (found : Json.member members name = .array items) :
    readOptionalList place given name = .ok items := by
  rw [readOptionalList, shows.member?_array name found]

theorem texts {contents : List Text} (shows : Shows given members)
    (name : String) (found : Json.member members name = .array (contents.map .string)) :
    readTexts place given name = .ok contents := by
  rw [readTexts, shows.list name found, ok_bind, texts?_map_string]

end Shows
end Json

variable {α : Type} {ofJson : Place → Json → Except ShapeError α} {toJson : α → Json}

theorem readEach_map {parts : List α}
    (read : ∀ part ∈ parts, ∀ place, ofJson place (toJson part) = .ok part) (place : Place)
    (index : Nat) : readEach ofJson place index (parts.map toJson) = .ok parts := by
  induction parts generalizing index with
  | nil => rfl
  | cons first rest ih =>
      obtain ⟨first_read, rest_read⟩ := List.forall_mem_cons.mp read
      rw [List.map_cons, readEach, first_read, ok_bind, ih rest_read, ok_bind]
      rfl

/-- A document is read as some part, whatever its place, and the part is written as it is. -/
def Mirrors (ofJson : Place → Json → Except ShapeError α) (toJson : α → Json)
    (document : Json) : Prop :=
  ∃ part, (∀ place, ofJson place document = .ok part) ∧ (toJson part).Alike document

theorem mirrors_each {items : List Json}
    (mirrors : ∀ item ∈ items, Mirrors ofJson toJson item) :
    ∃ parts, (∀ place index, readEach ofJson place index items = .ok parts) ∧
      (Json.array (parts.map toJson)).Alike (.array items) := by
  suffices ∃ parts, (∀ place index, readEach ofJson place index items = .ok parts) ∧
      List.Forall₂ Json.Alike (parts.map toJson) items by
    obtain ⟨parts, read, alike⟩ := this
    exact ⟨parts, read, .array alike⟩
  induction items with
  | nil => exact ⟨[], fun _ _ => rfl, .nil⟩
  | cons item rest ih =>
      obtain ⟨item_mirrors, rest_mirrors⟩ := List.forall_mem_cons.mp mirrors
      obtain ⟨part, read, alike⟩ := item_mirrors
      obtain ⟨parts, rest_read, rest_alike⟩ := ih rest_mirrors
      refine ⟨part :: parts, fun place index => ?_, .cons alike rest_alike⟩
      rw [readEach, read, ok_bind, rest_read, ok_bind]
      rfl

end RobotCity
