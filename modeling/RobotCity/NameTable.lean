import RobotCity.Text.Basic

/-!
# Name tables

A name table lists values under names, in the order in which the names were first declared.  A name
is either declared once and for all, or set again at its old place.
-/

namespace RobotCity

/-- Values under names. -/
structure NameTable (α : Type) where
  /-- The names and their values, in order. -/
  entries : List (Text × α)
  deriving DecidableEq, Repr

namespace NameTable

variable {α : Type}

/-- The table without names. -/
def empty : NameTable α := ⟨[]⟩

/-- The value under a name. -/
def find? (table : NameTable α) (name : Text) : Option α :=
  table.entries.lookup name

/-- The names, in order. -/
def names (table : NameTable α) : List Text :=
  table.entries.map (·.1)

/-- The values, in the order of their names. -/
def values (table : NameTable α) : List α :=
  table.entries.map (·.2)

/-- Declare a name; a name that is declared already keeps its value. -/
def declare (table : NameTable α) (name : Text) (value : α) : NameTable α :=
  if (table.find? name).isSome then table else ⟨table.entries ++ [(name, value)]⟩

/-- Set the value under a name in a list of entries. -/
def setEntry (name : Text) (value : α) : List (Text × α) → List (Text × α)
  | [] => [(name, value)]
  | (other, old) :: rest =>
    if other = name then (name, value) :: rest else (other, old) :: setEntry name value rest

/-- Set the value under a name, which keeps its place if it is declared already. -/
def set (table : NameTable α) (name : Text) (value : α) : NameTable α :=
  ⟨setEntry name value table.entries⟩

/-- Declare names in order, so that the first declaration of each name counts. -/
def ofFirst (declarations : List (Text × α)) : NameTable α :=
  declarations.foldl (fun table entry => table.declare entry.1 entry.2) empty

/-- Set names in order, so that the last declaration of each name counts. -/
def ofLast (declarations : List (Text × α)) : NameTable α :=
  declarations.foldl (fun table entry => table.set entry.1 entry.2) empty

@[simp]
theorem find?_empty (name : Text) : (empty : NameTable α).find? name = none := rfl

theorem lookup_cons_eq_if (name other : Text) (value : α) (entries : List (Text × α)) :
    List.lookup name ((other, value) :: entries) =
      if name = other then some value else List.lookup name entries := by
  rw [List.lookup_cons]
  by_cases same : name = other
  · simp [same]
  · simp [beq_false_of_ne same, same]

theorem find?_set (table : NameTable α) (name other : Text) (value : α) :
    (table.set name value).find? other = if other = name then some value else table.find? other := by
  obtain ⟨entries⟩ := table
  simp only [find?, set]
  induction entries with
  | nil => simp [setEntry, lookup_cons_eq_if]
  | cons entry rest ih =>
    obtain ⟨first, old⟩ := entry
    by_cases here : first = name
    · simp only [setEntry, here, if_true, lookup_cons_eq_if]
      split <;> rfl
    · simp only [setEntry, here, if_false, lookup_cons_eq_if, ih]
      by_cases same : other = first
      · subst same
        simp [here]
      · simp [same]

end NameTable
end RobotCity
