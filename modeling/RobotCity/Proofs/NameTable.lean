import RobotCity.NameTable

/-!
# Name tables as first-match search

A table in which each name is declared once for all answers like a search for the first declaration
of a name.  A table of items with names of their own is no more than the list of these items, before
and after one of its values is set.
-/

namespace RobotCity
namespace NameTable

variable {α β : Type}

theorem lookup_eq_none_iff_notMem {entries : List (Text × α)} {name : Text} :
    entries.lookup name = none ↔ name ∉ entries.map (·.1) := by
  simp only [List.lookup_eq_none_iff, List.mem_map, not_exists, not_and, bne_iff_ne]
  exact ⟨fun all entry member same => all entry member same.symm,
    fun all entry member same => all entry member same.symm⟩

theorem find?_eq_none_iff {table : NameTable α} {name : Text} :
    table.find? name = none ↔ name ∉ table.names :=
  lookup_eq_none_iff_notMem

theorem declare_of_mem {table : NameTable α} {name : Text} (value : α)
    (declared : name ∈ table.names) : table.declare name value = table := by
  have found : (table.find? name).isSome := by
    rw [Option.isSome_iff_ne_none]
    exact fun nothing => find?_eq_none_iff.mp nothing declared
  rw [declare, if_pos found]

theorem declare_of_notMem {table : NameTable α} {name : Text} (value : α)
    (absent : name ∉ table.names) :
    table.declare name value = ⟨table.entries ++ [(name, value)]⟩ := by
  simp [declare, find?_eq_none_iff.mpr absent]

theorem find?_declare (table : NameTable α) (name wanted : Text) (value : α) :
    (table.declare name value).find? wanted =
      (table.find? wanted).or (if wanted = name then some value else none) := by
  unfold declare
  split
  · rename_i declared
    by_cases same : wanted = name
    · subst same
      obtain ⟨old, found⟩ := Option.isSome_iff_exists.mp declared
      simp [found]
    · simp [same]
  · simp only [find?, List.lookup_append, lookup_cons_eq_if, List.lookup_nil]

theorem find?_foldl_declare (declarations : List (Text × α)) (table : NameTable α)
    (wanted : Text) :
    (declarations.foldl (fun table entry => table.declare entry.1 entry.2) table).find? wanted =
      (table.find? wanted).or (declarations.lookup wanted) := by
  induction declarations generalizing table with
  | nil => simp
  | cons entry rest ih =>
      obtain ⟨name, value⟩ := entry
      rw [List.foldl_cons, ih, find?_declare, lookup_cons_eq_if, Option.or_assoc]
      by_cases same : wanted = name <;> simp [same]

/-- A look-up in a table of first declarations finds the first declaration of the name. -/
theorem find?_ofFirst (declarations : List (Text × α)) (wanted : Text) :
    (ofFirst declarations).find? wanted = declarations.lookup wanted := by
  rw [ofFirst, find?_foldl_declare, find?_empty, Option.none_or]

/-- A table lists the names that are given, in the order in which they are first given. -/
structure ListsFirst (table : NameTable α) (given : List Text) : Prop where
  mem_iff : ∀ name, name ∈ table.names ↔ name ∈ given
  in_order : table.names.Pairwise fun name later => given.idxOf name < given.idxOf later

/-- One more declaration leaves the names in the order in which they are first given. -/
theorem ListsFirst.declare {table : NameTable α} {given : List Text} (lists : table.ListsFirst given)
    (name : Text) (value : α) : (table.declare name value).ListsFirst (given ++ [name]) := by
  have still_in_order : table.names.Pairwise fun other later =>
      (given ++ [name]).idxOf other < (given ++ [name]).idxOf later := by
    refine lists.in_order.imp_of_mem fun other_member later_member before => ?_
    rwa [List.idxOf_append, List.idxOf_append, if_pos ((lists.mem_iff _).mp other_member),
      if_pos ((lists.mem_iff _).mp later_member)]
  by_cases declared : name ∈ table.names
  · rw [declare_of_mem value declared]
    refine ⟨fun other => ?_, still_in_order⟩
    rw [List.mem_append, List.mem_singleton, lists.mem_iff, iff_self_or]
    rintro rfl
    exact (lists.mem_iff other).mp declared
  · have names_eq : (table.declare name value).names = table.names ++ [name] := by
      rw [declare_of_notMem value declared, names, List.map_append]
      rfl
    refine ⟨fun other => ?_, ?_⟩
    · rw [names_eq, List.mem_append, List.mem_append, lists.mem_iff]
    · rw [names_eq, List.pairwise_append]
      refine ⟨still_in_order, List.pairwise_singleton _ _, fun other other_member last is_last => ?_⟩
      obtain rfl := List.mem_singleton.mp is_last
      have other_given := (lists.mem_iff other).mp other_member
      have last_new := mt (lists.mem_iff last).mpr declared
      rw [List.idxOf_append, if_pos other_given, List.idxOf_append, if_neg last_new]
      exact Nat.lt_add_left _ (List.idxOf_lt_length_of_mem other_given)

theorem ListsFirst.foldl_declare {table : NameTable α} {given : List Text}
    (lists : table.ListsFirst given) (declarations : List (Text × α)) :
    (declarations.foldl (fun table entry => table.declare entry.1 entry.2) table).ListsFirst
      (given ++ declarations.map (·.1)) := by
  induction declarations generalizing table given with
  | nil => simpa using lists
  | cons entry rest ih =>
      rw [List.map_cons, List.append_cons]
      exact ih (lists.declare entry.1 entry.2)

/-- A table of first declarations lists the names in the order in which they are first declared. -/
theorem ofFirst_listsFirst (declarations : List (Text × α)) :
    (ofFirst declarations).ListsFirst (declarations.map (·.1)) :=
  ListsFirst.foldl_declare ⟨fun _ => Iff.rfl, .nil⟩ declarations

/-- In a table of first declarations no name stands twice. -/
theorem names_ofFirst_nodup (declarations : List (Text × α)) :
    (ofFirst declarations).names.Nodup := by
  refine (ofFirst_listsFirst declarations).in_order.imp fun before same => ?_
  subst same
  exact Nat.lt_irrefl _ before

/-- Entering declarations one by one leads to no entries but these. -/
theorem mem_foldl_enter {enter : NameTable α → Text → α → NameTable α}
    (enters : ∀ {table : NameTable α} {name value entry},
      entry ∈ (enter table name value).entries → entry ∈ table.entries ∨ entry = (name, value))
    {declarations : List (Text × α)} {table : NameTable α} {entry : Text × α}
    (member : entry ∈
      (declarations.foldl (fun table entry => enter table entry.1 entry.2) table).entries) :
    entry ∈ table.entries ∨ entry ∈ declarations := by
  induction declarations generalizing table with
  | nil => exact .inl member
  | cons declared rest ih =>
      rcases ih member with before | later
      · rcases enters before with old | rfl
        · exact .inl old
        · exact .inr List.mem_cons_self
      · exact .inr (List.mem_cons_of_mem declared later)

theorem mem_of_mem_ofFirst {declarations : List (Text × α)} {entry : Text × α}
    (member : entry ∈ (ofFirst declarations).entries) : entry ∈ declarations := by
  refine (mem_foldl_enter (fun {table name value entry} entered => ?_) member).resolve_left
    List.not_mem_nil
  rw [declare] at entered
  split at entered
  · exact .inl entered
  · exact (List.mem_append.mp entered).imp id List.mem_singleton.mp

theorem mem_setEntry {name : Text} {value : α} {entries : List (Text × α)} {entry : Text × α}
    (member : entry ∈ setEntry name value entries) : entry ∈ entries ∨ entry = (name, value) := by
  induction entries with
  | nil => exact .inr (List.mem_singleton.mp member)
  | cons first rest ih =>
      obtain ⟨other, old⟩ := first
      rw [setEntry] at member
      split at member
      · rcases List.mem_cons.mp member with rfl | later
        · exact .inr rfl
        · exact .inl (List.mem_cons_of_mem _ later)
      · rcases List.mem_cons.mp member with rfl | later
        · exact .inl List.mem_cons_self
        · exact (ih later).imp (List.mem_cons_of_mem _) id

theorem mem_of_mem_ofLast {declarations : List (Text × α)} {entry : Text × α}
    (member : entry ∈ (ofLast declarations).entries) : entry ∈ declarations :=
  (mem_foldl_enter mem_setEntry member).resolve_left List.not_mem_nil

theorem isSome_find?_foldl_set (declarations : List (Text × α)) (table : NameTable α)
    (wanted : Text) :
    ((declarations.foldl (fun table entry => table.set entry.1 entry.2) table).find? wanted).isSome ↔
      (table.find? wanted).isSome ∨ wanted ∈ declarations.map (·.1) := by
  induction declarations generalizing table with
  | nil => simp
  | cons entry rest ih =>
      rw [List.foldl_cons, ih, find?_set, List.map_cons, List.mem_cons, ← or_assoc]
      by_cases same : wanted = entry.1 <;> simp [same]

/-- Exactly the names that are declared have values. -/
theorem isSome_find?_ofLast (declarations : List (Text × α)) (wanted : Text) :
    ((ofLast declarations).find? wanted).isSome ↔ wanted ∈ declarations.map (·.1) := by
  rw [ofLast, isSome_find?_foldl_set, find?_empty]
  simp

theorem mem_entries_of_find? {table : NameTable α} {name : Text} {value : α}
    (found : table.find? name = some value) : (name, value) ∈ table.entries := by
  obtain ⟨front, back, split_here, -⟩ := List.lookup_eq_some_iff.mp found
  rw [split_here]
  exact List.mem_append_right front List.mem_cons_self

/-- Setting the value of a name that is declared changes one entry alone. -/
theorem exists_split_of_find? {table : NameTable α} {name : Text} {value : α}
    (found : table.find? name = some value) :
    ∃ front back, table.entries = front ++ (name, value) :: back ∧
      ∀ changed, (table.set name changed).entries = front ++ (name, changed) :: back := by
  obtain ⟨entries⟩ := table
  rw [find?] at found
  simp only [set]
  induction entries with
  | nil => cases found
  | cons entry rest ih =>
      obtain ⟨other, old⟩ := entry
      rw [lookup_cons_eq_if] at found
      split at found
      · rename_i same
        subst same
        cases found
        exact ⟨[], rest, rfl, fun changed => by simp [setEntry]⟩
      · rename_i differs
        obtain ⟨front, back, rfl, changes⟩ := ih found
        refine ⟨(other, old) :: front, back, rfl, fun changed => ?_⟩
        rw [setEntry, if_neg (Ne.symm differs), changes changed]
        rfl

/-- Among entries with names of their own a look-up finds every entry. -/
theorem lookup_eq_some_iff_mem {entries : List (Text × α)} {name : Text} {value : α}
    (names_nodup : (entries.map (·.1)).Nodup) :
    entries.lookup name = some value ↔ (name, value) ∈ entries := by
  induction entries with
  | nil => simp
  | cons entry rest ih =>
      obtain ⟨other, old⟩ := entry
      obtain ⟨other_absent, rest_nodup⟩ := List.nodup_cons.mp names_nodup
      rw [lookup_cons_eq_if, List.mem_cons, Prod.mk.injEq]
      by_cases same : name = other
      · have absent : (name, value) ∉ rest := by
          intro member
          exact other_absent (List.mem_map.mpr ⟨(name, value), member, same⟩)
        simp only [same, if_true, Option.some.injEq, true_and]
        constructor
        · exact fun equal => .inl equal.symm
        · rintro (equal | member)
          · exact equal.symm
          · exact absurd (same ▸ member) absent
      · simp [same, ih rest_nodup]

theorem setEntry_of_notMem {entries : List (Text × α)} {name : Text} (value : α)
    (absent : name ∉ entries.map (·.1)) :
    setEntry name value entries = entries ++ [(name, value)] := by
  induction entries with
  | nil => rfl
  | cons entry rest ih =>
      obtain ⟨other, old⟩ := entry
      simp only [List.map_cons, List.mem_cons, not_or] at absent
      simp [setEntry, Ne.symm absent.1, ih absent.2]

theorem set_of_notMem {table : NameTable α} {name : Text} (value : α)
    (absent : name ∉ table.names) :
    table.set name value = ⟨table.entries ++ [(name, value)]⟩ := by
  rw [set, setEntry_of_notMem value absent]

/-- Entering declarations one by one lists them, as long as every name is new. -/
theorem foldl_enter_of_nodup {enter : NameTable α → Text → α → NameTable α}
    (appends : ∀ table name value, name ∉ table.names →
      enter table name value = ⟨table.entries ++ [(name, value)]⟩)
    (declarations : List (Text × α)) (table : NameTable α)
    (names_nodup : (table.names ++ declarations.map (·.1)).Nodup) :
    declarations.foldl (fun table entry => enter table entry.1 entry.2) table =
      ⟨table.entries ++ declarations⟩ := by
  induction declarations generalizing table with
  | nil => simp
  | cons entry rest ih =>
      obtain ⟨name, value⟩ := entry
      have absent : name ∉ table.names := by
        intro member
        exact (List.nodup_append.mp names_nodup).2.2 name member name (by simp) rfl
      rw [List.foldl_cons, appends table name value absent, ih]
      · simp
      · simpa [names] using names_nodup

/-- The table that lists items under their names. -/
def tabulate (name : β → Text) (value : β → α) (items : List β) : NameTable α :=
  ⟨items.map fun item => (name item, value item)⟩

variable {name : β → Text} {value changed : β → α} {items : List β} {item : β}

@[simp]
theorem entries_tabulate : (tabulate name value items).entries =
    items.map fun item => (name item, value item) := rfl

@[simp]
theorem names_tabulate : (tabulate name value items).names = items.map name := by
  simp [tabulate, names]

@[simp]
theorem values_tabulate : (tabulate name value items).values = items.map value := by
  simp [tabulate, values]

theorem ofFirst_eq_tabulate (name : β → Text) (value : β → α)
    (names_nodup : (items.map name).Nodup) :
    ofFirst (items.map fun item => (name item, value item)) = tabulate name value items := by
  rw [ofFirst, foldl_enter_of_nodup (fun _ _ value absent => declare_of_notMem value absent)]
  · rfl
  · simpa [names, empty, Function.comp_def] using names_nodup

theorem ofLast_eq_tabulate (name : β → Text) (value : β → α)
    (names_nodup : (items.map name).Nodup) :
    ofLast (items.map fun item => (name item, value item)) = tabulate name value items := by
  rw [ofLast, foldl_enter_of_nodup (fun _ _ value absent => set_of_notMem value absent)]
  · rfl
  · simpa [names, empty, Function.comp_def] using names_nodup

theorem find?_tabulate_of_mem (name : β → Text) (value : β → α)
    (names_nodup : (items.map name).Nodup) (member : item ∈ items) :
    (tabulate name value items).find? (name item) = some (value item) := by
  have listed : (name item, value item) ∈ items.map fun item => (name item, value item) :=
    List.mem_map_of_mem member
  exact (lookup_eq_some_iff_mem (by simpa [Function.comp_def] using names_nodup)).mpr listed

theorem find?_tabulate_of_notMem (name : β → Text) (value : β → α) {wanted : Text}
    (absent : wanted ∉ items.map name) : (tabulate name value items).find? wanted = none :=
  find?_eq_none_iff.mpr (by simpa using absent)

/-- Setting the value of one item changes nothing but this value. -/
theorem set_tabulate (name : β → Text) (value changed : β → α)
    (names_nodup : (items.map name).Nodup) (member : item ∈ items)
    (others : ∀ other ∈ items, name other ≠ name item → changed other = value other) :
    (tabulate name value items).set (name item) (changed item) = tabulate name changed items := by
  simp only [tabulate, set, mk.injEq]
  induction items with
  | nil => simp at member
  | cons first rest ih =>
      rw [List.map_cons, List.nodup_cons] at names_nodup
      simp only [List.map_cons, setEntry]
      rcases List.mem_cons.mp member with rfl | later
      · have rest_same : rest.map (fun item => (name item, value item)) =
            rest.map fun item => (name item, changed item) := by
          refine List.map_congr_left fun other other_member => ?_
          have differs : name other ≠ name item := by
            intro same
            exact names_nodup.1 (same ▸ List.mem_map_of_mem other_member)
          rw [others other (List.mem_cons_of_mem _ other_member) differs]
        simp [rest_same]
      · have differs : name first ≠ name item := by
          intro same
          exact names_nodup.1 (same ▸ List.mem_map_of_mem later)
        have rest_set := ih names_nodup.2 later fun other other_member =>
          others other (List.mem_cons_of_mem _ other_member)
        rw [if_neg differs, rest_set, others first List.mem_cons_self differs]

end NameTable
end RobotCity
