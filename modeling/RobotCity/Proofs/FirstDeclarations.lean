import RobotCity.Proofs.Declarations

/-!
# First declarations

The tables of a check are filled by declaring one name after the other.  They answer like a search
through the declarations from the first one on, and list the names in the order in which these are
first declared, whatever names are declared again.
-/

namespace RobotCity

/-- Looking up a name among items is searching for the first item of the name. -/
theorem lookup_map_eq_find? {α β : Type} (name : α → Text) (value : α → β) (items : List α)
    (wanted : Text) :
    (items.map fun item => (name item, value item)).lookup wanted =
      (items.find? (name · = wanted)).map value := by
  induction items with
  | nil => rfl
  | cons first rest ih =>
      rw [List.map_cons, NameTable.lookup_cons_eq_if, List.find?_cons, ih]
      by_cases same : name first = wanted
      · simp [same]
      · simp [same, Ne.symm same]

/-- A scope gives a name the type of its first declaration, the local variables being searched before
the parameters. -/
structure KeepsFirstVariables (scope : Scope) (locals : List Variable)
    (parameters : List Parameter) : Prop where
  find?_eq : ∀ name, scope.find? name =
    ((locals.find? (·.name = name)).map (·.type.token)).or
      ((parameters.find? (·.name = name)).map (·.type.token))
  find?_eq_none_iff : ∀ name, scope.find? name = none ↔
    name ∉ locals.map (·.name) ∧ name ∉ parameters.map (·.name)
  listsFirst : scope.ListsFirst (locals.map (·.name) ++ parameters.map (·.name))

/-- A table of procedures gives a name the parameters of the first procedure of this name. -/
structure KeepsFirstProcedures (table : NameTable Signature) (procedures : List Procedure) :
    Prop where
  find?_eq : ∀ name, (table.find? name).map (·.parameters) =
    (procedures.find? (·.name = name)).map (·.parameters)
  named : ∀ entry ∈ table.entries, entry.2.name = entry.1
  listsFirst : table.ListsFirst (procedures.map (·.name))

theorem scopeOf_keepsFirst (locals : List Variable) (parameters : List Parameter) :
    KeepsFirstVariables (scopeOf locals parameters) locals parameters := by
  have find?_eq : ∀ name, (scopeOf locals parameters).find? name =
      ((locals.find? (·.name = name)).map (·.type.token)).or
        ((parameters.find? (·.name = name)).map (·.type.token)) := by
    intro name
    rw [find?_scopeOf, declaredScope, NameTable.find?, List.lookup_append, lookup_map_eq_find?,
      lookup_map_eq_find?]
  refine ⟨find?_eq, fun name => ?_, ?_⟩
  · simp [find?_eq, Option.or_eq_none_iff]
  · have names_eq : (declaredScope locals parameters).names =
        locals.map (·.name) ++ parameters.map (·.name) := by
      simp [declaredScope, NameTable.names, Function.comp_def]
    rw [← names_eq]
    exact NameTable.ofFirst_listsFirst (declaredScope locals parameters).entries

theorem signatures_keepsFirst (procedures : List Procedure) :
    KeepsFirstProcedures (signatures procedures) procedures := by
  refine ⟨fun name => ?_, fun entry member => ?_, ?_⟩
  · rw [find?_signatures, declaredProcedures, NameTable.find?, lookup_map_eq_find?, Option.map_map]
    rfl
  · obtain ⟨procedure, -, rfl⟩ := List.mem_map.mp (NameTable.mem_of_mem_ofFirst member)
    rfl
  · have names_eq : (declaredProcedures procedures).names = procedures.map (·.name) := by
      simp [declaredProcedures, NameTable.names, Function.comp_def]
    rw [← names_eq]
    exact NameTable.ofFirst_listsFirst (declaredProcedures procedures).entries

/-- The tables of a check keep the first declaration of every name, wherever else the name is declared
again. -/
theorem tables_keep_first (locals : List Variable) (parameters : List Parameter)
    (procedures : List Procedure) :
    KeepsFirstVariables (scopeOf locals parameters) locals parameters ∧
      KeepsFirstProcedures (signatures procedures) procedures :=
  ⟨scopeOf_keepsFirst locals parameters, signatures_keepsFirst procedures⟩

end RobotCity
