import RobotCity.Proofs.Declarations
import RobotCity.Proofs.Documents.Mirror
import RobotCity.Proofs.Typing

/-!
# Expressions in accepted statements

The check finds a type for every expression of an accepted program at which it looks.  Only the
second argument of `Informar` behind another expression is passed over, and may hold anything.
-/

namespace RobotCity
namespace Statement

/-- The expressions at which the check looks. -/
def examined : Statement → List Expression
  | .inform (.value first) _ => [first]
  | statement => statement.expressions

/-- All expressions of a statement are examined but the second argument of `Informar` behind an
expression. -/
theorem mem_expressions_iff {statement : Statement} {expression : Expression} :
    expression ∈ statement.expressions ↔
      expression ∈ statement.examined ∨
        ∃ first, statement = .inform (.value first) (some expression) := by
  cases statement with
  | inform notice value =>
      cases notice with
      | text content => simp [expressions, examined]
      | value first => cases value <;> simp [expressions, examined, eq_comm]
  | _ => simp [examined]

variable {around : Surroundings}

theorem exists_type_of_passes {parameter : Parameter} {argument : Expression}
    (passes : around.Passes parameter argument) :
    ∃ type, argument.infer around.scope = .ok type := by
  cases passes with
  | byReference found => exact ⟨_, by rw [Expression.infer, found]⟩
  | byValue inferred => exact ⟨_, inferred⟩

theorem exists_parameter_of_mem {parameters : List Parameter} {arguments : List Expression}
    (all_pass : List.Forall₂ around.Passes parameters arguments) {argument : Expression}
    (member : argument ∈ arguments) : ∃ parameter, around.Passes parameter argument := by
  induction all_pass with
  | nil => simp at member
  | cons first_passes _ ih =>
      rcases List.mem_cons.mp member with rfl | later
      · exact ⟨_, first_passes⟩
      · exact ih later

/-- The expressions that are examined in an accepted statement have types. -/
theorem Accepted.exists_type {statement : Statement} (accepted : statement.Accepted around)
    {expression : Expression} (member : expression ∈ statement.examined) :
    ∃ type, expression.infer around.scope = .ok type := by
  cases accepted with
  | assign _ inferred => exact ⟨_, List.mem_singleton.mp member ▸ inferred⟩
  | block => cases member
  | ifThen typed => exact ⟨_, List.mem_singleton.mp member ▸ typed⟩
  | ifElse typed => exact ⟨_, List.mem_singleton.mp member ▸ typed⟩
  | times typed => exact ⟨_, List.mem_singleton.mp member ▸ typed⟩
  | loop typed => exact ⟨_, List.mem_singleton.mp member ▸ typed⟩
  | informText => cases member
  | informTextValue inferred => exact ⟨_, List.mem_singleton.mp member ▸ inferred⟩
  | informValue inferred => exact ⟨_, List.mem_singleton.mp member ▸ inferred⟩
  | moveTo x_typed y_typed =>
      rcases List.mem_pair.mp member with rfl | rfl
      · exact ⟨_, x_typed⟩
      · exact ⟨_, y_typed⟩
  | exchange inferred => exact ⟨_, List.mem_singleton.mp member ▸ inferred⟩
  | corner x_typed y_typed =>
      rcases List.mem_pair.mp member with rfl | rfl
      · exact ⟨_, x_typed⟩
      · exact ⟨_, y_typed⟩
  | call _ all_pass =>
      obtain ⟨parameter, passes⟩ := exists_parameter_of_mem all_pass member
      exact exists_type_of_passes passes

end Statement

namespace Program

/-- In an accepted program every expression that is examined has a type in the scope of its
declaration, in whatever statement it stands at whatever depth, and so has everything that it is
made of, down to names that are known.  The only expression of a statement that is not examined is
the second argument of `Informar` behind another expression. -/
theorem examined_expressions_typed {configuration : Configuration} {program : Program}
    (accepted : program.verdict configuration = .ok none) {scope : Scope} {body : List Statement}
    (member : (scope, body) ∈ program.bodies) {statement : Statement}
    (stands : statement.StandsInBody body) :
    (∀ expression ∈ statement.examined, ∀ part ∈ expression.parts,
      (∃ type, part.infer scope = .ok type) ∧ part.RootKnown scope) ∧
    ∀ expression, expression ∈ statement.expressions ↔
      expression ∈ statement.examined ∨
        ∃ first, statement = .inform (.value first) (some expression) := by
  refine ⟨fun expression examined part part_member => ?_, fun _ => Statement.mem_expressions_iff⟩
  have statement_accepted :=
    Statement.accepted_of_standsInBody (body_accepted accepted member) stands
  obtain ⟨type, inferred⟩ := statement_accepted.exists_type examined
  obtain ⟨partType, typed⟩ := (Expression.hasType_of_infer inferred).of_mem_parts part_member
  exact ⟨⟨partType, Expression.infer_of_hasType typed⟩, typed.rootKnown⟩

/-- Deep in the body of a procedure that calls itself, both arguments of the call have types. -/
theorem patrol_arguments_typed :
    patrol.verdict .standard = .ok none ∧
      ∀ argument ∈ [Expression.variable "steps", .integer 1],
        ∀ part ∈ argument.parts,
          (∃ type, part.infer (declaredScope advance.locals advance.parameters) = .ok type) ∧
            part.RootKnown (declaredScope advance.locals advance.parameters) := by
  let inner : Statement := .call "advance" [.variable "steps", .integer 1]
  have accepted : patrol.verdict .standard = .ok none := rfl
  have member : (declaredScope advance.locals advance.parameters, advance.body) ∈ patrol.bodies :=
    List.mem_append_left _ (List.mem_singleton_self _)
  have in_block : inner.StandsIn (.block [inner]) :=
    .part (List.mem_singleton_self inner) .itself
  have stands : inner.StandsInBody advance.body :=
    ⟨.loop (.variable "done") (.block [inner]), by decide,
      .part (List.mem_singleton_self _) in_block⟩
  exact ⟨accepted, (examined_expressions_typed accepted member stands).1⟩

/-- A sentry that shows a variable which nobody declares. -/
def haunted : Program :=
  { patrol with
    robotTypes :=
      [ { name := "sentry"
          locals := []
          body := [.inform (.value (.integer 1)) (some (.variable "ghost"))] } ] }

/-- There is an accepted document with an expression that has no type. -/
theorem untyped_expression_accepted :
    ¬∀ document configuration program, Program.ofJson document = .ok program →
      program.verdict configuration = .ok none →
      ∀ scope body, (scope, body) ∈ program.bodies →
      ∀ statement : Statement, statement.StandsInBody body →
      ∀ expression ∈ statement.expressions, ∃ type, expression.infer scope = .ok type := by
  intro all_typed
  let shown : Statement := .inform (.value (.integer 1)) (some (.variable "ghost"))
  have read : Program.ofJson haunted.toJson = .ok haunted :=
    Program.ofJson_toDocument (.inr rfl) false
  have accepted : haunted.verdict .standard = .ok none := rfl
  have member : (declaredScope [] [], [shown]) ∈ haunted.bodies :=
    List.mem_append_right _ (List.mem_singleton_self _)
  have stands : shown.StandsInBody [shown] := ⟨shown, List.mem_singleton_self shown, .itself⟩
  obtain ⟨type, inferred⟩ := all_typed _ _ _ read accepted _ _ member _ stands
    (.variable "ghost") (by simp [shown, Statement.expressions])
  cases inferred

end Program
end RobotCity
