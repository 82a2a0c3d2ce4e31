import RobotCity.Proofs.Statements.Rules

/-!
# Parts of statements

A statement is accepted only if all statements in it are, at whatever depth they stand.  So what the
rules say of a call holds of every call in an accepted body.
-/

namespace RobotCity
namespace Statement

/-- The statements that a statement is made of. -/
def parts : Statement → List Statement
  | .block body => body
  | .ifThen _ body => [body]
  | .ifElse _ body otherwise => [body, otherwise]
  | .times _ body => [body]
  | .loop _ body => [body]
  | _ => []

/-- The expressions of a statement itself, those of its parts left out. -/
def expressions : Statement → List Expression
  | .assign _ value => [value]
  | .block _ => []
  | .ifThen condition _ => [condition]
  | .ifElse condition _ _ => [condition]
  | .times count _ => [count]
  | .loop condition _ => [condition]
  | .inform (.text _) value => value.toList
  | .inform (.value first) second => first :: second.toList
  | .moveTo x y => [x, y]
  | .exchange _ value _ => [value]
  | .corner _ x y => [x, y]
  | .call _ arguments => arguments

/-- A statement stands in another one, at any depth, or is this statement itself. -/
inductive StandsIn (inner : Statement) : Statement → Prop
  | itself : StandsIn inner inner
  | part {outer part : Statement} :
    part ∈ outer.parts → StandsIn inner part → StandsIn inner outer

/-- A statement stands in a body, at any depth. -/
def StandsInBody (inner : Statement) (body : List Statement) : Prop :=
  ∃ statement ∈ body, inner.StandsIn statement

variable {around : Surroundings}

theorem Accepted.of_part {outer part : Statement} (accepted : outer.Accepted around)
    (member : part ∈ outer.parts) : part.Accepted around := by
  cases accepted with
  | block body_accepted => exact body_accepted part member
  | ifThen _ body_accepted => exact List.mem_singleton.mp member ▸ body_accepted
  | ifElse _ body_accepted otherwise_accepted =>
      rcases List.mem_pair.mp member with rfl | rfl
      · exact body_accepted
      · exact otherwise_accepted
  | times _ body_accepted => exact List.mem_singleton.mp member ▸ body_accepted
  | loop _ body_accepted => exact List.mem_singleton.mp member ▸ body_accepted
  | _ => cases member

/-- All statements in an accepted statement are accepted, in the same surroundings. -/
theorem Accepted.of_standsIn {inner outer : Statement} (accepted : outer.Accepted around)
    (inside : inner.StandsIn outer) : inner.Accepted around := by
  induction inside with
  | itself => exact accepted
  | part member _ ih => exact ih (accepted.of_part member)

theorem accepted_of_standsInBody {inner : Statement} {body : List Statement}
    (accepted : ∀ statement ∈ body, statement.Accepted around) (inside : inner.StandsInBody body) :
    inner.Accepted around := by
  obtain ⟨statement, member, stands⟩ := inside
  exact (accepted statement member).of_standsIn stands

end Statement
end RobotCity
