import Scaffold.Template.Bindings
import Scaffold.Template.Error
import Scaffold.Template.Statement

/-!
# The value of statements

A list of statements is worth the texts of its members in order. A conditional is worth one of its
branches, and the other one is never looked at.

* `evaluate`, `evaluateAll`: the value, or the first fault in reading order.
* `evaluateAll_append`: the value of two lists one after the other.
-/

namespace Scaffold.Template

/-- The text bound to a name, which has to be there. -/
def Bindings.find (b : Bindings) (name : String) : Except EvaluationError String :=
  match b.get? name with
  | some value => .ok value
  | none => .error (.unbound name)

mutual

/-- The value of a statement. -/
def evaluate (b : Bindings) : Statement → Except EvaluationError String
  | .text content => .ok content
  | .variable name => b.find name
  | .conditional name negated thenBranch elseBranch => do
    let value ← b.find name
    if isTruthy value != negated then evaluateAll b thenBranch else evaluateElse b elseBranch
  | .foreign typeName => .error (.notAStatement typeName)

/-- The value of an `else` branch; a missing one is worth nothing. -/
def evaluateElse (b : Bindings) : Option (List Statement) → Except EvaluationError String
  | none => .ok ""
  | some branch => evaluateAll b branch

/-- The values of the members in order. -/
def evaluateAll (b : Bindings) : List Statement → Except EvaluationError String
  | [] => .ok ""
  | s :: ss => do
    let first ← evaluate b s
    let rest ← evaluateAll b ss
    return first ++ rest

end

/-- Statements in a row come to what the first and then the others come to. -/
theorem evaluateAll_append (b : Bindings) (ss ts : List Statement) :
    evaluateAll b (ss ++ ts) = do
      let first ← evaluateAll b ss
      let rest ← evaluateAll b ts
      return first ++ rest := by
  induction ss with
  | nil =>
    cases h : evaluateAll b ts <;> simp [evaluateAll, bind, Except.bind, pure, Except.pure, h]
  | cons s ss ih =>
    simp only [List.cons_append, evaluateAll, ih]
    cases evaluate b s with
    | error e => rfl
    | ok first =>
      cases evaluateAll b ss with
      | error e => rfl
      | ok rest =>
        cases evaluateAll b ts <;>
          simp [bind, Except.bind, pure, Except.pure, String.append_assoc]

end Scaffold.Template
