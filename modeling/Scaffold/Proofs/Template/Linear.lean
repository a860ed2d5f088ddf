import Mathlib.Tactic.Lemma
import Scaffold.Template.Statement
import Scaffold.Template.Token

/-!
# Statements as tokens

A list of statements can be written down as tokens without any bracket. This is its linear form:
the grammar of the language read from the tree to the tokens.

* `statements_induction`: what holds of the empty list, passes over every kind of first statement
  and climbs out of both branches of a conditional, holds of every list.
* `Statement.BuiltFrom`: the texts and the names of a statement are of given kinds, and nothing
  foreign stands in it. `Genuine` is the weakest case: no condition on texts and names.
* `linearize`: the linear form of a list of statements.
-/

namespace Scaffold.Template

/-! ## Induction -/

/-- Induction over a list of statements and the branches of its conditionals at every depth. A
conditional without an `else` clause is a case of its own. -/
@[elab_as_elim]
theorem statements_induction {motive : List Statement → Prop} (nil : motive [])
    (text : ∀ content ss, motive ss → motive (.text content :: ss))
    (name : ∀ n ss, motive ss → motive (.variable n :: ss))
    (choice : ∀ n negated T ss, motive T → motive ss →
      motive (.conditional n negated T none :: ss))
    (choiceElse : ∀ n negated T F ss, motive T → motive F → motive ss →
      motive (.conditional n negated T (some F) :: ss))
    (foreign : ∀ typeName ss, motive ss → motive (.foreign typeName :: ss)) :
    (ss : List Statement) → motive ss
  | [] => nil
  | .text content :: ss =>
      text content ss (statements_induction nil text name choice choiceElse foreign ss)
  | .variable n :: ss =>
      name n ss (statements_induction nil text name choice choiceElse foreign ss)
  | .conditional n negated T none :: ss =>
      choice n negated T ss (statements_induction nil text name choice choiceElse foreign T)
        (statements_induction nil text name choice choiceElse foreign ss)
  | .conditional n negated T (some F) :: ss =>
      choiceElse n negated T F ss (statements_induction nil text name choice choiceElse foreign T)
        (statements_induction nil text name choice choiceElse foreign F)
        (statements_induction nil text name choice choiceElse foreign ss)
  | .foreign typeName :: ss =>
      foreign typeName ss (statements_induction nil text name choice choiceElse foreign ss)

/-! ## What statements are made of -/

section BuiltFrom

variable (IsText IsName : String → Prop)

mutual

/-- Every text of a statement satisfies `IsText`, every name in it `IsName`, and nothing foreign
stands in it, at any depth. -/
def Statement.BuiltFrom : Statement → Prop
  | .text content => IsText content
  | .variable name => IsName name
  | .conditional name _ thenBranch elseBranch =>
    IsName name ∧ allBuiltFrom thenBranch ∧ elseBuiltFrom elseBranch
  | .foreign _ => False

/-- `Statement.BuiltFrom` for a branch that may be missing. -/
def elseBuiltFrom : Option (List Statement) → Prop
  | none => True
  | some branch => allBuiltFrom branch

/-- `Statement.BuiltFrom` for every statement of a list. -/
def allBuiltFrom : List Statement → Prop
  | [] => True
  | s :: ss => s.BuiltFrom ∧ allBuiltFrom ss

end

variable {IsText IsName}

@[simp] lemma allBuiltFrom_nil : allBuiltFrom IsText IsName [] ↔ True := by
  rw [allBuiltFrom]

@[simp] lemma allBuiltFrom_cons {s : Statement} {ss : List Statement} :
    allBuiltFrom IsText IsName (s :: ss) ↔
      s.BuiltFrom IsText IsName ∧ allBuiltFrom IsText IsName ss := by
  rw [allBuiltFrom]

@[simp] lemma allBuiltFrom_append {ss ts : List Statement} :
    allBuiltFrom IsText IsName (ss ++ ts) ↔
      allBuiltFrom IsText IsName ss ∧ allBuiltFrom IsText IsName ts := by
  induction ss with
  | nil => simp
  | cons s ss ih => rw [List.cons_append, allBuiltFrom_cons, allBuiltFrom_cons, ih, and_assoc]

@[simp] lemma builtFrom_text {content : String} :
    (Statement.text content).BuiltFrom IsText IsName ↔ IsText content := by
  rw [Statement.BuiltFrom]

@[simp] lemma builtFrom_variable {name : String} :
    (Statement.variable name).BuiltFrom IsText IsName ↔ IsName name := by
  rw [Statement.BuiltFrom]

@[simp] lemma builtFrom_choice {name : String} {negated : Bool} {T : List Statement} :
    (Statement.conditional name negated T none).BuiltFrom IsText IsName ↔
      IsName name ∧ allBuiltFrom IsText IsName T := by
  simp [Statement.BuiltFrom, elseBuiltFrom]

@[simp] lemma builtFrom_choiceElse {name : String} {negated : Bool} {T F : List Statement} :
    (Statement.conditional name negated T (some F)).BuiltFrom IsText IsName ↔
      IsName name ∧ allBuiltFrom IsText IsName T ∧ allBuiltFrom IsText IsName F := by
  simp [Statement.BuiltFrom, elseBuiltFrom]

@[simp] lemma not_builtFrom_foreign {typeName : String} :
    ¬ (Statement.foreign typeName).BuiltFrom IsText IsName := by
  simp [Statement.BuiltFrom]

end BuiltFrom

/-- The statements hold nothing that is no statement, at any depth. -/
def Genuine (ss : List Statement) : Prop :=
  allBuiltFrom (fun _ => True) (fun _ => True) ss

/-! ## The linear form -/

/-- The tokens that open a conditional. -/
def condition (name : String) (negated : Bool) : List Token :=
  { kind := .ifWord } :: (if negated then [.bang] else []) ++ [.ofName name]

mutual

/-- The linear form of a statement. A foreign thing has none, and leaves no trace. -/
def Statement.linearize : Statement → List Token
  | .text content => [.text content]
  | .variable name => [.ofName name]
  | .conditional name negated thenBranch elseBranch =>
    condition name negated ++ linearizeAll thenBranch ++ linearizeElse elseBranch ++
      [{ kind := .endifWord }]
  | .foreign _ => []

/-- The linear form of an `else` clause, which is there also when its branch is empty. -/
def linearizeElse : Option (List Statement) → List Token
  | none => []
  | some branch => { kind := .elseWord } :: linearizeAll branch

/-- The linear form of a list of statements. -/
def linearizeAll : List Statement → List Token
  | [] => []
  | s :: ss => s.linearize ++ linearizeAll ss

end

@[simp] lemma linearizeAll_nil : linearizeAll [] = [] := by
  rw [linearizeAll]

@[simp] lemma linearizeAll_cons (s : Statement) (ss : List Statement) :
    linearizeAll (s :: ss) = s.linearize ++ linearizeAll ss := by
  rw [linearizeAll]

@[simp] lemma linearizeAll_append (ss ts : List Statement) :
    linearizeAll (ss ++ ts) = linearizeAll ss ++ linearizeAll ts := by
  induction ss with
  | nil => rfl
  | cons s ss ih => rw [List.cons_append, linearizeAll_cons, linearizeAll_cons, ih,
      List.append_assoc]

@[simp] lemma linearize_text (content : String) :
    (Statement.text content).linearize = [.text content] := by
  rw [Statement.linearize]

@[simp] lemma linearize_variable (name : String) :
    (Statement.variable name).linearize = [.ofName name] := by
  rw [Statement.linearize]

@[simp] lemma linearize_choice (name : String) (negated : Bool) (T : List Statement) :
    (Statement.conditional name negated T none).linearize =
      condition name negated ++ linearizeAll T ++ [{ kind := .endifWord }] := by
  simp [Statement.linearize, linearizeElse]

@[simp] lemma linearize_choiceElse (name : String) (negated : Bool) (T F : List Statement) :
    (Statement.conditional name negated T (some F)).linearize =
      condition name negated ++ linearizeAll T ++ { kind := .elseWord } :: linearizeAll F ++
        [{ kind := .endifWord }] := by
  simp [Statement.linearize, linearizeElse]

end Scaffold.Template
