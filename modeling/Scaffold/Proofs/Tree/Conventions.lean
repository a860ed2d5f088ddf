import Mathlib.Tactic.Lemma
import Scaffold.Proofs.Template.Joining
import Scaffold.Proofs.Text.Replacing
import Scaffold.Tree.Conventions

/-!
# Names that stay as they are

* `Conventions.directoryName_of_text`, `Conventions.fileName_of_text`: what is made of a name with
  neither the placeholder nor a bracket, whatever the bindings are.
-/

namespace Scaffold.Tree.Conventions

open Template

variable {c : Conventions} {b : Bindings} {n stem : String} {isTemplate : Bool}

/-- A name without the placeholder stays as it is. -/
lemma placeModule_of_not_isInfix (h : ¬ c.modulePlaceholder.toList <:+: n.toList) :
    c.placeModule b n = n := by
  unfold placeModule
  split
  · exact Text.replaceAll_of_not_isInfix h _
  · rfl

/-- A directory whose name has neither the placeholder nor a bracket keeps it. -/
lemma directoryName_of_text (hplace : ¬ c.modulePlaceholder.toList <:+: n.toList)
    (hopen : ¬ openChars <:+: n.toList) : c.directoryName b n = .ok n := by
  rw [directoryName, placeModule_of_not_isInfix hplace, render_of_text hopen]

/-- A file whose name has neither the placeholder nor a bracket is renamed as a whole, and loses the
suffix of templates. -/
lemma fileName_of_text (hplace : ¬ c.modulePlaceholder.toList <:+: n.toList)
    (hstem : c.stripSuffix ((c.renames.lookup n).getD n) = (stem, isTemplate))
    (hopen : ¬ openChars <:+: stem.toList) : c.fileName b n = .ok (stem, isTemplate) := by
  simp only [fileName, placeModule_of_not_isInfix hplace, hstem, render_of_text hopen]
  rfl

end Scaffold.Tree.Conventions
