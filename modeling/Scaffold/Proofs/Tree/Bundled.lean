import Mathlib.Tactic.Lemma
import Scaffold.Proofs.Template.Binding
import Scaffold.Settings.Basic
import Scaffold.Text.Utf8
import Scaffold.Tree.Bundled

/-!
# The templates among the bundled files

* `toList_lines_cons`: the characters of a text of lines.
* `templates`: the bundled files that are rendered. `readsWith_of_mem_templates` says that they can be
  read and have only names that the bindings of a project have.
* `exists_render_of_mem_templates`: they render for every project.
-/

namespace Scaffold.Tree.Bundled

open Template

/-! ## Texts of lines -/

/-- No lines are no text. -/
lemma toList_lines_nil : (lines []).toList = [] := rfl

/-- A line ends before the next one. -/
lemma toList_lines_cons (l : String) (ls : List String) :
    (lines (l :: ls)).toList = l.toList ++ '\n' :: (lines ls).toList := by
  simp [lines, String.join_cons]

/-! ## Templates -/

/-- The bundled files that are templates. -/
def templates : List String :=
  [packageManifest, readme, page, mainSource, appManifest]

/-- The names that a project gives values to. -/
def keys : List String :=
  ["project_name", "package_name", "identifier", "swift_module_name", "velox_dependency",
    "velox_local"]

/-- Every key has a value, whatever the project. -/
lemma isSome_get?_of_mem_keys (s : Settings) (identifier : String) {n : String} (h : n ∈ keys) :
    ((s.bindings identifier).get? n).isSome := by
  simp only [keys, List.mem_cons, List.not_mem_nil, or_false] at h
  rcases h with rfl | rfl | rfl | rfl | rfl | rfl <;> rfl

/-- The templates can be read, and all names in them are keys. -/
lemma readsWith_of_mem_templates : ∀ t ∈ templates, readsWith keys t.toList = true := by
  simp only [templates, List.forall_mem_cons, List.not_mem_nil, false_imp_iff, implies_true, and_true]
  refine ⟨?_, ?_, ?_, ?_, ?_⟩ <;> show readsWith keys (lines _).toList = true <;>
    (repeat rw [toList_lines_cons, String.toList_ofList]) <;> rw [toList_lines_nil] <;>
    decide +kernel

/-- The templates render for every project. -/
theorem exists_render_of_mem_templates (s : Settings) (identifier : String) {t : String}
    (h : t ∈ templates) : ∃ text, render t (s.bindings identifier) = .ok text :=
  exists_render_of_readsWith (readsWith_of_mem_templates t h)
    fun _ hn => isSome_get?_of_mem_keys s identifier hn

end Scaffold.Tree.Bundled
