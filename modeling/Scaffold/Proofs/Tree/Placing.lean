import Mathlib.Tactic.Lemma
import Scaffold.Proofs.Project.Naming
import Scaffold.Proofs.Template.Interpolating
import Scaffold.Settings.Basic
import Scaffold.Tree.Conventions

/-!
# The module name in the names of a tree

The name of the module is put into the name of an entry before that is read as a template. It comes from the
user, so it had better be nothing but a text there.

* `Settings.isInert_moduleName`: no module name holds anything of a bracket.
* `directoryName_eq_interpolation`: it makes no difference whether the module name is put in first or named
  in a directive, and the directives in the name stay the same.
-/

namespace Scaffold

open Template

/-- Whatever a project is called, its module name holds nothing of a bracket. -/
lemma Settings.isInert_moduleName (s : Settings) : IsInert s.moduleName where
  ne_empty := Project.toModuleName_ne_empty _
  open_notMem := Project.notMem_toModuleName (by decide) _
  percent_notMem := Project.notMem_toModuleName (by decide) _

namespace Tree

/-- **Names with a placeholder are interpolated.** Let the places at which the placeholder is replaced lie
outside of directives. Then the name that is made from the name of a directory is what that renders to with
the directive that names the module in all these places, or there is the same error, but for the position of
an invalid character; and the directives are those of the name itself, whatever the project is called. -/
theorem directoryName_eq_interpolation (s : Settings) (identifier name : String)
    (hfronts : ∀ front ∈ Text.fronts "__swift_module_name__".toList 0 name.toList,
      EndsOutside (String.ofList front)) :
    (Conventions.default.directoryName (s.bindings identifier) name).mapError RenderError.unplaced =
        (render (Text.replaceAll name "__swift_module_name__" "\x7b% swift_module_name %\x7d")
          (s.bindings identifier)).mapError RenderError.unplaced ∧
      directiveTokens (Conventions.default.placeModule (s.bindings identifier) name) =
        directiveTokens name := by
  have hplaced : Conventions.default.placeModule (s.bindings identifier) name =
      Text.replaceAll name "__swift_module_name__" s.moduleName := rfl
  have hdirective : "\x7b% swift_module_name %\x7d" =
      String.ofList (directive "swift_module_name") := by decide
  have hname : IsVariableName "swift_module_name" :=
    ⟨⟨'s', _, rfl, by decide, List.all_eq_true.mp (by decide)⟩, by decide⟩
  have hplaceholder : IsInert "__swift_module_name__" := by decide
  refine ⟨?_, ?_⟩
  · rw [Conventions.directoryName, hplaced, hdirective]
    exact render_replaceAll hname rfl s.isInert_moduleName hplaceholder name hfronts
  · rw [hplaced]
    exact directiveTokens_replaceAll s.isInert_moduleName hplaceholder name hfronts

/-- A project that is called like a directive. -/
def bracketedSettings : Settings where
  projectName := some "ß\x7b% x %\x7d"
  workingDirectory := ⟨.root, ["work"]⟩

/-- A name with a conditional and with placeholders side by side, between characters of brackets. -/
def conditionalName : String :=
  "\x7b__swift_module_name__%\x7b% if velox_local %\x7da\x7b% else %\x7d\x7d" ++
    "__swift_module_name____swift_module_name__\x7b% endif %\x7d%\x7d"

/-- The name of the module has brackets of its own, which are no directives in the result. -/
theorem directoryName_eq_interpolation_conditional :
    (Conventions.default.directoryName (bracketedSettings.bindings "id") conditionalName).mapError
        RenderError.unplaced = .ok "\x7bSSX%\x7dSSXSSX%\x7d" ∧
      directiveTokens (Conventions.default.placeModule (bracketedSettings.bindings "id") conditionalName) =
        [.openBracket, .ofWord "if", .ofName "velox_local", .closeBracket, .openBracket, .ofWord "else",
          .closeBracket, .openBracket, .ofWord "endif", .closeBracket] := by
  obtain ⟨hrender, hdirectives⟩ :=
    directoryName_eq_interpolation bracketedSettings "id" conditionalName (by decide +kernel)
  refine ⟨hrender.trans ?_, hdirectives.trans ?_⟩
  · decide +kernel
  · decide +kernel

end Tree

end Scaffold
