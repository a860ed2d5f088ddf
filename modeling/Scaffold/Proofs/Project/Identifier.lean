import Mathlib.Tactic.Lemma
import Scaffold.Proofs.FileSystem.Naming
import Scaffold.Settings.Basic

/-!
# Identifiers of applications

The identifier that is used where the user gives none is made of three parts.

* `isPackageChar_of_isSeparator_or_isDropped`: a character that a text loses on its way to a package
  name is none of those that a package name may have.
* `notMem_toPackageName`, `notMem_packageName`: no such character stands in a package name, whether it
  was made or taken as it stands.
* `splitOn_identifier`: the dots of the identifier are those between its parts.
-/

namespace Scaffold

open Text

namespace Project

variable {c : Char} {cs : List Char} {name : String}

/-- No separator and no dropped character is a character of package names. -/
lemma isPackageChar_of_isSeparator_or_isDropped (h : isSeparator c = true ∨ isDropped c = true) :
    isPackageChar c = false := by
  simp only [isSeparator, isDropped, Bool.or_eq_true, beq_iff_eq] at h
  rcases h with (((rfl | rfl) | rfl) | rfl) | ((rfl | rfl) | rfl) <;> decide

/-- What is left of some characters holds no separators and no dropped characters. -/
lemma notMem_packageChars (h : isSeparator c = true ∨ isDropped c = true) :
    c ∉ packageChars cs := by
  intro hmem
  have hkept := (List.dropWhile_suffix isLeadingJunk).subset hmem
  obtain ⟨hmap, hdropped⟩ := List.mem_filter.mp hkept
  obtain ⟨d, -, hd⟩ := List.mem_map.mp hmap
  rcases h with hsep | hdrop
  · -- a separator has become a hyphen, and what is kept as it is was none
    by_cases hdsep : isSeparator d = true
    · rw [if_pos hdsep] at hd
      rw [← hd] at hsep
      exact absurd hsep (by decide)
    · rw [if_neg hdsep] at hd
      exact hdsep (hd ▸ hsep)
  · rw [hdrop] at hdropped
    cases hdropped

/-- A package name that is made holds no separators and no dropped characters. -/
lemma notMem_toPackageName (h : isSeparator c = true ∨ isDropped c = true) (name : String) :
    c ∉ (toPackageName name).toList := by
  have hdefault : ∀ d ∈ defaultPackageName.toList, isPackageChar d = true :=
    List.all_eq_true.mp (by decide)
  unfold toPackageName
  split
  · intro hmem
    have hchar := hdefault c hmem
    rw [isPackageChar_of_isSeparator_or_isDropped h] at hchar
    cases hchar
  · rw [String.toList_ofList]
    exact notMem_packageChars h

/-- A package name holds no separators and no dropped characters. -/
lemma notMem_of_isPackageName (h : isSeparator c = true ∨ isDropped c = true)
    (hname : isPackageName name = true) : c ∉ name.toList := by
  intro hmem
  unfold isPackageName at hname
  split at hname
  · cases hname
  · rename_i d ds hds
    rw [hds] at hmem
    have hchar := List.all_eq_true.mp (Bool.and_eq_true_iff.mp hname).2 c hmem
    rw [isPackageChar_of_isSeparator_or_isDropped h] at hchar
    cases hchar

/-- A package name is not empty. -/
lemma ne_empty_of_isPackageName (hname : isPackageName name = true) : name ≠ "" := by
  rintro rfl
  cases hname

end Project

namespace Settings

open Project

/-- The package name of a project holds no separators and no dropped characters. -/
lemma notMem_packageName {c : Char} (h : isSeparator c = true ∨ isDropped c = true) (s : Settings) :
    c ∉ s.packageName.toList := by
  unfold packageName
  split
  · rename_i hname
    exact notMem_of_isPackageName h hname
  · exact notMem_toPackageName h s.displayName

/-- The name of a package is not empty. -/
lemma packageName_ne_empty (s : Settings) : s.packageName ≠ "" := by
  unfold packageName
  split
  · rename_i hname
    exact ne_empty_of_isPackageName hname
  · exact toPackageName_ne_empty s.displayName

/-- The characters that no part of an identifier holds, besides the dot. -/
def unidentifying : List Char :=
  ['/', '\\', ' ', ':', ';', '~']

/-- No character that is not allowed in an identifier is left in a name. -/
lemma isSeparator_or_isDropped_of_mem {c : Char} (h : c ∈ unidentifying) :
    isSeparator c = true ∨ isDropped c = true := by
  have hall : unidentifying.all (fun c => isSeparator c || isDropped c) = true := by decide
  exact Bool.or_eq_true_iff.mp (List.all_eq_true.mp hall c h)

/-- **The parts of the identifier.** Whatever the user and the project are called, the identifier that
is used by default is `com`, the name of the user, and that of the package, with a dot between them and
no other dots. None of the three is empty or holds a slash, a backslash, a blank, a colon, a semicolon
or a tilde. -/
theorem splitOn_identifier (s : Settings) (user : Option String) :
    splitOn '.' (s.defaults.identifier user s.packageName) =
        ["com", toPackageName (user.getD ""), s.packageName] ∧
      ∀ part ∈ ["com", toPackageName (user.getD ""), s.packageName],
        part ≠ "" ∧ ∀ c ∈ unidentifying, c ∉ part.toList := by
  have hdot : isSeparator '.' = true ∨ isDropped '.' = true := by decide
  constructor
  · have hidentifier : s.defaults.identifier user s.packageName =
        "com" ++ String.singleton '.' ++
          (toPackageName (user.getD "") ++ String.singleton '.' ++ s.packageName) := by
      rw [← String.toList_inj]
      simp [Defaults.identifier]
    rw [hidentifier, splitOn_append_append (by decide),
      splitOn_append_append (notMem_toPackageName hdot _),
      splitOn_of_notMem (notMem_packageName hdot s)]
  · simp only [List.forall_mem_cons]
    refine ⟨⟨by decide, fun c hc => ?_⟩, ⟨toPackageName_ne_empty _, fun c hc => ?_⟩,
      ⟨packageName_ne_empty s, fun c hc => ?_⟩, List.forall_mem_nil _⟩
    · exact notMem_of_isPackageName (isSeparator_or_isDropped_of_mem hc) (by decide)
    · exact notMem_toPackageName (isSeparator_or_isDropped_of_mem hc) _
    · exact notMem_packageName (isSeparator_or_isDropped_of_mem hc) s

end Settings

end Scaffold
