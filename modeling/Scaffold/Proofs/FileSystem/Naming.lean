import Mathlib.Tactic.Lemma
import Scaffold.FileSystem.Walk

/-!
# Names of entries

* `IsPlainName`: a name that an entry of a directory can have. `join_ofString` says that such a name
  joined to a path is the path of an entry.
* `Path.below`: a path that goes down from another one through a list of names.
* `FileSystem.Fits`: a path within the limits of the system. `length_names_child_le` bounds the
  depth of such a path, and `fits_below` says that it suffices to look at the longest of several
  paths.
-/

namespace Scaffold

/-! ## Plain names -/

/-- A name that an entry of a directory can have. -/
structure IsPlainName (n : String) : Prop where
  ne_empty : n ≠ ""
  ne_here : n ≠ "."
  ne_above : n ≠ ".."
  slash_notMem : '/' ∉ n.toList
  null_notMem : '\x00' ∉ n.toList

instance (n : String) : Decidable (IsPlainName n) :=
  decidable_of_iff (n ≠ "" ∧ n ≠ "." ∧ n ≠ ".." ∧ '/' ∉ n.toList ∧ '\x00' ∉ n.toList)
    ⟨fun ⟨h₁, h₂, h₃, h₄, h₅⟩ => ⟨h₁, h₂, h₃, h₄, h₅⟩,
      fun ⟨h₁, h₂, h₃, h₄, h₅⟩ => ⟨h₁, h₂, h₃, h₄, h₅⟩⟩

/-- A text without the separator is one piece. -/
lemma Text.splitPieces_of_notMem {separator : Char} {cs : List Char} (h : separator ∉ cs) :
    splitPieces separator cs = (cs, []) := by
  induction cs with
  | nil => rfl
  | cons c cs ih =>
      have hne : c ≠ separator := fun heq => h (heq ▸ List.mem_cons_self)
      have hcs : separator ∉ cs := fun hmem => h (List.mem_cons_of_mem c hmem)
      simp only [splitPieces, ih hcs, if_neg hne]

/-- The first separator ends the first piece. -/
lemma Text.splitPieces_append_cons {separator : Char} {cs : List Char} (h : separator ∉ cs)
    (rest : List Char) :
    splitPieces separator (cs ++ separator :: rest) =
      (cs, (splitPieces separator rest).1 :: (splitPieces separator rest).2) := by
  induction cs with
  | nil => simp only [List.nil_append, splitPieces, if_true]
  | cons c cs ih =>
      have hne : c ≠ separator := fun heq => h (heq ▸ List.mem_cons_self)
      have hcs : separator ∉ cs := fun hmem => h (List.mem_cons_of_mem c hmem)
      simp only [List.cons_append, splitPieces, ih hcs, if_neg hne]

/-- A text without the separator is its only piece. -/
lemma Text.splitOn_of_notMem {separator : Char} {s : String} (h : separator ∉ s.toList) :
    splitOn separator s = [s] := by
  simp [splitOn, splitPieces_of_notMem h]

/-- What stands before the first separator is the first piece. -/
lemma Text.splitOn_append_append {separator : Char} {s : String} (h : separator ∉ s.toList)
    (rest : String) :
    splitOn separator (s ++ String.singleton separator ++ rest) = s :: splitOn separator rest := by
  simp [splitOn, splitPieces_append_cons h]

namespace Path

/-- A text that a name without slashes opens has none in front. -/
lemma takeWhile_append_of_isName {n : String} (h : '/' ∉ n.toList) (hname : isName n = true)
    (cs : List Char) : (n.toList ++ cs).takeWhile (· == '/') = [] := by
  cases hn : n.toList with
  | nil => simp [isName, String.toList_eq_nil_iff.mp hn] at hname
  | cons c ds =>
      have hc : c ≠ '/' := by
        rintro rfl
        exact h (hn ▸ List.mem_cons_self)
      simp [hc]

/-- A name without slashes, with a slash behind it, is the first of its path. -/
lemma ofString_append {n : String} (h : '/' ∉ n.toList) (hname : isName n = true) (rest : String) :
    ofString (n ++ "/" ++ rest) = ⟨.here, n :: namesOf rest⟩ := by
  have hsplit : Text.splitOn '/' (n ++ "/" ++ rest) = n :: Text.splitOn '/' rest :=
    Text.splitOn_append_append h rest
  have hstart : (n ++ "/" ++ rest).toList.takeWhile (· == '/') = [] := by
    rw [String.append_assoc, String.toList_append]
    exact takeWhile_append_of_isName h hname _
  simp only [ofString, namesOf, hsplit, hstart, List.filter_cons, hname, if_true, List.length_nil,
    anchorOf]

/-- A name without slashes is a path of one name. -/
lemma ofString_of_isName {n : String} (h : '/' ∉ n.toList) (hname : isName n = true) :
    ofString n = ⟨.here, [n]⟩ := by
  have hstart := takeWhile_append_of_isName h hname []
  rw [List.append_nil] at hstart
  simp [ofString, namesOf, Text.splitOn_of_notMem h, hname, hstart, anchorOf]

/-- A plain name is a path of one name. -/
lemma ofString_of_isPlainName {n : String} (h : IsPlainName n) : ofString n = ⟨.here, [n]⟩ :=
  ofString_of_isName h.slash_notMem (by simp [isName, h.ne_empty, h.ne_here])

/-- A plain name joined to a path is the path of an entry. -/
lemma join_ofString {n : String} (p : Path) (h : IsPlainName n) :
    p.join (.ofString n) = p.child n := by
  rw [ofString_of_isPlainName h, join_of_not_isAbsolute rfl, child]

/-! ## Paths below a path -/

/-- The path that goes on from a path through some names. -/
def below (p : Path) (ns : List String) : Path :=
  ⟨p.anchor, p.names ++ ns⟩

@[simp] lemma below_nil (p : Path) : p.below [] = p := by
  simp [below]

@[simp] lemma child_below (p : Path) (ns : List String) (n : String) :
    (p.below ns).child n = p.below (ns ++ [n]) := by
  simp [below, child]

/-! ## The text of a path -/

/-- What stands before the names in the text of a path. -/
def opening : Anchor → String
  | .here => ""
  | .root => "/"
  | .doubleRoot => "//"

/-- The text of a path that has names. -/
lemma toString_of_names_ne_nil {p : Path} (h : p.names ≠ []) :
    p.toString = opening p.anchor ++ "/".intercalate p.names := by
  cases ha : p.anchor with
  | here => simp [toString, ha, h, opening]
  | root => simp [toString, ha, opening]
  | doubleRoot => simp [toString, ha, opening]

/-- The text of the path of an entry. -/
lemma toString_child (p : Path) (n : String) :
    (p.child n).toString = opening p.anchor ++ "/".intercalate (p.names ++ [n]) :=
  toString_of_names_ne_nil (by simp [child])

/-- A character of the text of an entry stands in the text of its directory or in its name, unless
it is a slash. -/
lemma mem_toString_child {p : Path} {n : String} {c : Char} (hc : c ≠ '/')
    (h : c ∈ (p.child n).toString.toList) : c ∈ p.toString.toList ∨ c ∈ n.toList := by
  rw [toString_child] at h
  by_cases hp : p.names = []
  · have hopening : c ∉ (opening p.anchor).toList := by
      cases p.anchor with
      | here => simp [opening]
      | root => simpa [opening] using hc
      | doubleRoot => simpa [opening] using hc
    rw [hp, List.nil_append, String.intercalate_singleton, String.toList_append] at h
    rcases List.mem_append.mp h with h | h
    · exact absurd h hopening
    · exact .inr h
  · rw [toString_of_names_ne_nil hp]
    rw [String.intercalate_append_of_ne_nil hp (by simp), String.intercalate_singleton] at h
    simp only [String.toList_append, List.mem_append] at h ⊢
    rcases h with h | (h | h) | h
    · exact .inl (.inl h)
    · exact .inl (.inr h)
    · exact absurd (by simpa using h) hc
    · exact .inr h

/-- The bytes that some names take in the text of a path, each with one for what stands beside it. -/
def extent : List String → Nat
  | [] => 0
  | n :: ns => n.utf8ByteSize + 1 + extent ns

/-- Names are no shorter in all than there are names. -/
lemma length_le_extent (ns : List String) : ns.length ≤ extent ns := by
  induction ns with
  | nil => exact Nat.le_refl 0
  | cons n ns ih =>
      rw [List.length_cons, extent]
      omega

/-- The extent of names in a row. -/
lemma extent_append (ms ns : List String) : extent (ms ++ ns) = extent ms + extent ns := by
  induction ms with
  | nil => simp [extent]
  | cons m ms ih =>
      rw [List.cons_append, extent, extent, ih]
      omega

/-- The extent of names is the size of their text, and one more. -/
lemma utf8ByteSize_intercalate {ns : List String} (h : ns ≠ []) :
    ("/".intercalate ns).utf8ByteSize + 1 = extent ns := by
  induction ns with
  | nil => exact absurd rfl h
  | cons n ns ih =>
      cases ns with
      | nil => simp [extent]
      | cons m ms =>
          have hslash : "/".utf8ByteSize = 1 := by decide
          have hrest := ih (by simp)
          rw [String.intercalate_cons_cons, String.utf8ByteSize_append,
            String.utf8ByteSize_append, extent]
          omega

/-- How long the text of a path is depends on the names at its end only through their extent. -/
lemma utf8ByteSize_toString_below (p : Path) {ns : List String} (h : ns ≠ []) :
    (p.below ns).toString.utf8ByteSize + 1 =
      (opening p.anchor).utf8ByteSize + extent p.names + extent ns := by
  have hne : p.names ++ ns ≠ [] := by simp [h]
  rw [toString_of_names_ne_nil hne, below, String.utf8ByteSize_append, Nat.add_assoc,
    utf8ByteSize_intercalate hne, extent_append, Nat.add_assoc]

/-- A path from which one goes on is not too long, if the path that one comes to is not. -/
lemma toString_lt_of_below {p : Path} {ns : List String}
    (h : (p.below ns).toString.utf8ByteSize < FileSystem.pathLimit) :
    p.toString.utf8ByteSize < FileSystem.pathLimit := by
  by_cases hns : ns = []
  · rwa [hns, below_nil] at h
  obtain ⟨anchor, names⟩ := p
  by_cases hnames : names = []
  · subst hnames
    cases anchor <;> decide
  · have hwhole := utf8ByteSize_toString_below ⟨anchor, names⟩ hns
    have hpart := utf8ByteSize_toString_below ⟨anchor, []⟩ hnames
    simp only [below, List.nil_append, extent] at h hwhole hpart
    omega

/-- The path of an entry has no more names than its text has bytes. -/
lemma length_names_child_le {p : Path} {n : String} (hn : n ≠ "") :
    (p.child n).names.length ≤ (p.child n).toString.utf8ByteSize := by
  have hsize : n.utf8ByteSize ≠ 0 := fun h => hn (String.utf8ByteSize_eq_zero_iff.mp h)
  have hchild : p.child n = p.below [n] := rfl
  have hlength : (p.below [n]).names.length = p.names.length + 1 := by simp [below]
  have htext := p.utf8ByteSize_toString_below (List.cons_ne_nil n [])
  have hle := length_le_extent p.names
  simp only [extent] at htext
  rw [hchild, hlength]
  omega

/-- The last name of a path is one of those that it goes on with. -/
lemma name_below_mem (p : Path) {ns : List String} (h : ns ≠ []) : (p.below ns).name ∈ ns := by
  rw [name, below, List.getLast?_append, List.getLast?_eq_some_getLast h, Option.some_or]
  exact List.getLast_mem h

end Path

namespace FileSystem

/-- A path within the limits of the system. -/
def Fits (p : Path) : Prop :=
  p.toString.utf8ByteSize < pathLimit ∧ p.name.utf8ByteSize ≤ nameLimit

instance (p : Path) : Decidable (Fits p) :=
  inferInstanceAs (Decidable (_ ∧ _))

/-- A path below another one is within the limits if its names are, and those at the end of a path
that is take no less. -/
lemma fits_below {p : Path} {ms ns : List String}
    (hlimit : (p.below ms).toString.utf8ByteSize < pathLimit) (hms : ms ≠ []) (hns : ns ≠ [])
    (hle : Path.extent ns ≤ Path.extent ms) (hnames : ∀ n ∈ ns, n.utf8ByteSize ≤ nameLimit) :
    Fits (p.below ns) := by
  refine ⟨?_, hnames _ (p.name_below_mem hns)⟩
  have hlong := p.utf8ByteSize_toString_below hms
  have hshort := p.utf8ByteSize_toString_below hns
  omega

end FileSystem

end Scaffold
