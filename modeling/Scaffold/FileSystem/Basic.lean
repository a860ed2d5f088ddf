/-!
# File systems

A file system maps locations to entries. A location is the list of names from the root down; the
root itself is always a directory.

* `FileSystem.get?`: the entry at a location.
* `FileSystem.put`, `FileSystem.erase`, `FileSystem.remove`: an entry is placed; an entry goes alone,
  or with all below it.
* `FileSystem.listing`: the names in a directory, as the system lists them.
* `FileSystem.get?_put_self`, `FileSystem.get?_put_of_ne`, `FileSystem.get?_remove`: each operation
  through the view `get?`.
* `FileSystem.mem_listing`: a name is listed exactly when there is an entry of that name.
-/

namespace Scaffold

/-! ## The type -/

/-- The names from the root down to an entry. -/
abbrev Location := List String

/-- What lies at a location. -/
inductive Entry where
  | directory
  | file (content : ByteArray)
  | link (target : String)

/-- Whether two entries are equal; files are compared byte for byte. -/
def Entry.decideEq : (a b : Entry) → Decidable (a = b)
  | .directory, .directory => isTrue rfl
  | .file a, .file b =>
    match ByteArray.instDecidableEq a b with
    | isTrue h => isTrue (congrArg Entry.file h)
    | isFalse h => isFalse fun e => h (Entry.file.inj e)
  | .link a, .link b =>
    match String.decEq a b with
    | isTrue h => isTrue (congrArg Entry.link h)
    | isFalse h => isFalse fun e => h (Entry.link.inj e)
  | .directory, .file _ | .directory, .link _ | .file _, .directory | .file _, .link _
  | .link _, .directory | .link _, .file _ => isFalse nofun

instance : DecidableEq Entry := Entry.decideEq

/-- Entries by location, and the directory that relative paths start from. -/
structure FileSystem where
  entries : List (Location × Entry) := []
  workingDirectory : Location := []
  deriving DecidableEq

/-- Names in order, the lowest in code point order first. -/
def sortNames (names : List String) : List String :=
  names.mergeSort fun a b => decide (a ≤ b)

namespace FileSystem

/-! ## The view -/

/-- The entry at a location. -/
def get? (fs : FileSystem) (l : Location) : Option Entry :=
  if l = [] then some .directory else fs.entries.lookup l

@[simp] theorem get?_nil (fs : FileSystem) : fs.get? [] = some .directory := by
  simp [get?]

/-! ## Changes -/

/-- An entry placed at a location, instead of what may lie there. -/
def put (fs : FileSystem) (l : Location) (e : Entry) : FileSystem :=
  { fs with entries := (l, e) :: fs.entries.filter (·.1 ≠ l) }

/-- The entry at a location taken away alone. -/
def erase (fs : FileSystem) (l : Location) : FileSystem :=
  { fs with entries := fs.entries.filter (·.1 ≠ l) }

/-- The entry at a location and all below it taken away. -/
def remove (fs : FileSystem) (l : Location) : FileSystem :=
  { fs with entries := fs.entries.filter fun x => !l.isPrefixOf x.1 }

/-- Looking a location up among chosen entries is choosing it or not. -/
theorem lookup_filter {p : Location → Bool} {l : Location}
    (entries : List (Location × Entry)) :
    (entries.filter fun x => p x.1).lookup l = if p l then entries.lookup l else none := by
  induction entries with
  | nil => simp
  | cons x xs ih =>
    obtain ⟨k, e⟩ := x
    by_cases hk : l = k
    · subst hk
      cases hp : p l with
      | true => simp [hp]
      | false => simp [hp, ih]
    · have hne : (l == k) = false := by simpa using hk
      cases hp : p k with
      | true => simp [List.lookup_cons, hp, hne, ih]
      | false => simp [List.lookup_cons, hp, hne, ih]

/-- An entry is where it has been put. -/
theorem get?_put_self (fs : FileSystem) {l : Location} (e : Entry) (h : l ≠ []) :
    (fs.put l e).get? l = some e := by
  simp [get?, put, h]

/-- What is put leaves every other place as it is. -/
theorem get?_put_of_ne (fs : FileSystem) {l l' : Location} (e : Entry) (h : l' ≠ l) :
    (fs.put l e).get? l' = fs.get? l' := by
  have hne : (l' == l) = false := by simpa using h
  have hf := lookup_filter (p := fun k => decide (k ≠ l)) (l := l') fs.entries
  simp only [ne_eq, h, not_false_eq_true, decide_true, if_true] at hf
  simp only [get?, put, List.lookup_cons, hne]
  rw [← hf]

/-- What is removed is gone with all below it, and the rest stays. -/
theorem get?_remove (fs : FileSystem) {l l' : Location} (h : l' ≠ []) :
    (fs.remove l).get? l' = if l.isPrefixOf l' then none else fs.get? l' := by
  have hf := lookup_filter (p := fun k => !l.isPrefixOf k) (l := l') fs.entries
  simp only [get?, remove, if_neg h, hf]
  cases l.isPrefixOf l' <;> simp

/-! ## Directories -/

/-- The name of an entry that lies directly in a directory. -/
def childName? : Location → Location → Option String
  | [], [n] => some n
  | d :: ds, n :: ns => if d = n then childName? ds ns else none
  | _, _ => none

/-- A name in a directory is the last one of a location there. -/
theorem childName?_eq_some_iff {d l : Location} {n : String} :
    childName? d l = some n ↔ l = d ++ [n] := by
  induction d generalizing l with
  | nil => match l with
    | [] => simp [childName?]
    | [m] => simp [childName?]
    | m :: k :: ms => simp [childName?]
  | cons a d ih => match l with
    | [] => simp [childName?]
    | m :: ms =>
      by_cases ham : a = m
      · subst ham
        simp [childName?, ih]
      · have hma : m ≠ a := fun h => ham h.symm
        simp [childName?, ham, hma]

/-- The names in a directory, in the order in which the system lists them. This may be any order. -/
def listing (fs : FileSystem) (d : Location) : List String :=
  fs.entries.filterMap fun x => childName? d x.1

/-- A directory is listed with the names at which something is in it. -/
theorem mem_listing {fs : FileSystem} {d : Location} {n : String} :
    n ∈ fs.listing d ↔ (fs.get? (d ++ [n])).isSome := by
  simp only [listing, List.mem_filterMap, childName?_eq_some_iff, get?, List.append_eq_nil_iff,
    List.cons_ne_self, and_false, if_false]
  constructor
  · rintro ⟨⟨k, e⟩, hmem, hk⟩
    obtain rfl : k = d ++ [n] := hk
    cases hl : fs.entries.lookup (d ++ [n]) with
    | some => rfl
    | none =>
      have := List.lookup_eq_none_iff.1 hl (d ++ [n], e) hmem
      simp at this
  · intro h
    obtain ⟨e, he⟩ := Option.isSome_iff_exists.1 h
    obtain ⟨l₁, l₂, hl, -⟩ := List.lookup_eq_some_iff.1 he
    exact ⟨(d ++ [n], e), by simp [hl], rfl⟩

/-- Everything below a directory, with the names on the way from there joined by slashes, in the
order of these texts. -/
def below (fs : FileSystem) (d : Location) : List (String × Entry) :=
  let inside := fs.entries.filter fun x => d.isPrefixOf x.1 && x.1 ≠ d
  (inside.map fun x => ("/".intercalate (x.1.drop d.length), x.2)).mergeSort
    (fun a b => decide (a.1 ≤ b.1))

/-- Every entry lies in a directory. -/
def Rooted (fs : FileSystem) : Prop :=
  ∀ (d : Location) (n : String), (fs.get? (d ++ [n])).isSome → fs.get? d = some .directory

end FileSystem

end Scaffold
