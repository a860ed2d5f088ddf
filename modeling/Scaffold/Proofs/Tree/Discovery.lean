import Mathlib.Tactic.Lemma
import Scaffold.Proofs.FileSystem.Onward
import Scaffold.Proofs.FileSystem.Rooted
import Scaffold.Proofs.Tree.Forest
import Scaffold.Proofs.Tree.Lookup

/-!
# Templates that are listed and templates that are found

A listing goes through the entries of a directory, while a lookup joins the name that it is given to the
path of the directory.

* `Catalog.pathOf_eq_child`, `Catalog.pathOf_append`: the path of a template, whose name may hold slashes.
* `Catalog.templatesAmong_eq_ok`, `Catalog.list_eq_ok`: which names are listed.
* `Catalog.find_agrees_list`: on names without slashes, what is listed is what is found. A name with a
  slash is found where the rest of it leads on from a listed template to a directory.
-/

namespace Scaffold

namespace Tree.Catalog

open FileSystem

variable {w : Workspace} {fs : FileSystem} {root : Path} {n name first : String}
  {ns names : List String}

/-! ## Paths of templates -/

/-- The name of a template directory is not a short one. -/
lemma marker_append_ne {s : String} (name : String) (h : s.utf8ByteSize < 9) : marker ++ name ≠ s := by
  rintro rfl
  have hmarker : marker.utf8ByteSize = 9 := by decide
  rw [String.utf8ByteSize_append] at h
  omega

/-- It is the name of an entry. -/
lemma isName_marker_append (name : String) : Path.isName (marker ++ name) = true := by
  simp [Path.isName, marker_append_ne name (s := ".") (by decide), show marker ≠ "" by decide]

/-- It has a slash only if the name of the template has one. -/
lemma slash_notMem_marker_append (h : '/' ∉ name.toList) : '/' ∉ (marker ++ name).toList := by
  have hmarker : '/' ∉ marker.toList := by decide
  rw [String.toList_append, List.mem_append]
  exact not_or.mpr ⟨hmarker, h⟩

/-- The path of a template without a slash in its name is that of an entry. -/
lemma pathOf_eq_child (h : '/' ∉ name.toList) : pathOf root name = root.child (marker ++ name) := by
  rw [pathOf, Path.ofString_of_isName (slash_notMem_marker_append h) (isName_marker_append name),
    Path.join_of_not_isAbsolute rfl, Path.child]

/-- The path of a template whose name holds a slash goes on from the path of the template that is named
before the slash. -/
lemma pathOf_append (h : '/' ∉ first.toList) (rest : String) :
    pathOf root (first ++ "/" ++ rest) = (pathOf root first).below (Path.namesOf rest) := by
  have hassoc : marker ++ (first ++ "/" ++ rest) = marker ++ first ++ "/" ++ rest := by
    simp only [String.append_assoc]
  rw [pathOf_eq_child h, pathOf, hassoc,
    Path.ofString_append (slash_notMem_marker_append h) (isName_marker_append first),
    Path.join_of_not_isAbsolute rfl]
  simp [Path.child, Path.below]

/-! ## Listed names -/

/-- The names of template directories are the marker with a name behind it. -/
lemma templateName?_eq_some_iff : templateName? n = some name ↔ n = marker ++ name := by
  unfold templateName?
  constructor
  · intro h
    split at h
    · rename_i hmarker
      obtain ⟨cs, hcs⟩ := List.isPrefixOf_iff_prefix.mp hmarker
      rw [← hcs, List.drop_left] at h
      rw [← Option.some.inj h, ← String.toList_inj, String.toList_append, String.toList_ofList, hcs]
    · cases h
  · rintro rfl
    have hmarker : marker.toList.isPrefixOf (marker ++ name).toList = true := by
      rw [String.toList_append, List.isPrefixOf_iff_prefix]
      exact List.prefix_append _ _
    rw [if_pos hmarker, String.toList_append, List.drop_left, String.ofList_toList]

section Listing

variable [Host]

/-- The first of some entries adds the name of a template if it is the directory of one. -/
lemma templatesAmong_cons_eq_ok (h : templatesAmong fs root (n :: ns) = .ok names) :
    ∃ isDir rest, Host.isDirectory fs (root.child n) = .ok isDir ∧
      templatesAmong fs root ns = .ok rest ∧
      ∀ name, name ∈ names ↔ (n = marker ++ name ∧ isDir = true) ∨ name ∈ rest := by
  rw [templatesAmong] at h
  cases hdir : Host.isDirectory fs (root.child n) with
  | error f => simp [hdir, bind, Except.bind] at h
  | ok isDir =>
      cases hrest : templatesAmong fs root ns with
      | error f => simp [hdir, hrest, bind, Except.bind] at h
      | ok rest =>
          refine ⟨isDir, rest, rfl, rfl, fun name => ?_⟩
          simp only [hdir, hrest, bind, Except.bind, pure, Except.pure] at h
          rw [← templateName?_eq_some_iff]
          cases hname : templateName? n with
          | none =>
              simp only [hname, Except.ok.injEq] at h
              simp [h]
          | some m =>
              simp only [hname, Except.ok.injEq] at h
              cases isDir with
              | true => simp [← h, eq_comm]
              | false => simp [← h]

/-- The host has told of every entry whether it is a directory, and the names are those of the templates
among them. -/
lemma templatesAmong_eq_ok (h : templatesAmong fs root ns = .ok names) :
    (∀ n ∈ ns, ∃ isDir, Host.isDirectory fs (root.child n) = .ok isDir) ∧
      ∀ name, name ∈ names ↔
        marker ++ name ∈ ns ∧ Host.isDirectory fs (root.child (marker ++ name)) = .ok true := by
  induction ns generalizing names with
  | nil =>
      obtain rfl := Except.ok.inj h
      simp
  | cons n ns ih =>
      obtain ⟨isDir, rest, hdir, hrest, hmem⟩ := templatesAmong_cons_eq_ok h
      obtain ⟨htold, hmem'⟩ := ih hrest
      refine ⟨fun m hm => ?_, fun name => ?_⟩
      · rcases List.mem_cons.mp hm with rfl | hm
        · exact ⟨isDir, hdir⟩
        · exact htold m hm
      · rw [hmem, hmem', List.mem_cons, or_and_right, eq_comm]
        refine or_congr_left (and_congr_right fun hn => ?_)
        rw [hn, hdir, Except.ok.injEq]

/-- What a listing says: there is no directory and nothing is listed, or the host has told of every entry
of the directory, and the names are those of the templates among them. -/
lemma list_eq_ok (h : list fs root = .ok names) :
    (Host.isDirectory fs root = .ok false ∧ names = []) ∨
      ∃ l, fs.find root = .ok (l, .directory) ∧
        (∀ n ∈ fs.listing l, ∃ isDir, Host.isDirectory fs (root.child n) = .ok isDir) ∧
        ∀ name, name ∈ names ↔ marker ++ name ∈ fs.listing l ∧
          Host.isDirectory fs (root.child (marker ++ name)) = .ok true := by
  unfold list at h
  cases hdir : Host.isDirectory fs root with
  | error f => simp [hdir, bind, Except.bind] at h
  | ok isDir =>
      cases isDir with
      | false =>
          simp only [hdir, bind, Except.bind, Bool.false_eq_true, if_false, pure, Except.pure,
            Except.ok.injEq] at h
          exact .inl ⟨rfl, h.symm⟩
      | true =>
          obtain ⟨l, hfind⟩ := find_of_isDirectory (Host.isDirectory_eq_ok hdir)
          cases hlisted : Host.list fs root with
          | error f => simp [hdir, hlisted, bind, Except.bind] at h
          | ok listed =>
              obtain rfl := Except.ok.inj ((list_of_find hfind).symm.trans (Host.list_eq_ok hlisted))
              cases hamong : templatesAmong fs root (fs.listing l) with
              | error f => simp [hdir, hlisted, hamong, bind, Except.bind] at h
              | ok among =>
                  simp only [hdir, hlisted, hamong, bind, Except.bind, if_true, pure, Except.pure,
                    Except.ok.injEq] at h
                  obtain ⟨htold, hmem⟩ := templatesAmong_eq_ok hamong
                  refine .inr ⟨l, hfind, htold, fun name => ?_⟩
                  rw [← h, sortNames, List.mem_mergeSort, hmem]

/-- A listed name is the rest of a name that an entry has, so that it holds no slash. -/
lemma slash_notMem_of_mem (hnamed : fs.PlainNamed) (hlist : list fs root = .ok names)
    (h : name ∈ names) : '/' ∉ name.toList := by
  rcases list_eq_ok hlist with ⟨-, rfl⟩ | ⟨l, -, -, hmem⟩
  · cases h
  · have hplain := hnamed l _ (mem_listing.mp ((hmem name).mp h).1)
    exact fun hslash => hplain.slash_notMem (by simp [hslash])

/-! ## What is listed and what is found -/

/-- Where the path of a template without slashes in its name leads to a directory, a host that has listed
the templates has told so, and the name is listed. -/
lemma told_of_isDirectory (hlist : list fs root = .ok names) (hname : '/' ∉ name.toList)
    (h : fs.isDirectory (pathOf root name) = .ok true) :
    Host.isDirectory fs (pathOf root name) = .ok true ∧ name ∈ names := by
  rw [pathOf_eq_child hname] at h ⊢
  rcases list_eq_ok hlist with ⟨hno, rfl⟩ | ⟨l, hfind, htold, hmem⟩
  · have hbelow : fs.isDirectory (root.below [marker ++ name]) = .ok true := h
    cases (Host.isDirectory_eq_ok hno).symm.trans (isDirectory_of_below hbelow)
  · obtain ⟨l', hfind'⟩ := find_of_isDirectory h
    have hlisted : marker ++ name ∈ fs.listing l :=
      mem_listing.mpr (isSome_of_find_child hfind (marker_append_ne name (by decide))
        (marker_append_ne name (by decide)) hfind')
    obtain ⟨isDir, hdir⟩ := htold _ hlisted
    obtain rfl := Except.ok.inj ((Host.isDirectory_eq_ok hdir).symm.trans h)
    exact ⟨hdir, (hmem name).mpr ⟨hlisted, hdir⟩⟩

/-- A name without slashes is listed if and only if its path leads to a directory. -/
lemma mem_iff_isDirectory (hlist : list fs root = .ok names) (hname : '/' ∉ name.toList) :
    name ∈ names ↔ Host.isDirectory fs (pathOf root name) = .ok true := by
  refine ⟨fun h => ?_, fun h => (told_of_isDirectory hlist hname (Host.isDirectory_eq_ok h)).2⟩
  rw [pathOf_eq_child hname]
  rcases list_eq_ok hlist with ⟨-, rfl⟩ | ⟨l, -, -, hmem⟩
  · cases h
  · exact ((hmem name).mp h).2

/-- Where the templates of a directory are listed, a host tells of every path of a template within the
limits that it does not refuse to look at. -/
lemma exists_isDirectory_pathOf (hlist : list fs root = .ok names) (hname : '/' ∉ name.toList)
    (hfits : Fits (pathOf root name))
    (hpermits : Host.permits .status fs (pathOf root name) = .ok ()) :
    ∃ isDir, Host.isDirectory fs (pathOf root name) = .ok isDir := by
  rw [Host.isDirectory_of_permits hpermits]
  rw [pathOf_eq_child hname] at hfits ⊢
  rcases list_eq_ok hlist with ⟨hno, -⟩ | ⟨l, hfind, htold, -⟩
  · exact ⟨false, isDirectory_below_eq_false (Host.isDirectory_eq_ok hno) hfits.1⟩
  · have htold' (n : String) (hn : n ∈ fs.listing l) :
        ∃ isDir, fs.isDirectory (root.child n) = .ok isDir :=
      (htold n hn).imp fun _ hdir => Host.isDirectory_eq_ok hdir
    exact exists_isDirectory_child hfind htold' (marker_append_ne name (by decide))
      (marker_append_ne name (by decide)) (marker_append_ne name (by decide))
      (slash_notMem_marker_append hname) hfits

/-- **Listing and lookup agree**, on every host: a name is listed if and only if it holds no slash and is
found. A name with slashes is found if and only if the template that is named before the first of them is
listed and the rest leads on from there to a directory. A name that is not found is unknown, given that the
host tells whether its path leads to a directory, as it does of a name without slashes whose path is within
the limits and is not refused. -/
theorem find_agrees_list (hnamed : w.files.PlainNamed) (hlist : list w.files root = .ok names) :
    (∀ name, name ∈ names ↔
      '/' ∉ name.toList ∧ (find root name).run w = .ok (pathOf root name) w) ∧
    (∀ first rest, '/' ∉ first.toList →
      ((find root (first ++ "/" ++ rest)).run w =
          .ok ((pathOf root first).below (Path.namesOf rest)) w ↔
        first ∈ names ∧
          Host.isDirectory w.files ((pathOf root first).below (Path.namesOf rest)) = .ok true)) ∧
    ∀ name, (find root name).run w ≠ .ok (pathOf root name) w →
      ('/' ∉ name.toList ∧ Fits (pathOf root name) ∧
          Host.permits .status w.files (pathOf root name) = .ok () ∨
        ∃ isDir, Host.isDirectory w.files (pathOf root name) = .ok isDir) →
      (find root name).run w = .error (.unknownTemplate name (pathOf root name)) w := by
  refine ⟨fun name => ⟨fun h => ?listed, fun ⟨hname, hrun⟩ => ?found⟩, fun first rest hfirst => ?slash,
    fun name hrun htold => ?unknown⟩
  case listed =>
    have hname := slash_notMem_of_mem hnamed hlist h
    exact ⟨hname, run_find_eq_ok_iff.mpr ((mem_iff_isDirectory hlist hname).mp h)⟩
  case found => exact (mem_iff_isDirectory hlist hname).mpr (run_find_eq_ok_iff.mp hrun)
  case slash =>
    rw [← pathOf_append hfirst, run_find_eq_ok_iff]
    refine ⟨fun h => ⟨?_, h⟩, And.right⟩
    have hbelow := Host.isDirectory_eq_ok h
    rw [pathOf_append hfirst] at hbelow
    exact (told_of_isDirectory hlist hfirst (isDirectory_of_below hbelow)).2
  case unknown =>
    have htold' : ∃ isDir, Host.isDirectory w.files (pathOf root name) = .ok isDir :=
      htold.elim (fun h => exists_isDirectory_pathOf hlist h.1 h.2.1 h.2.2) id
    obtain ⟨isDir, hdir⟩ := htold'
    cases isDir with
    | true => exact absurd (run_find_eq_ok_iff.mpr hdir) hrun
    | false => rw [run_find, hdir]

end Listing

/-- Files with two names like those of templates: a directory that holds another one, and a file. -/
def shelf : FileSystem where
  entries := [(["t"], .directory), (["t", "template-a"], .directory),
    (["t", "template-a", "sub"], .directory), (["t", "template-b"], .file ⟨#[]⟩)]

/-- The template of `shelf` is listed. -/
lemma list_shelf : list shelf ⟨.root, ["t"]⟩ = .ok ["a"] := by
  have hfind : shelf.find ⟨.root, ["t"]⟩ = .ok (["t"], .directory) := by decide
  have hlist : shelf.list ⟨.root, ["t"]⟩ = .ok ["template-a", "template-b"] := list_of_find hfind
  have hamong : templatesAmong shelf ⟨.root, ["t"]⟩ ["template-a", "template-b"] = .ok ["a"] := by
    decide
  simp [list, isDirectory_of_find hfind, hlist, hamong, sortNames, bind, Except.bind, pure, Except.pure]

/-- Of the two names, the first is found; the second is that of a file, and unknown. -/
theorem find_agrees_list_shelf :
    shelf.PlainNamed ∧ list shelf ⟨.root, ["t"]⟩ = .ok ["a"] ∧
      (find ⟨.root, ["t"]⟩ "a").run ⟨shelf, []⟩ =
        .ok ⟨.root, ["t", "template-a"]⟩ ⟨shelf, []⟩ ∧
      (find ⟨.root, ["t"]⟩ "b").run ⟨shelf, []⟩ =
        .error (.unknownTemplate "b" ⟨.root, ["t", "template-b"]⟩) ⟨shelf, []⟩ := by
  have hnamed : shelf.PlainNamed := plainNamed_of_entries (by decide)
  obtain ⟨hlisted, -, hunknown⟩ := find_agrees_list (w := ⟨shelf, []⟩) hnamed list_shelf
  refine ⟨hnamed, list_shelf, ((hlisted "a").mp (by decide)).2, ?_⟩
  refine hunknown "b" (fun hfound => ?_) (.inl ⟨by decide, by decide, rfl⟩)
  exact absurd ((hlisted "b").mpr ⟨by decide, hfound⟩) (by decide)

/-- What is found need not be listed: a name with a slash leads to a directory within a template. -/
theorem part_found_unlisted :
    list shelf ⟨.root, ["t"]⟩ = .ok ["a"] ∧ "a/sub" ∉ ["a"] ∧
      (find ⟨.root, ["t"]⟩ "a/sub").run ⟨shelf, []⟩ =
        .ok ⟨.root, ["t", "template-a", "sub"]⟩ ⟨shelf, []⟩ := by
  have hdir : Host.isDirectory shelf (pathOf ⟨.root, ["t"]⟩ "a/sub") = .ok true := by decide
  exact ⟨list_shelf, by decide, run_find_eq_ok_iff.mpr hdir⟩

/-- A file system with one directory, in which there is nothing. -/
def bareShelf : FileSystem where
  entries := [(["t"], .directory)]

/-- An empty directory that may be listed and not searched: no template is listed, and of a name that is
asked for, the host does not tell, so that the template is not said to be unknown either. -/
theorem unanswered_of_unsearchable :
    @list (Host.unsearchable ⟨.root, ["t"]⟩) bareShelf ⟨.root, ["t"]⟩ = .ok [] ∧
      (@find (Host.unsearchable ⟨.root, ["t"]⟩) ⟨.root, ["t"]⟩ "x").run ⟨bareShelf, []⟩ =
        .error (.unanswered (.system .permissionDenied ⟨.root, ["t", "template-x"]⟩))
          ⟨bareShelf, []⟩ := by
  let host : Host := Host.unsearchable ⟨.root, ["t"]⟩
  have hdir : @Host.isDirectory host bareShelf (pathOf ⟨.root, ["t"]⟩ "x") =
      .error (.system .permissionDenied ⟨.root, ["t", "template-x"]⟩) := by decide
  refine ⟨?_, ?_⟩
  · have hroot : @Host.isDirectory host bareShelf ⟨.root, ["t"]⟩ = .ok true := by decide
    have hlist : @Host.list host bareShelf ⟨.root, ["t"]⟩ = .ok [] := by decide
    simp [list, hroot, hlist, templatesAmong, sortNames, bind, Except.bind, pure, Except.pure]
  · rw [@run_find host, hdir]

end Tree.Catalog

end Scaffold
