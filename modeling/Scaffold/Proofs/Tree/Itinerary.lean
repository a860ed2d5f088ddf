import Mathlib.Tactic.Lemma
import Scaffold.Proofs.FileSystem.Counting
import Scaffold.Proofs.Tree.Delivering
import Scaffold.Proofs.Tree.Depth
import Scaffold.Proofs.Tree.Tracking

/-!
# The entries that a rendering comes to

A directory is listed when the rendering comes to it. So what the rendering has made there by then is
listed with the rest, and the rendering comes to it as well.

* `Explores`: a part of a rendering has come to entries at and below some entries of a directory, to
  each of them once.
* `Stands`: a directory is where its path says, also if the rendering has made it.
* `Itinerary`: the entries that a rendering comes to are different entries of the tree.
* `renderTree_itinerary`: a rendering comes to each entry of the tree at most once, and to none but
  those that were there before if it makes nothing in the tree.
-/

namespace Scaffold.Tree

open FileSystem Relation Tracked

variable {r : Renderer} {root output q : Path} {src : Location} {ns names names' : List String}
  {n : String} {seen : List Path} {fs fs₁ : FileSystem} {j j₁ j' j'' : Journal} {w : Workspace}

/-! ## Entries below a directory -/

/-- A part of a rendering has only expanded the files. It has come to entries of a tree at or below
those of some names in a directory, to each of them once. What it has noted is about these, in their
order, or about entries seen before. -/
structure Explores (root : Path) (src : Location) (ns names : List String) (seen : List Path)
    (j j' : Journal) : Prop where
  expands : Expands j.workspace.files j'.workspace.files
  trail : ∃ new : List Location, j'.trail = j.trail ++ new.map root.below ∧ new.Nodup ∧
    (∀ m ∈ new, (∃ n ∈ names, ns ++ [n] <+: m) ∧ (j'.workspace.files.get? (src ++ m)).isSome) ∧
    ∃ noted, j'.workspace.events = j.workspace.events ++ noted ∧
      (noted.filterMap Event.source?).Sublist (seen ++ new.map root.below)

/-- A step that comes to no entry. -/
lemma explores_of_noted {noted : List Event}
    (hexpands : Expands j.workspace.files j'.workspace.files) (htrail : j'.trail = j.trail)
    (hnoted : j'.workspace.events = j.workspace.events ++ noted)
    (hseen : (noted.filterMap Event.source?).Sublist seen) :
    Explores root src ns names seen j j' :=
  ⟨hexpands, [], by simpa using htrail, List.nodup_nil, by simp, noted, hnoted, by simpa using hseen⟩

/-- A step that comes to no entry and notes nothing. -/
lemma explores_of_expands (hexpands : Expands j.workspace.files j'.workspace.files)
    (htrail : j'.trail = j.trail) (hevents : j'.workspace.events = j.workspace.events) :
    Explores root src ns names seen j j' :=
  explores_of_noted hexpands htrail (hevents.trans (List.append_nil _).symm) (List.nil_sublist seen)

/-- What comes before a part of a rendering, comes to no entry and notes nothing belongs to it. -/
lemma Explores.of_expands (h : Explores root src ns names [] j₁ j')
    (hexpands : Expands j.workspace.files j₁.workspace.files) (htrail : j₁.trail = j.trail)
    (hevents : j₁.workspace.events = j.workspace.events) :
    Explores root src ns names seen j j' := by
  obtain ⟨hrest, new, hnew, hnodup, hplaces, noted, hnoted, hsub⟩ := h
  refine ⟨hexpands.trans hrest, new, by rw [hnew, htrail], hnodup, hplaces, noted, ?_, ?_⟩
  · rw [hnoted, hevents]
  · exact hsub.trans (List.sublist_append_right seen _)

/-- One entry of a directory after another: what is explored below them is different. -/
lemma Explores.append (first : Explores root src ns names [] j j')
    (second : Explores root src ns names' [] j' j'') (hdisjoint : names.Disjoint names') :
    Explores root src ns (names ++ names') [] j j'' := by
  obtain ⟨hexpands, new, hnew, hnodup, hplaces, noted, hnoted, hsub⟩ := first
  obtain ⟨hexpands', new', hnew', hnodup', hplaces', noted', hnoted', hsub'⟩ := second
  refine ⟨hexpands.trans hexpands', new ++ new', ?_, ?_, ?_, noted ++ noted', ?_, ?_⟩
  · rw [hnew', hnew, List.map_append, List.append_assoc]
  · refine hnodup.append hnodup' fun m hm hm' => ?_
    obtain ⟨⟨n, hn, hbelow⟩, -⟩ := hplaces m hm
    obtain ⟨⟨n', hn', hbelow'⟩, -⟩ := hplaces' m hm'
    have hsame : ns ++ [n] = ns ++ [n'] :=
      (List.prefix_of_prefix_length_le hbelow hbelow' (by simp)).eq_of_length (by simp)
    obtain rfl : n = n' := by simpa using hsame
    exact hdisjoint hn hn'
  · intro m hm
    rcases List.mem_append.mp hm with hm | hm
    · obtain ⟨⟨n, hn, hbelow⟩, hsome⟩ := hplaces m hm
      exact ⟨⟨n, List.mem_append_left _ hn, hbelow⟩, hexpands'.isSome hsome⟩
    · obtain ⟨⟨n, hn, hbelow⟩, hsome⟩ := hplaces' m hm
      exact ⟨⟨n, List.mem_append_right _ hn, hbelow⟩, hsome⟩
  · rw [hnoted', hnoted, List.append_assoc]
  · rw [List.filterMap_append, List.map_append]
    exact hsub.append hsub'

/-- An entry is come to, and then what lies below it. -/
lemma Explores.cons
    (h : Explores root src (ns ++ [n]) names [(root.below ns).child n]
      ⟨j.workspace, j.trail ++ [(root.below ns).child n]⟩ j')
    (hsome : (j.workspace.files.get? (src ++ (ns ++ [n]))).isSome) :
    Explores root src ns [n] [] j j' := by
  obtain ⟨hexpands, new, hnew, hnodup, hplaces, noted, hnoted, hsub⟩ := h
  rw [Path.child_below] at hnew hsub
  refine ⟨hexpands, (ns ++ [n]) :: new, ?_, List.nodup_cons.mpr ⟨fun hmem => ?_, hnodup⟩, ?_,
    noted, hnoted, hsub⟩
  · rw [hnew, List.map_cons, List.append_assoc, List.singleton_append]
  · -- what lies below the entry has a longer location
    obtain ⟨⟨m, -, hbelow⟩, -⟩ := hplaces _ hmem
    simpa using hbelow.length_le
  · refine List.forall_mem_cons.mpr ⟨⟨⟨n, List.mem_singleton_self n, List.prefix_refl _⟩, ?_⟩, ?_⟩
    · exact hexpands.isSome hsome
    · intro m hm
      obtain ⟨⟨k, -, hbelow⟩, hsome'⟩ := hplaces m hm
      exact ⟨⟨n, List.mem_singleton_self n, (List.prefix_append _ [k]).trans hbelow⟩, hsome'⟩

/-! ## Visits -/

/-- A directory of the tree is where its path says, in files that have been expanded. -/
structure Stands (root : Path) (src : Location) (fs₁ : FileSystem) (ns : List String)
    (fs : FileSystem) : Prop where
  expands : Expands fs₁ fs
  found : fs.find (root.below ns) = .ok (src ++ ns, .directory)

/-- A directory that stands under its names does so in expanded files. -/
lemma Stands.of_expands {fs' : FileSystem} (h : Stands root src fs₁ ns fs)
    (hexpands : Expands fs fs') : Stands root src fs₁ ns fs' :=
  ⟨h.expands.trans hexpands, find_of_grows (grows_of_gains hexpands) h.found⟩

/-- An entry in a directory of the tree stands where its path says if that leads to a directory,
also if the rendering has made it. -/
lemma Stands.enter (h : Stands root src fs₁ ns fs) (htree : fs₁.IsTree src)
    (hsome : (fs.get? (src ++ (ns ++ [n]))).isSome)
    (hdir : fs.isDirectory ((root.below ns).child n) = .ok true) :
    Stands root src fs₁ (ns ++ [n]) fs := by
  rw [← List.append_assoc] at hsome
  obtain ⟨e, hget⟩ := Option.isSome_iff_exists.mp hsome
  have hstep : n ≠ "." ∧ n ≠ ".." := by
    rcases exists_of_gains h.expands hget with hold | ⟨d, m, hm, heq⟩
    · obtain ⟨hname, -⟩ := htree _ n e (List.prefix_append src ns) hold
      exact ⟨hname.ne_here, hname.ne_above⟩
    · obtain rfl : n = m := List.singleton_inj.mp (List.append_inj' heq rfl).2
      exact ⟨hm.1, hm.2.1⟩
  have hlink : ∀ target, fs.get? (src ++ ns ++ [n]) ≠ some (.link target) := by
    refine get?_ne_link_of_gains h.expands fun target hlink => ?_
    exact (htree _ n _ (List.prefix_append src ns) hlink).2 rfl
  obtain ⟨l, hfind⟩ := find_of_isDirectory hdir
  obtain ⟨rfl, -⟩ := eq_of_find_child h.found hstep.1 hstep.2 hlink hfind
  rw [Path.child_below, List.append_assoc] at hfind
  exact ⟨h.expands, hfind⟩

namespace Renderer

section tree

variable (htree : fs₁.IsTree src)

include htree

/-- The visit of an entry comes to that entry, and to what lies below it. -/
lemma explores_trackVisit {descend : Path → Path → Tracked (List Path)}
    (hstands : Stands root src fs₁ ns j.workspace.files)
    (hsome : (j.workspace.files.get? (src ++ (ns ++ [n]))).isSome)
    (hdescend : ∀ j' q, Stands root src fs₁ (ns ++ [n]) j'.workspace.files →
      Ends (descend ((root.below ns).child n) q) j'
        (fun _ j'' => ∃ names, Explores root src (ns ++ [n]) names [] j' j'')
        fun _ j'' => ∃ names, Explores root src (ns ++ [n]) names [] j' j'') :
    Ends (r.trackVisit descend (root.below ns) q n) j
      (fun _ j' => Explores root src ns [n] [] j j')
      fun _ j' => Explores root src ns [n] [] j j' := by
  unfold trackVisit
  refine Ends.bind (ends_come ?_)
  -- what follows comes only to what lies below the entry, but may note something about the entry
  refine Ends.mono (?_ : Ends _ _
      (fun _ j' => ∃ names, Explores root src (ns ++ [n]) names [(root.below ns).child n] _ j')
      fun _ j' => ∃ names, Explores root src (ns ++ [n]) names [(root.below ns).child n] _ j')
    (fun _ _ ⟨_, h⟩ => h.cons hsome) fun _ _ ⟨_, h⟩ => h.cons hsome
  have hnothing : ∀ {j j' : Journal}, Expands j.workspace.files j'.workspace.files →
      j'.trail = j.trail → j'.workspace.events = j.workspace.events →
      ∃ names, Explores root src (ns ++ [n]) names [(root.below ns).child n] j j' :=
    fun hexpands htrail hevents => ⟨[], explores_of_expands hexpands htrail hevents⟩
  have hone : ∀ {j j' : Journal} {event : Event}, Expands j.workspace.files j'.workspace.files →
      j'.trail = j.trail → event.source? = some ((root.below ns).child n) →
      j'.workspace.events = j.workspace.events ++ [event] →
      ∃ names, Explores root src (ns ++ [n]) names [(root.below ns).child n] j j' :=
    fun hexpands htrail hsource hevents =>
      ⟨[], explores_of_noted hexpands htrail hevents (by simp [hsource])⟩
  by_cases hignored : n ∈ r.conventions.ignoredNames
  · simp only [if_pos hignored]
    exact Ends.bind (ends_lift (Work.ends_note (ends_pure (hone .refl rfl rfl rfl))))
  simp only [if_neg hignored]
  refine Ends.bind (ends_lift (Work.ends_ask (fun isDir hdir => ?_) fun _ _ =>
    hnothing .refl rfl rfl))
  cases isDir with
  | false =>
      refine ends_lift (((ends_visitFile r _ q n _).and (events_visitFile r _ q n _)).mono ?_ ?_)
      · rintro _ w' ⟨⟨t, isTemplate, content, made, -, -, -, hwrite, -⟩, event, target, hsource, -,
          hevents, -⟩
        exact hone (adds_of_write hwrite).expands rfl hsource hevents
      · rintro _ w' ⟨hfiles, hevents | ⟨event, hsource, hevents⟩⟩
        · exact hnothing (by rw [hfiles]; exact .refl) rfl hevents
        · exact hone (by rw [hfiles]; exact .refl) rfl hsource hevents
  | true =>
      refine Ends.bind (ends_lift (Work.ends_lift (fun t _ => ?_) fun _ _ =>
        hnothing .refl rfl rfl))
      refine Ends.bind (ends_lift (Work.ends_makeDirectories_ample (fun fs' hmake => ?_)
        fun f fs' hmake => ?_))
      · have hmade := (adds_of_makeDirectories hmake).expands
        have henter := (hstands.enter htree hsome hdir).of_expands hmade
        exact (hdescend _ _ henter).mono (fun _ _ ⟨names, h⟩ => ⟨names, h.of_expands hmade rfl rfl⟩)
          fun _ _ ⟨names, h⟩ => ⟨names, h.of_expands hmade rfl rfl⟩
      · exact hnothing (adds_of_makeDirectories hmake).expands rfl rfl

omit htree in
/-- The entries of a directory are come to one after the other. -/
lemma explores_trackAll {visit : String → Tracked (List Path)} (hnodup : names.Nodup)
    (hstands : Stands root src fs₁ ns j.workspace.files)
    (hsome : ∀ n ∈ names, (j.workspace.files.get? (src ++ (ns ++ [n]))).isSome)
    (hvisit : ∀ n j, Stands root src fs₁ ns j.workspace.files →
      (j.workspace.files.get? (src ++ (ns ++ [n]))).isSome →
      Ends (visit n) j (fun _ j' => Explores root src ns [n] [] j j')
        fun _ j' => Explores root src ns [n] [] j j') :
    Ends (trackAll visit names) j (fun _ j' => Explores root src ns names [] j j')
      fun _ j' => Explores root src ns names [] j j' := by
  induction names generalizing j with
  | nil => exact ends_pure (explores_of_expands .refl rfl rfl)
  | cons n names ih =>
      obtain ⟨hfresh, hrest⟩ := List.nodup_cons.mp hnodup
      obtain ⟨hfirst, hothers⟩ := List.forall_mem_cons.mp hsome
      have hdisjoint : [n].Disjoint names := List.singleton_disjoint.mpr hfresh
      refine Ends.bind ((hvisit n j hstands hfirst).mono (fun first j₁ h => ?_) fun _ j₁ h => ?_)
      · have hall := ih hrest (hstands.of_expands h.expands)
          fun m hm => h.expands.isSome (hothers m hm)
        refine Ends.bind (hall.mono (fun rest j₂ h' => ends_pure ?_) fun _ j₂ h' => ?_)
        · exact h.append h' hdisjoint
        · exact h.append h' hdisjoint
      · exact h.append (explores_of_expands .refl rfl rfl) hdisjoint

/-- Rendering a directory comes to what lies below it, to each entry once. -/
theorem explores_trackDirectory (hkeyed : fs₁.Keyed) (depth : Nat)
    (hstands : Stands root src fs₁ ns j.workspace.files) :
    Ends (r.trackDirectory depth (root.below ns) q) j
      (fun _ j' => ∃ names, Explores root src ns names [] j j')
      fun _ j' => ∃ names, Explores root src ns names [] j j' := by
  -- the directories below the one that is rendered are rendered to a smaller depth
  induction depth generalizing ns q j with
  | zero => exact ends_throw ⟨[], explores_of_expands .refl rfl rfl⟩
  | succ depth ih =>
      refine Ends.bind (ends_lift (Work.ends_ask (fun names hlist => ?_) fun _ _ => ?_))
      · obtain rfl := Except.ok.inj ((list_of_find hstands.found).symm.trans hlist)
        have hnodup := (hkeyed.of_gains hstands.expands).nodup_children (src ++ ns)
        refine (explores_trackAll hnodup hstands (fun n hn => ?_) fun n j' hstands' hsome => ?_).mono
          (fun _ _ h => ⟨_, h⟩) fun _ _ h => ⟨_, h⟩
        · rw [← List.append_assoc]
          exact mem_children.mp hn
        · refine explores_trackVisit htree hstands' hsome fun j'' q' henter => ?_
          rw [Path.child_below]
          exact ih henter
      · exact ⟨[], explores_of_expands .refl rfl rfl⟩

end tree

end Renderer

/-! ## Whole trees -/

/-- Some paths are those of different entries below the root of a tree, and there are no more of them
than there are entries. -/
structure Itinerary (root : Path) (src : Location) (fs : FileSystem) (trail : List Path) : Prop where
  once : trail.Nodup
  within : ∀ p ∈ trail, ∃ ns, ns ≠ [] ∧ p = root.below ns ∧ (fs.get? (src ++ ns)).isSome
  bounded : trail.length ≤ (fs.below src).length

/-- What a rendering has come to are entries of the tree as it is then. They were there before, unless
the rendering has made something in the tree. Whatever has been noted of entries is about these, in
their order. -/
structure Toured (root : Path) (src : Location) (w : Workspace) (j : Journal) : Prop where
  present : Itinerary root src j.workspace.files j.trail
  before : (∀ l, src <+: l → w.files.get? l = none → j.workspace.files.get? l = none) →
    Itinerary root src w.files j.trail
  noted : ∃ noted, j.workspace.events = w.events ++ noted ∧
    (noted.filterMap Event.source?).Sublist j.trail

/-- What has been explored from the root of a tree is an itinerary in every file system where the entries
in question are. -/
lemma Explores.itinerary (h : Explores root src [] names [] ⟨w, []⟩ j)
    (hplaces : ∀ ns, (j.workspace.files.get? (src ++ ns)).isSome → (fs.get? (src ++ ns)).isSome) :
    Itinerary root src fs j.trail := by
  obtain ⟨-, new, htrail, hnodup, hnew, -⟩ := h
  have hbelow : ∀ ns ∈ new, ns ≠ [] ∧ (fs.get? (src ++ ns)).isSome := by
    intro ns hns
    obtain ⟨⟨n, -, hprefix⟩, hsome⟩ := hnew ns hns
    refine ⟨?_, hplaces ns hsome⟩
    rintro rfl
    simpa using hprefix.length_le
  rw [List.nil_append] at htrail
  rw [htrail]
  refine ⟨hnodup.map fun ns ns' heq => ?_, fun p hp => ?_, ?_⟩
  · exact List.append_cancel_left (congrArg Path.names heq)
  · obtain ⟨ns, hns, rfl⟩ := List.mem_map.mp hp
    exact ⟨ns, (hbelow ns hns).1, rfl, (hbelow ns hns).2⟩
  · rw [List.length_map]
    exact length_le_below hnodup hbelow

/-- What is explored from the root is a tour of the tree. -/
lemma Explores.toured (h : Explores root src [] names [] ⟨w, []⟩ j) : Toured root src w j where
  present := h.itinerary fun _ hsome => hsome
  before hnew := h.itinerary fun ns hsome => by
    cases hget : w.files.get? (src ++ ns) with
    | some e => rfl
    | none =>
        rw [hnew _ (List.prefix_append src ns) hget] at hsome
        cases hsome
  noted := by
    obtain ⟨-, new, htrail, -, -, noted, hnoted, hsub⟩ := h
    refine ⟨noted, hnoted, ?_⟩
    rw [htrail]
    exact hsub

namespace Renderer

/-- Rendering a tree comes to what lies below its root, to each entry once. -/
lemma explores_trackTree (r : Renderer) (output : Path)
    (hroot : w.files.find root = .ok (src, .directory))
    (htree : ∀ fs₁, w.files.makeDirectories true output = (.ok (), fs₁) → fs₁.IsTree src)
    (hkeyed : w.files.Keyed) :
    Ends (r.trackTree root output) ⟨w, []⟩
      (fun _ j => ∃ names, Explores root src [] names [] ⟨w, []⟩ j)
      fun _ j => ∃ names, Explores root src [] names [] ⟨w, []⟩ j := by
  have hnothing : ∀ {j : Journal}, Expands w.files j.workspace.files → j.trail = [] →
      j.workspace.events = w.events → ∃ names, Explores root src [] names [] ⟨w, []⟩ j :=
    fun hexpands htrail hevents => ⟨[], explores_of_expands hexpands htrail hevents⟩
  unfold trackTree
  refine Ends.bind (ends_lift (Work.ends_ask (fun isDir _ => ?_) fun _ _ =>
    hnothing .refl rfl rfl))
  cases isDir with
  | false => exact Ends.bind (ends_throw (hnothing .refl rfl rfl))
  | true =>
      refine Ends.bind (ends_lift (Work.ends_makeDirectories_ample (fun fs₁ hmake => ?_)
        fun f fs₁ hmake => ?_))
      · have hmade := (adds_of_makeDirectories hmake).expands
        have hstands : Stands root src fs₁ [] fs₁ := by
          refine ⟨.refl, ?_⟩
          rw [Path.below_nil, List.append_nil]
          exact find_of_grows (grows_of_gains hmade) hroot
        have hall := explores_trackDirectory (r := r) (q := output) (htree fs₁ hmake)
          (hkeyed.of_gains hmade) pathLimit (j := ⟨{ w with files := fs₁ }, []⟩) hstands
        rw [Path.below_nil] at hall
        exact hall.mono (fun _ _ ⟨names, h⟩ => ⟨names, h.of_expands hmade rfl rfl⟩)
          fun _ _ ⟨names, h⟩ => ⟨names, h.of_expands hmade rfl rfl⟩
      · exact hnothing (adds_of_makeDirectories hmake).expands rfl rfl

/-- A rendering into an output apart from the tree leaves the tree as it was. -/
lemma ends_trackTree_of_confined {out : Location}
    (hroot : w.files.find root = .ok (src, .directory))
    (hmade : w.files.makeDirectories true output = (.ok (), fs₁)) (houtput : output.Proper)
    (hconfined : r.Confined fs₁ src out output) (hinside : ¬ src <+: out)
    (haround : ¬ out <+: src) :
    Ends (r.trackTree root output) ⟨w, []⟩
      (fun _ j => ∀ l, src <+: l → j.workspace.files.get? l = fs₁.get? l)
      fun _ j => ∀ l, src <+: l → j.workspace.files.get? l = fs₁.get? l := by
  obtain ⟨made, hprepares⟩ := makeDirectories_prepares hmade
  have hreached : r.Reached fs₁ src out output { w with files := fs₁ } root output src :=
    ⟨.refl, find_of_grows hprepares.grows hroot, .root⟩
  have hrender := ends_renderTree_of_find hroot hmade
    (onlyProceeds_renderDirectory hconfined houtput pathLimit hreached)
  refine (erases_trackTree r root output ⟨w, []⟩).mono (fun _ j hrun l hl => ?_)
    fun _ j hrun l hl => ?_
  · exact get?_of_proceeds (hrender.of_run_ok hrun) hinside haround hl
  · exact get?_of_proceeds (hrender.of_run_error hrun) hinside haround hl

/-- **The entries that a rendering comes to.** Let a rendering of a tree of directories and files keep a
journal of the entries that it comes to; otherwise it is the same rendering. Whether it succeeds or not,
it comes to entries of the tree only, to each at most once, and so to no more than there are in the tree
in the end; what it notes of entries is about these. It comes to none but those that were there before,
and to no more than these, if it has made nothing in the tree, which is so if its destinations stay in an
output apart from the tree. And the depth to which it goes is no limit of its own. -/
theorem renderTree_itinerary (r : Renderer) (output : Path)
    (hroot : w.files.find root = .ok (src, .directory))
    (htree : ∀ fs₁, w.files.makeDirectories true output = (.ok (), fs₁) → fs₁.IsTree src)
    (hkeyed : w.files.Keyed) :
    (r.trackTree root output).Erases (r.renderTree root output) ∧
    Ends (r.trackTree root output) ⟨w, []⟩ (fun _ j => Toured root src w j)
      (fun _ j => Toured root src w j) ∧
    ∀ fs₁, w.files.makeDirectories true output = (.ok (), fs₁) →
      (∀ out, (∀ l, src <+: l → fs₁.get? l = w.files.get? l) → output.Proper →
        r.Confined fs₁ src out output → ¬ src <+: out → ¬ out <+: src →
        Ends (r.trackTree root output) ⟨w, []⟩ (fun _ j => Itinerary root src w.files j.trail)
          fun _ j => Itinerary root src w.files j.trail) ∧
      ∀ k, (r.renderDirectory (pathLimit + k) root output).run { w with files := fs₁ } =
        (r.renderDirectory pathLimit root output).run { w with files := fs₁ } := by
  have hexplores := explores_trackTree r output hroot htree hkeyed
  have htoured := hexplores.mono (fun _ _ ⟨_, h⟩ => h.toured) fun _ _ ⟨_, h⟩ => h.toured
  refine ⟨erases_trackTree r root output, htoured, fun fs₁ hmade => ⟨?_, fun k => ?_⟩⟩
  · intro out hkept houtput hconfined hinside haround
    have hsame := ends_trackTree_of_confined hroot hmade houtput hconfined hinside haround
    refine (htoured.and hsame).mono (fun _ j ⟨h, hfiles⟩ => h.before fun l hl hnone => ?_)
      fun _ j ⟨h, hfiles⟩ => h.before fun l hl hnone => ?_
    · rw [hfiles l hl, hkept l hl, hnone]
    · rw [hfiles l hl, hkept l hl, hnone]
  · obtain ⟨made, hprepares⟩ := makeDirectories_prepares hmade
    refine renderDirectory_deeper (find_of_grows hprepares.grows hroot) (fun n hn => ?_) k
    obtain ⟨e, hget⟩ := Option.isSome_iff_exists.mp (mem_children.mp hn)
    exact (htree fs₁ hmade src n e (List.prefix_refl src) hget).1.ne_empty

/-- The directory and its file are come to, in this order, though the names that they render to lead down
and up. -/
theorem renderTree_itinerary_winding :
    ∃ paths j, (windingRenderer.trackTree ⟨.root, ["t"]⟩ ⟨.root, ["o"]⟩).run ⟨⟨windingFiles, []⟩, []⟩ =
        .ok paths j ∧
      j.trail = [⟨.root, ["t", "\x7b% d %\x7d"]⟩,
        ⟨.root, ["t", "\x7b% d %\x7d", "\x7b% u %\x7d"]⟩] ∧
      Itinerary ⟨.root, ["t"]⟩ ["t"] windingFiles j.trail := by
  have hends : Ends (windingRenderer.trackTree ⟨.root, ["t"]⟩ ⟨.root, ["o"]⟩)
      ⟨⟨windingFiles, []⟩, []⟩
      (fun _ j => j.trail = [⟨.root, ["t", "\x7b% d %\x7d"]⟩,
        ⟨.root, ["t", "\x7b% d %\x7d", "\x7b% u %\x7d"]⟩]) fun _ _ => False := by decide +kernel
  obtain ⟨paths, j, hrun, htrail⟩ := hends.exists_run_ok
  have hroot : windingFiles.find ⟨.root, ["t"]⟩ = .ok (["t"], .directory) := rfl
  have hmade : windingFiles.makeDirectories true ⟨.root, ["o"]⟩ = (.ok (), windingFiles) := rfl
  have htree : ∀ fs₁, windingFiles.makeDirectories true ⟨.root, ["o"]⟩ = (.ok (), fs₁) →
      fs₁.IsTree ["t"] := by
    intro fs₁ hmake
    obtain rfl : windingFiles = fs₁ := (Prod.mk.inj (hmade.symm.trans hmake)).2
    exact windingFiles_confined.tree
  obtain ⟨-, -, hall⟩ := renderTree_itinerary (w := ⟨windingFiles, []⟩) windingRenderer ⟨.root, ["o"]⟩
    hroot htree (by decide)
  have hbefore := (hall windingFiles hmade).1 ["o"] (fun _ _ => rfl) (by decide)
    windingFiles_confined (by decide) (by decide)
  exact ⟨paths, j, hrun, htrail, hbefore.of_run_ok hrun⟩

/-- An empty tree. -/
def emptyTree : FileSystem where
  entries := [(["t"], .directory)]

/-- A rendering into a directory that it makes in the tree comes to that directory, which was not there
before, and so takes a step although there was nothing in the tree. -/
theorem comes_to_output_in_tree :
    emptyTree.find ⟨.root, ["t"]⟩ = .ok (["t"], .directory) ∧ emptyTree.IsTree ["t"] ∧
      emptyTree.Keyed ∧
      ∃ problem j, (Renderer.renderTree {} ⟨.root, ["t"]⟩ ⟨.root, ["t", "\x7b% x %\x7d"]⟩).run
            ⟨emptyTree, []⟩ = .error problem j.workspace ∧
        (Renderer.trackTree {} ⟨.root, ["t"]⟩ ⟨.root, ["t", "\x7b% x %\x7d"]⟩).run
            ⟨⟨emptyTree, []⟩, []⟩ = .error problem j ∧
        j.trail = [⟨.root, ["t", "\x7b% x %\x7d"]⟩] ∧
        emptyTree.get? ["t", "\x7b% x %\x7d"] = none ∧ (emptyTree.below ["t"]).length = 0 := by
  have hends : Ends (Renderer.trackTree {} ⟨.root, ["t"]⟩ ⟨.root, ["t", "\x7b% x %\x7d"]⟩)
      ⟨⟨emptyTree, []⟩, []⟩ (fun _ _ => False)
      fun _ j => j.trail = [⟨.root, ["t", "\x7b% x %\x7d"]⟩] := by decide +kernel
  obtain ⟨problem, j, hrun, htrail⟩ := hends.exists_run_error
  have hrender := (erases_trackTree _ _ _ _).of_run_error hrun
  have hnothing : (emptyTree.below ["t"]).length = 0 := by
    simp [below, emptyTree]
  exact ⟨rfl, (plainNames_of_entries (r := {}) (by decide)).tree, by decide, problem, j,
    hrender, hrun, htrail, rfl, hnothing⟩

end Renderer

end Scaffold.Tree
