import Mathlib.Tactic.Lemma
import Scaffold.Proofs.FileSystem.Relaying
import Scaffold.Proofs.Tree.Delivering
import Scaffold.Proofs.Tree.FailFast

/-!
# Rendering a tree again

* `suits_of_run_visitAll`: all visits of a rendering that has succeeded suit.
* `Made.exists_kind`: where a visit has been made, something of its kind lies in the end.
  `takes_of_made` says that all that the visits leave can then be laid down from the start.
* `renderTree_again`: a rendering that has succeeded succeeds once more, with the same answer, and
  leaves everything as it was.
-/

namespace Scaffold.Tree.Renderer

open FileSystem Work Relation

variable {r : Renderer} {fs fs' fs₁ : FileSystem} {root output p q : Path} {src out l : Location}
  {above places place : List String} {n t : String} {content : ByteArray} {v : Visit}
  {vs : List Visit} {rest forest : Forest} {e : Entry} {paths : List Path} {w w' : Workspace}
  {descend : Path → Path → Work (List Path)}

/-! ## Visits that have succeeded -/

/-- The path of an entry is within the limits of the system if it leads anywhere. -/
lemma fits_of_find_child {x : Location × Entry} (hfind : fs.find p = .ok (l, .directory))
    (hname : IsPlainName n) (h : fs.find (p.child n) = .ok x) : Fits (p.child n) := by
  refine Decidable.byContradiction fun hnot => ?_
  rw [find_child_of_not_fits hfind hname hnot] at h
  cases h

/-- The visit of an entry with an ignored name changes nothing. -/
lemma Visited.files_eq_of_ignored (hignored : n ∈ r.conventions.ignoredNames)
    (h : Visited r descend p q n w paths w') : w'.files = w.files := by
  cases h with
  | ignored _ hfiles => exact hfiles
  | directory hnot => exact absurd hignored hnot
  | file hnot => exact absurd hignored hnot

/-- The visit of a file that has succeeded suits. -/
lemma suits_of_visited_file
    (hignored : n ∉ r.conventions.ignoredNames)
    (hunder : Underway r w.files root output src out above places (.file n content rest))
    (habove : r.directoryNames? above = some places) (hplaces : ∀ n ∈ places, IsPlainName n)
    (hplain : ∀ t, r.targetName? ⟨above, n, some content⟩ = some t → IsPlainName t)
    (h : Visited r descend (root.below above) (output.below places) n w paths w') :
    ∃ place e, r.Suits root output ⟨above, n, some content⟩ place e := by
  obtain ⟨hname, hget, -⟩ := hunder.holds
  cases h with
  | ignored hyes => exact absurd hyes hignored
  | directory _ hdir =>
      cases (find_of_isDirectory_child hunder.source hname hget (by simp [Entry.kind]) hdir).1
  | @file t isTemplate _ made _ _ hfile hread hmade hwrite =>
      cases get?_of_read_child hunder.source hname hget (by simp [Entry.kind]) hread
      have ht : r.targetName? ⟨above, n, some content⟩ = some t := by
        simp [targetName?, hfile, Except.map, Except.toOption]
      obtain ⟨_, hsource⟩ := find_of_read hread
      rw [Path.join_ofString _ (hplain t ht)] at hwrite
      obtain ⟨_, _, -, -, -, -, hwritten⟩ := write_eq_ok hwrite
      have htarget := find_of_grows (grows_of_gains (adds_of_write hwrite).gained) hunder.target
      refine ⟨places ++ [t], .file made, place?_of_name habove ht rfl, ?_, ?_, ?_, ?_⟩
      · simp [product?, hmade]
      · exact List.forall_mem_append.mpr ⟨hplaces, by simpa using hplain t ht⟩
      · rw [← Path.child_below]
        exact fits_of_find_child hunder.source hname hsource
      · rw [← Path.child_below]
        exact fits_of_find_child htarget (hplain t ht) hwritten

/-- The visit of a directory that has succeeded suits, and a rendering of its entries from which all is
well has succeeded after it. -/
lemma suits_of_visited_directory {entries : Forest} {depth : Nat}
    (hignored : n ∉ r.conventions.ignoredNames)
    (hunder : Underway r w.files root output src out above places (.directory n entries rest))
    (houtside : ∀ place, ¬ src <+: out ++ place)
    (habove : r.directoryNames? above = some places) (hplaces : ∀ n ∈ places, IsPlainName n)
    (hdepth : pathLimit ≤ depth + 1 + (root.below above).names.length)
    (hplain : ∀ t, r.targetName? ⟨above, n, none⟩ = some t → IsPlainName t)
    (h : Visited r (r.renderDirectory depth) (root.below above) (output.below places) n w paths w') :
    ∃ place depth' w₁, r.Suits root output ⟨above, n, none⟩ place .directory ∧
      pathLimit ≤ depth' + 1 + (root.below (above ++ [n])).names.length ∧
      Underway r w₁.files root output src out (above ++ [n]) place entries ∧
      (visitAll (r.visit (r.renderDirectory depth') (root.below (above ++ [n])) (output.below place))
        entries.names).run w₁ = .ok paths w' := by
  obtain ⟨hname, hget, -⟩ := hunder.holds
  cases h with
  | ignored hyes => exact absurd hyes hignored
  | file _ _ hread => cases get?_of_read_child hunder.source hname hget Entry.directory_kind_ne_link hread
  | @directory t w₁ _ _ _ hdir hdirectory hmake hrun =>
      have ht : r.targetName? ⟨above, n, none⟩ = some t := by
        simp [targetName?, hdirectory, Except.toOption]
      have hplace := place?_of_name habove ht rfl
      have hlink : ∀ target, w.files.get? (out ++ places ++ [t]) ≠ some (.link target) := by
        rw [List.append_assoc]
        exact hunder.no_link _ (by simp [Forest.visits, hignored]) _ hplace
      have hsource :=
        (find_of_isDirectory_child hunder.source hname hget Entry.directory_kind_ne_link hdir).2
      have hfits := fits_of_find_child hunder.source hname hsource
      rw [Path.join_ofString _ (hplain t ht)] at hmake hrun
      rcases makeDirectories_child_cases hunder.target (hplain t ht) hlink with
        ⟨f, hf⟩ | ⟨hok, htakes, htargetFits⟩
      · rw [hf] at hmake
        cases (Prod.mk.inj hmake).1
      rw [hok] at hmake
      obtain ⟨-, henter, hnames⟩ :=
        hunder.enter houtside hignored hplace (hplain t ht) hsource htargetFits htakes
      rw [(Prod.mk.inj hmake).2] at henter hnames
      rw [Path.child_below] at hfits htargetFits
      rw [Path.child_below, Path.child_below] at hrun
      obtain ⟨depth, rfl, hdepth'⟩ := exists_depth hname hfits hdepth
      have hvisits := (ends_renderDirectory_of_find henter.source (ends_run _ _)).of_run_ok hrun
      rw [hnames] at hvisits
      refine ⟨places ++ [t], depth, w₁, ⟨hplace, rfl, ?_, hfits, htargetFits⟩, hdepth', henter, hvisits⟩
      exact List.forall_mem_append.mpr ⟨hplaces, by simpa using hplain t ht⟩

/-- The visit of a directory and of all that lies below it leaves what it is said to leave. -/
lemma ends_visit_entries {entries : Forest} {depth : Nat} (hignored : n ∉ r.conventions.ignoredNames)
    (hunder : Underway r w.files root output src out above places (.directory n entries rest))
    (houtside : ∀ place, ¬ src <+: out ++ place) (habove : r.directoryNames? above = some places)
    (hdepth : pathLimit ≤ depth + 1 + (root.below above).names.length)
    (hplain : ∀ t, r.targetName? ⟨above, n, none⟩ = some t → IsPlainName t)
    (hinner : ∀ v ∈ entries.visits r.conventions.ignoredNames (above ++ [n]), ∀ t,
      r.targetName? v = some t → IsPlainName t) :
    Ends (r.visit (r.renderDirectory depth) (root.below above) (output.below places) n) w
      (fun _ w' => Made r out w.files
        (⟨above, n, none⟩ :: entries.visits r.conventions.ignoredNames (above ++ [n])) w'.files)
      (fun _ w' => StopsIn r root output out w.files
        (⟨above, n, none⟩ :: entries.visits r.conventions.ignoredNames (above ++ [n])) w'.files) := by
  refine ends_visit_directory hignored hunder houtside habove hplain ?_
  intro w' t hplace hfits henter hnames
  rw [Path.child_below] at hfits
  obtain ⟨depth, rfl, hdepth'⟩ := exists_depth hunder.holds.1 hfits hdepth
  refine ends_renderDirectory_of_find henter.source ?_
  rw [hnames]
  exact (ends_visitAll houtside henter (directoryNames?_of_place? habove hplace) hdepth'
    hinner).mono (fun _ _ hmade => hmade) fun _ _ hstops => .inl hstops

/-- All visits of the entries of a directory suit if they have succeeded. -/
theorem suits_of_run_visitAll (houtside : ∀ place, ¬ src <+: out ++ place) {depth : Nat}
    (hunder : Underway r w.files root output src out above places forest)
    (habove : r.directoryNames? above = some places) (hplaces : ∀ n ∈ places, IsPlainName n)
    (hdepth : pathLimit ≤ depth + 1 + (root.below above).names.length)
    (hplain : ∀ v ∈ forest.visits r.conventions.ignoredNames above, ∀ t,
      r.targetName? v = some t → IsPlainName t)
    (hrun : (visitAll (r.visit (r.renderDirectory depth) (root.below above) (output.below places))
      forest.names).run w = .ok paths w') :
    ∀ v ∈ forest.visits r.conventions.ignoredNames above, ∃ place e, r.Suits root output v place e := by
  have hdescend := onlyAdds_renderDirectory r
  -- the induction goes along the entries of the directory and into those below them
  induction forest generalizing w w' paths above places depth with
  | nil => simp [Forest.visits]
  | file n content rest ih =>
      obtain ⟨first, others, w₁, hfirst, hothers, -⟩ := exists_run_of_visitAll_cons hrun
      have hvisited := (ends_visit (hdescend depth) _ _ n w).of_run_ok hfirst
      rw [Forest.visits] at hplain ⊢
      by_cases hignored : n ∈ r.conventions.ignoredNames
      · rw [if_pos hignored] at hplain ⊢
        have hunder' := hunder.rest_of_file
        rw [← hvisited.files_eq_of_ignored hignored] at hunder'
        exact ih hunder' habove hplaces hdepth hplain hothers
      · rw [if_neg hignored] at hplain ⊢
        obtain ⟨hname, hrest⟩ := List.forall_mem_cons.mp hplain
        have hmade := (ends_visit_file hignored hunder houtside habove hname).of_run_ok hfirst
        exact List.forall_mem_cons.mpr
          ⟨suits_of_visited_file hignored hunder habove hplaces hname hvisited,
            ih (hunder.rest_of_file.of_made houtside hmade) habove hplaces hdepth hrest hothers⟩
  | directory n entries rest ihEntries ihRest =>
      obtain ⟨first, others, w₁, hfirst, hothers, -⟩ := exists_run_of_visitAll_cons hrun
      have hvisited := (ends_visit (hdescend depth) _ _ n w).of_run_ok hfirst
      rw [Forest.visits] at hplain ⊢
      by_cases hignored : n ∈ r.conventions.ignoredNames
      · rw [if_pos hignored] at hplain ⊢
        have hunder' := hunder.rest_of_directory
        rw [← hvisited.files_eq_of_ignored hignored] at hunder'
        exact ihRest hunder' habove hplaces hdepth hplain hothers
      · rw [if_neg hignored] at hplain ⊢
        obtain ⟨hname, hbelow⟩ := List.forall_mem_cons.mp hplain
        obtain ⟨hinner, hrest⟩ := List.forall_mem_append.mp hbelow
        have hmade := (ends_visit_entries hignored hunder houtside habove hdepth hname
          hinner).of_run_ok hfirst
        obtain ⟨place, depth', w₂, hsuits, hdepth', hunder', hentries⟩ :=
          suits_of_visited_directory hignored hunder houtside habove hplaces hdepth hname hvisited
        refine List.forall_mem_cons.mpr ⟨⟨place, .directory, hsuits⟩, List.forall_mem_append.mpr ⟨?_, ?_⟩⟩
        · exact ihEntries hunder' (directoryNames?_of_place? habove hsuits.place_eq) hsuits.plain
            hdepth' hinner hentries
        · exact ihRest (hunder.rest_of_directory.of_made houtside hmade) habove hplaces hdepth hrest
            hothers

/-! ## What lies where visits have been made -/

/-- Visits that are made gain entries. -/
lemma Made.gains (h : Made r out fs vs fs') : ReflTransGen (Gains fun _ => True) fs fs' := by
  induction h with
  | nil => exact .refl
  | cons _ htakes _ ih => exact .head (.intro trivial htakes) ih

/-- Where a visit has been made, something of its kind lies in the end. -/
lemma Made.exists_kind (h : Made r out fs vs fs') (hv : v ∈ vs) (hplace : r.place? v = some place) :
    ∃ e, fs'.get? (out ++ place) = some e ∧ e.kind = v.kind := by
  induction h with
  | nil => cases hv
  | @cons fs fs' u us x hx htakes hmade ih =>
      rcases List.mem_cons.mp hv with rfl | hv
      · simp only [deposit?, hplace, Option.bind_eq_bind, Option.bind_some,
          Option.bind_eq_some_iff, Option.pure_def, Option.some.injEq] at hx
        obtain ⟨product, hproduct, rfl⟩ := hx
        rw [← kind_of_product? hproduct]
        exact kind_of_gains hmade.gains (get?_deposit_self (htakes.not_root _ List.mem_cons_self))
      · exact ih hv

/-- What visits leave that have been made one after the other can be laid down from the start. -/
lemma takes_of_made (h : Made r out fs vs fs') : fs.Takes (r.deposits out vs) := by
  refine takes_deposits_of_kinds (fun v hv v' hv' place hplace hplace' => ?_) ?_
  · obtain ⟨e, hget, hkind⟩ := h.exists_kind hv hplace
    obtain ⟨e', hget', hkind'⟩ := h.exists_kind hv' hplace'
    rw [← hkind, ← hkind', Option.some.inj (hget.symm.trans hget')]
  · intro v hv place e hplace hget
    obtain ⟨e₁, hget₁, hkind₁⟩ := h.exists_kind hv hplace
    obtain ⟨e₂, hget₂, hkind₂⟩ := kind_of_gains h.gains hget
    rw [← hkind₁, ← hkind₂, Option.some.inj (hget₁.symm.trans hget₂)]

/-! ## The whole tree -/

/-- All visits of a tree suit if its rendering has succeeded. -/
lemma suits_of_run_renderTree (hroot : w.files.find root = .ok (src, .directory))
    (hmade : w.files.makeDirectories true output = (.ok (), fs₁))
    (hout : fs₁.find output = .ok (out, .directory)) (hholds : fs₁.Holds src forest)
    (houtside : ∀ place, ¬ src <+: out ++ place)
    (hlinks : ∀ v ∈ r.visits forest, ∀ place, r.place? v = some place →
      ∀ target, fs₁.get? (out ++ place) ≠ some (.link target))
    (hplain : ∀ v ∈ r.visits forest, ∀ t, r.targetName? v = some t → IsPlainName t)
    (hrun : (r.renderTree root output).run w = .ok paths w') :
    ∀ v ∈ r.visits forest, ∃ place e, r.Suits root output v place e := by
  obtain ⟨made, hprepares⟩ := makeDirectories_prepares hmade
  have hsource : fs₁.find root = .ok (src, .directory) := find_of_grows hprepares.grows hroot
  have hunder : Underway r fs₁ root output src out [] [] forest :=
    ⟨by simpa using hsource, by simpa using hout, by simpa using hholds.entries, hlinks⟩
  have hdepth : pathLimit ≤ 4095 + 1 + (root.below []).names.length := by
    rw [pathLimit]
    omega
  have hrender := exists_run_of_renderTree hroot hmade hrun
  have hvisits : (visitAll (r.visit (r.renderDirectory 4095) root output) (fs₁.children src)).run
      { w with files := fs₁ } = .ok paths w' :=
    (ends_renderDirectory_of_find hsource (ends_run _ _)).of_run_ok hrender
  rw [hholds.names, ← Path.below_nil root, ← Path.below_nil output] at hvisits
  exact suits_of_run_visitAll houtside hunder rfl (by simp) hdepth hplain hvisits

/-- **Rendering a tree again changes nothing.** Let the output directory be there or be made; `fs₁` is how
the files are then. Let the tree that is found then consist of directories and files and lie neither
around the output directory nor in it, let no link lie at or below that directory, and let every name
that renders be plain. If a rendering succeeds, another one after it succeeds as well, answers with the
same list and leaves all files as they were, also when several files of the tree are taken to one place
or something has been in the output directory before. -/
theorem renderTree_again (hroot : w.files.find root = .ok (src, .directory))
    (hmade : w.files.makeDirectories true output = (.ok (), fs₁))
    (hout : fs₁.find output = .ok (out, .directory)) (hholds : fs₁.Holds src forest)
    (hinside : ¬ src <+: out) (haround : ¬ out <+: src)
    (hlinks : ∀ l target, out <+: l → fs₁.get? l ≠ some (.link target))
    (hplain : ∀ v ∈ r.visits forest, ∀ t, r.targetName? v = some t → IsPlainName t)
    (hrun : (r.renderTree root output).run w = .ok paths w') :
    ∃ w'', (r.renderTree root output).run w' = .ok paths w'' ∧ Alike w'.files w''.files := by
  obtain ⟨made, hprepares⟩ := makeDirectories_prepares hmade
  have hsource : fs₁.find root = .ok (src, .directory) := find_of_grows hprepares.grows hroot
  have houtside : ∀ place, ¬ src <+: out ++ place := fun _ => not_prefix_of_apart hinside haround
  have hnoLinks : ∀ v ∈ r.visits forest, ∀ place, r.place? v = some place →
      ∀ target, fs₁.get? (out ++ place) ≠ some (.link target) :=
    fun _ _ place _ target => hlinks _ target (List.prefix_append out place)
  -- what the first rendering has done
  have hall : Made r out fs₁ (r.visits forest) w'.files :=
    (ends_renderTree hroot hmade hout hholds houtside hplain hnoLinks).of_run_ok hrun
  have htakes := takes_of_made hall
  have hfiles := hall.eq_overlay
  have hsuits : ∀ v ∈ r.visits forest, ∃ place e, r.Suits root output v place e :=
    suits_of_run_renderTree hroot hmade hout hholds houtside hnoLinks hplain hrun
  have hvisits : ∀ v ∈ r.visits forest, ∃ place e, r.Suits root output v place e ∧
      (out ++ place, e) ∈ r.deposits out (r.visits forest) := by
    intro v hv
    obtain ⟨place, e, hv'⟩ := hsuits v hv
    exact ⟨place, e, hv', mem_deposits hv hv'.place_eq hv'.product_eq⟩
  have hapart : ∀ x ∈ r.deposits out (r.visits forest), ¬ src <+: x.1 := by
    intro x hx
    obtain ⟨v, -, place, -, -, hx⟩ := exists_visit_of_mem_deposits hx
    rw [hx]
    exact houtside place
  have hready : Ready fs₁ root output src out (r.deposits out (r.visits forest)) [] [] forest :=
    ⟨by simpa using hsource, by simpa using hout, by simpa using hholds.entries, htakes⟩
  have hready' := hready.overlay hapart fun _ hx => hx
  rw [← hfiles] at hready'
  -- both renderings answer with the paths of the same visits
  have hfirst := yields_renderTree hroot hmade
    (yields_renderDirectory_root hapart hholds hready hvisits)
  have hsecond := yields_renderTree (by simpa using hready'.source)
    (makeDirectories_of_find (by simpa using hready'.target))
    (yields_renderDirectory_root hapart (holds_of_sameBelow (hall.sameBelow houtside) hholds)
      hready' hvisits)
  obtain ⟨_, hfirst⟩ := hfirst w.events
  obtain ⟨events, hsecond⟩ := hsecond w'.events
  obtain ⟨rfl, -⟩ := EStateM.Result.ok.inj (hrun.symm.trans hfirst)
  refine ⟨_, hsecond, ?_⟩
  rw [hfiles]
  exact htakes.overlay_overlay

/-- The files of `mergedForest`, and an output directory with two older files. -/
def sharedFiles : FileSystem where
  entries := [(["t"], .directory), (["t", "a"], .file "1".toByteArray),
    (["t", "a.lte"], .file "2".toByteArray), (["o"], .directory), (["o", "a"], .file "3".toByteArray),
    (["o", "b"], .file "4".toByteArray)]

/-- The files hold the tree. -/
lemma sharedFiles_holds : sharedFiles.Holds ["t"] mergedForest :=
  ⟨children_of_perm (.refl _) (by decide), by decide, rfl, by decide, rfl, trivial⟩

/-- Two files are taken to one place, twice. The later of them is there both times, and the other file of
the output stays. -/
theorem renderTree_again_shared :
    ∃ paths w' w'', (Renderer.renderTree {} ⟨.root, ["t"]⟩ ⟨.root, ["o"]⟩).run ⟨sharedFiles, []⟩ =
        .ok paths w' ∧
      paths = [⟨.root, ["o", "a"]⟩, ⟨.root, ["o", "a"]⟩] ∧
      (Renderer.renderTree {} ⟨.root, ["t"]⟩ ⟨.root, ["o"]⟩).run w' = .ok paths w'' ∧
      w''.files.get? ["o", "a"] = some (.file "2".toByteArray) ∧
      w''.files.get? ["o", "b"] = some (.file "4".toByteArray) ∧
      w''.files.children ["o"] = w'.files.children ["o"] := by
  have hroot : sharedFiles.find ⟨.root, ["t"]⟩ = .ok (["t"], .directory) := rfl
  have hends : Ends (Renderer.renderTree {} ⟨.root, ["t"]⟩ ⟨.root, ["o"]⟩) ⟨sharedFiles, []⟩
      (fun paths w' => paths = [⟨.root, ["o", "a"]⟩, ⟨.root, ["o", "a"]⟩] ∧
        w'.files.get? ["o", "a"] = some (.file "2".toByteArray) ∧
        w'.files.get? ["o", "b"] = some (.file "4".toByteArray)) fun _ _ => False := by
    refine ends_renderTree_of_find hroot rfl (ends_renderDirectory_of_find hroot ?_)
    rw [sharedFiles_holds.names]
    decide +kernel
  obtain ⟨paths, w', hrun, hpaths, hfirst, hsecond⟩ := hends.exists_run_ok
  have hnames : ∀ v ∈ Renderer.visits {} mergedForest, ∀ t,
      Renderer.targetName? {} v = some t → IsPlainName t := by
    decide +kernel
  obtain ⟨w'', hagain, halike⟩ := renderTree_again hroot rfl rfl sharedFiles_holds (by decide)
    (by decide) (fun l target _ => get?_ne_link (by decide) l target) hnames hrun
  refine ⟨paths, w', w'', hrun, hpaths, hagain, ?_, ?_, halike.children ["o"]⟩
  · rw [halike.get?, hfirst]
  · rw [halike.get?, hsecond]

end Scaffold.Tree.Renderer
