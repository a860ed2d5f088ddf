import Mathlib.Tactic.Lemma
import Scaffold.Proofs.FileSystem.Making
import Scaffold.Proofs.Tree.Visiting

/-!
# The image of a template tree

* `holds_of_makeDirectories`: the tree is the same when the output directory has been made, unless
  the path of that directory leads through directories that are missing in the tree.
* `renderTree_image`: rendering a tree makes the image of the tree, and nothing else changes.
-/

namespace Scaffold.Tree.Renderer

open FileSystem Work

variable {r : Renderer} {fs fs₁ : FileSystem} {root output : Path} {src out l : Location}
  {forest : Forest} {vs : List Visit} {v : Visit} {place : Location} {e : Entry}
  {x : Location × Entry}

/-- The entries of a tree that a rendering visits, in order. -/
def visits (r : Renderer) (forest : Forest) : List Visit :=
  forest.visits r.conventions.ignoredNames []

/-! ## Before the first visit -/

/-- What lies below a directory that is neither in the tree nor around it does not lie in the
tree. -/
lemma not_prefix_of_apart (hinside : ¬ src <+: out) (haround : ¬ out <+: src) :
    ¬ src <+: out ++ place := by
  intro hsrc
  rcases List.prefix_or_prefix_of_prefix hsrc (List.prefix_append out place) with hin | hout
  · exact hinside hin
  · exact haround hout

/-- A tree in which nothing is made when the output directory is made is the same then. -/
lemma holds_of_makeDirectories (hmade : fs.makeDirectories true output = (.ok (), fs₁))
    (hkept : ∀ l, src <+: l → fs₁.get? l = fs.get? l) (hholds : fs.Holds src forest) :
    fs₁.Holds src forest := by
  obtain ⟨made, hprepares⟩ := makeDirectories_prepares hmade
  have houtside : ∀ x ∈ asDirectories made, ¬ src <+: x.1 := by
    intro x hx hsrc
    obtain ⟨l, hl, rfl⟩ := List.mem_map.mp hx
    have hget := hkept l hsrc
    rw [hprepares.get?_of_mem hl, hprepares.new l hl] at hget
    cases hget
  rw [hprepares.files]
  exact holds_of_sameBelow (sameBelow_overlay houtside) hholds

/-- What some visits leave comes from one of them. -/
lemma exists_visit_of_mem_deposits (h : x ∈ r.deposits out vs) :
    ∃ v ∈ vs, ∃ place, r.place? v = some place ∧ r.product? v = some x.2 ∧ x.1 = out ++ place := by
  obtain ⟨v, hv, hvx⟩ := List.mem_filterMap.mp h
  simp only [deposit?, Option.bind_eq_bind, Option.bind_eq_some_iff, Option.pure_def,
    Option.some.injEq] at hvx
  obtain ⟨place, hplace, e, he, rfl⟩ := hvx
  exact ⟨v, hv, place, hplace, he, rfl⟩

/-- A visit with a place and a product deposits it there. -/
lemma mem_deposits (hv : v ∈ vs) (hplace : r.place? v = some place) (he : r.product? v = some e) :
    (out ++ place, e) ∈ r.deposits out vs :=
  List.mem_filterMap.mpr ⟨v, hv, by simp [deposit?, hplace, he]⟩

/-- The place of a visit is below the output. -/
lemma place?_ne_nil (h : r.place? v = some place) : place ≠ [] := by
  simp only [place?, Option.bind_eq_bind, Option.bind_eq_some_iff, Option.pure_def,
    Option.some.injEq] at h
  obtain ⟨above, -, name, -, rfl⟩ := h
  simp

/-- What visits leave is taken if two visits with one place are of one kind, and everything that lies
there is of the kind that is visited. -/
lemma takes_deposits_of_kinds
    (hkinds : ∀ v ∈ vs, ∀ v' ∈ vs, ∀ place, r.place? v = some place → r.place? v' = some place →
      v.kind = v'.kind)
    (hpresent : ∀ v ∈ vs, ∀ place e, r.place? v = some place →
      fs.get? (out ++ place) = some e → e.kind = v.kind) : fs.Takes (r.deposits out vs) where
  coherent := by
    intro x hx y hy hxy
    obtain ⟨v, hv, place, hplace, he, hx⟩ := exists_visit_of_mem_deposits hx
    obtain ⟨v', hv', place', hplace', he', hy⟩ := exists_visit_of_mem_deposits hy
    obtain rfl : place = place' := List.append_cancel_left (hx.symm.trans (hxy.trans hy))
    rw [kind_of_product? he, kind_of_product? he']
    exact hkinds v hv v' hv' place hplace hplace'
  present := by
    intro x hx e hget
    obtain ⟨v, hv, place, hplace, he, hx⟩ := exists_visit_of_mem_deposits hx
    rw [hx] at hget
    rw [kind_of_product? he]
    exact hpresent v hv place e hplace hget
  no_link := by
    intro x hx
    obtain ⟨v, -, -, -, he, -⟩ := exists_visit_of_mem_deposits hx
    rw [kind_of_product? he, Visit.kind]
    cases v.content with
    | none => simp
    | some content => simp
  not_root := by
    intro x hx hroot
    obtain ⟨v, -, place, hplace, -, hx⟩ := exists_visit_of_mem_deposits hx
    exact place?_ne_nil hplace (List.append_eq_nil_iff.mp (hx.symm.trans hroot)).2

/-- What visits leave is taken if two visits with one place are the same or both of directories,
and everything that lies there is of the kind that is visited. -/
lemma takes_deposits
    (hdistinct : ∀ v ∈ vs, ∀ v' ∈ vs, r.place? v = r.place? v' →
      v = v' ∨ v.kind = .directory ∧ v'.kind = .directory)
    (hpresent : ∀ v ∈ vs, ∀ place e, r.place? v = some place →
      fs.get? (out ++ place) = some e → e.kind = v.kind) : fs.Takes (r.deposits out vs) := by
  refine takes_deposits_of_kinds (fun v hv v' hv' place hplace hplace' => ?_) hpresent
  rcases hdistinct v hv v' hv' (hplace.trans hplace'.symm) with rfl | ⟨hdir, hdir'⟩
  · rfl
  · rw [hdir, hdir']

/-- Two visits with one place leave the same if they are the same or both of directories. -/
lemma product_unique
    (hdistinct : ∀ v ∈ vs, ∀ v' ∈ vs, r.place? v = r.place? v' →
      v = v' ∨ v.kind = .directory ∧ v'.kind = .directory)
    (hv : v ∈ vs) (hplace : r.place? v = some place) (he : r.product? v = some e) :
    ∀ x ∈ r.deposits out vs, x.1 = out ++ place → x.2 = e := by
  intro x hx hloc
  obtain ⟨v', hv', place', hplace', he', hx⟩ := exists_visit_of_mem_deposits hx
  have hsame : place' = place := List.append_cancel_left (hx.symm.trans hloc)
  rcases hdistinct v hv v' hv' (by rw [hplace, hplace', hsame]) with rfl | ⟨hdir, hdir'⟩
  · rw [he] at he'
    exact (Option.some.inj he').symm
  · have hkind := (kind_of_product? he).trans hdir
    have hkind' := (kind_of_product? he').trans hdir'
    rw [Entry.kind_eq_directory_iff.mp hkind, Entry.kind_eq_directory_iff.mp hkind']

/-! ## The whole rendering -/

/-- The work on a tree that is there, once its output directory is made. -/
lemma yields_renderTree {fs' : FileSystem} {paths : List Path}
    (hroot : fs.find root = .ok (src, .directory))
    (hmade : fs.makeDirectories true output = (.ok (), fs₁))
    (hrender : (r.renderDirectory pathLimit root output).Yields fs₁ paths fs') :
    (r.renderTree root output).Yields fs paths fs' := by
  have hdir : fs.isDirectory root = .ok true := by
    rw [isDirectory_of_find hroot]
    rfl
  refine (yields_ask hdir).bind ?_
  simp only [if_true]
  exact (yields_attempt hmade).bind hrender

/-- A whole tree is rendered by laying down what its visits leave. -/
lemma yields_renderDirectory_root {xs : List (Location × Entry)}
    (houtside : ∀ x ∈ xs, ¬ src <+: x.1) (hholds : fs.Holds src forest)
    (hready : Ready fs root output src out xs [] [] forest)
    (hvisits : ∀ v ∈ r.visits forest,
      ∃ place e, r.Suits root output v place e ∧ (out ++ place, e) ∈ xs) :
    (r.renderDirectory pathLimit root output).Yields fs (r.written output (r.visits forest))
      (fs.overlay (r.deposits out (r.visits forest))) := by
  have hroot : fs.find root = .ok (src, .directory) := by
    simpa using hready.source
  have hdepth : pathLimit ≤ 4095 + 1 + (root.below []).names.length := by
    rw [pathLimit]
    omega
  have hall := yields_visitAll houtside hready rfl hdepth hvisits
  rw [Path.below_nil, Path.below_nil, ← hholds.names] at hall
  exact yields_renderDirectory hroot hall

/-- Rendering a tree of directories and files makes the image of the tree. Let the output directory
be there or be made; `fs₁` is how the files are then. Let the tree that is found then lie neither
around the output directory nor in it, let every visit suit, let two visits with one place be the
same or both of directories, and let nothing of another kind lie at any place. Then rendering
succeeds and answers with the paths of the files in the order of their visits. Every visit has left
what it is said to leave: a directory, the text that a template renders to, or the bytes of any
other file. Everything else is as before, but for new directories on the way to the output. -/
theorem renderTree_image
    (hroot : fs.find root = .ok (src, .directory))
    (hmade : fs.makeDirectories true output = (.ok (), fs₁))
    (hout : fs₁.find output = .ok (out, .directory)) (hholds : fs₁.Holds src forest)
    (hinside : ¬ src <+: out) (haround : ¬ out <+: src)
    (hsuits : ∀ v ∈ r.visits forest, ∃ place e, r.Suits root output v place e)
    (hdistinct : ∀ v ∈ r.visits forest, ∀ v' ∈ r.visits forest, r.place? v = r.place? v' →
      v = v' ∨ v.kind = .directory ∧ v'.kind = .directory)
    (hpresent : ∀ v ∈ r.visits forest, ∀ place e, r.place? v = some place →
      fs₁.get? (out ++ place) = some e → e.kind = v.kind) :
    ∃ fs', (r.renderTree root output).Yields fs (r.written output (r.visits forest)) fs' ∧
      fs'.find output = .ok (out, .directory) ∧
      (∀ v ∈ r.visits forest, ∀ place e, r.place? v = some place → r.product? v = some e →
        fs'.get? (out ++ place) = some e) ∧
      ∀ l, (∀ v ∈ r.visits forest, ∀ place, r.place? v = some place → l ≠ out ++ place) →
        fs'.get? l = fs.get? l ∨
        fs.get? l = none ∧ fs'.get? l = some .directory ∧
          ∃ q, Passes output q ∧ fs'.find q = .ok (l, .directory) := by
  obtain ⟨made, hprepares⟩ := makeDirectories_prepares hmade
  have htakes : fs₁.Takes (r.deposits out (r.visits forest)) := takes_deposits hdistinct hpresent
  have houtside : ∀ x ∈ r.deposits out (r.visits forest), ¬ src <+: x.1 := by
    intro x hx
    obtain ⟨v, -, place, -, -, hx⟩ := exists_visit_of_mem_deposits hx
    rw [hx]
    exact not_prefix_of_apart hinside haround
  have hready : Ready fs₁ root output src out (r.deposits out (r.visits forest)) [] [] forest :=
    { source := by simpa using find_of_grows hprepares.grows hroot
      target := by simpa using hout
      holds := by simpa using hholds.entries
      takes := htakes }
  have hvisits : ∀ v ∈ r.visits forest, ∃ place e, r.Suits root output v place e ∧
      (out ++ place, e) ∈ r.deposits out (r.visits forest) := by
    intro v hv
    obtain ⟨place, e, hv'⟩ := hsuits v hv
    exact ⟨place, e, hv', mem_deposits hv hv'.place_eq hv'.product_eq⟩
  have hrender := yields_renderDirectory_root houtside hholds hready hvisits
  refine ⟨_, yields_renderTree hroot hmade hrender, ?_, ?_, ?_⟩
  · exact find_of_grows (htakes.grows_overlay fun _ hy => hy) hout
  · intro v hv place e hplace he
    have hlocation : out ++ place ≠ [] := fun hnil =>
      place?_ne_nil hplace (List.append_eq_nil_iff.mp hnil).2
    exact get?_overlay_of_mem hlocation (mem_deposits hv hplace he)
      (product_unique hdistinct hv hplace he)
  · intro l hl
    have hkept : (fs₁.overlay (r.deposits out (r.visits forest))).get? l = fs₁.get? l := by
      refine get?_overlay_of_notMem fun x hx heq => ?_
      obtain ⟨v, hv, place, hplace, -, hx⟩ := exists_visit_of_mem_deposits hx
      exact hl v hv place hplace (heq.symm.trans hx)
    by_cases hnew : l ∈ made
    · obtain ⟨q, hq, hfind⟩ := hprepares.passed l hnew
      refine .inr ⟨hprepares.new l hnew, ?_, q, hq, ?_⟩
      · rw [hkept, hprepares.get?_of_mem hnew]
      · exact find_of_grows (htakes.grows_overlay fun _ hy => hy) hfind
    · exact .inl (hkept.trans (hprepares.get?_of_notMem hnew))

/-- A tree with a file to be passed over, a directory with a template in it, and a file to be copied
under another name. -/
def smallForest : Forest :=
  .file ".DS_Store" "?".toByteArray <|
  .directory "__swift_module_name__" (.file "a.lte" "\x7b% x %\x7d".toByteArray .nil) <|
  .file "_gitignore" "b".toByteArray .nil

/-- A file system that holds `smallForest`. -/
def smallFiles : FileSystem where
  entries := [(["t"], .directory), (["t", ".DS_Store"], .file "?".toByteArray),
    (["t", "__swift_module_name__"], .directory),
    (["t", "__swift_module_name__", "a.lte"], .file "\x7b% x %\x7d".toByteArray),
    (["t", "_gitignore"], .file "b".toByteArray)]

/-- The same files with an output directory. -/
def smallOutput : FileSystem :=
  smallFiles.overlay (asDirectories [["p"], ["p", "o"]])

/-- Bindings for `smallForest`, with the usual conventions. -/
def smallRenderer : Renderer :=
  { bindings := ⟨[("swift_module_name", "Shop"), ("x", "1")]⟩ }

/-- The visits of `smallForest`. -/
def smallVisits : List Visit :=
  [⟨[], "__swift_module_name__", none⟩,
    ⟨["__swift_module_name__"], "a.lte", some "\x7b% x %\x7d".toByteArray⟩,
    ⟨[], "_gitignore", some "b".toByteArray⟩]

/-- The files hold the tree. -/
lemma smallFiles_holds : smallFiles.Holds ["t"] smallForest := by
  refine ⟨children_of_perm (.refl _) (by decide), by decide, rfl, by decide, rfl, ?_⟩
  refine ⟨children_of_perm (.refl _) (by decide), ⟨by decide, rfl, trivial⟩, ?_⟩
  exact ⟨by decide, rfl, trivial⟩

/-- The places of the three entries. -/
lemma place?_smallVisits : smallVisits.map smallRenderer.place? =
    [some ["Shop"], some ["Shop", "a"], some [".gitignore"]] := by
  decide +kernel

/-- What comes to those places. -/
lemma product?_smallVisits : smallVisits.map smallRenderer.product? =
    [some .directory, some (.file "1".toByteArray), some (.file "b".toByteArray)] := by
  decide +kernel

/-- An output that is not there is made, and has all three entries then. -/
theorem renderTree_image_small :
    ∃ fs', (smallRenderer.renderTree ⟨.root, ["t"]⟩ ⟨.root, ["p", "o"]⟩).Yields smallFiles
        [⟨.root, ["p", "o", "Shop", "a"]⟩, ⟨.root, ["p", "o", ".gitignore"]⟩] fs' ∧
      fs'.get? ["p", "o", "Shop"] = some .directory ∧
      fs'.get? ["p", "o", "Shop", "a"] = some (.file "1".toByteArray) ∧
      fs'.get? ["p", "o", ".gitignore"] = some (.file "b".toByteArray) := by
  have hvisits : smallRenderer.visits smallForest = smallVisits := rfl
  have hplaces := place?_smallVisits
  have hentries := product?_smallVisits
  simp only [smallVisits, List.map_cons, List.map_nil, List.cons.injEq, and_true]
    at hplaces hentries
  obtain ⟨hplace₁, hplace₂, hplace₃⟩ := hplaces
  obtain ⟨hproduct₁, hproduct₂, hproduct₃⟩ := hentries
  have hroot : smallFiles.find ⟨.root, ["t"]⟩ = .ok (["t"], .directory) := rfl
  have hmade : smallFiles.makeDirectories true ⟨.root, ["p", "o"]⟩ = (.ok (), smallOutput) :=
    rfl
  have hholds : smallOutput.Holds ["t"] smallForest :=
    holds_of_makeDirectories hmade (sameBelow_overlay (by decide)).get? smallFiles_holds
  have hout : smallOutput.find ⟨.root, ["p", "o"]⟩ = .ok (["p", "o"], .directory) := rfl
  have hsuits : ∀ v ∈ smallRenderer.visits smallForest, ∃ place e,
      smallRenderer.Suits ⟨.root, ["t"]⟩ ⟨.root, ["p", "o"]⟩ v place e := by
    rw [hvisits, smallVisits, List.forall_mem_cons, List.forall_mem_cons,
      List.forall_mem_singleton]
    exact ⟨⟨_, _, hplace₁, hproduct₁, by decide, by decide, by decide⟩,
      ⟨_, _, hplace₂, hproduct₂, by decide, by decide, by decide⟩,
      ⟨_, _, hplace₃, hproduct₃, by decide, by decide, by decide⟩⟩
  have hdistinct : ∀ v ∈ smallRenderer.visits smallForest,
      ∀ v' ∈ smallRenderer.visits smallForest, smallRenderer.place? v = smallRenderer.place? v' →
      v = v' ∨ v.kind = .directory ∧ v'.kind = .directory := by
    simp [hvisits, smallVisits, hplace₁, hplace₂, hplace₃]
  have hpresent : ∀ v ∈ smallRenderer.visits smallForest, ∀ place e,
      smallRenderer.place? v = some place → smallOutput.get? (["p", "o"] ++ place) = some e →
      e.kind = v.kind := by
    intro v _ place e hplace hget
    have hnothing : ∀ n ns, smallOutput.get? (["p", "o"] ++ n :: ns) = none := fun _ _ => rfl
    obtain ⟨n, ns, rfl⟩ := List.exists_cons_of_ne_nil (place?_ne_nil hplace)
    rw [hnothing] at hget
    cases hget
  obtain ⟨fs', hyields, -, himage, -⟩ := renderTree_image hroot hmade hout hholds
    (by decide) (by decide) hsuits hdistinct hpresent
  rw [hvisits] at himage
  simp only [hvisits, smallVisits, written, List.filterMap_cons, List.filterMap_nil, written?,
    hplace₂, hplace₃] at hyields
  exact ⟨fs', hyields, himage _ (by simp [smallVisits]) _ _ hplace₁ hproduct₁,
    himage _ (by simp [smallVisits]) _ _ hplace₂ hproduct₂,
    himage _ (by simp [smallVisits]) _ _ hplace₃ hproduct₃⟩
end Scaffold.Tree.Renderer
