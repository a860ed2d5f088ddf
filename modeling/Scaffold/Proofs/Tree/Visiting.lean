import Mathlib.Tactic.Lemma
import Scaffold.Proofs.Tree.Forest
import Scaffold.Proofs.Tree.Working
import Scaffold.Tree.Render

/-!
# Visiting the entries of a template tree

* `Renderer.place?`, `Renderer.product?`: where a visit leaves something, seen from the output, and
  what. Both are said without a file system.
* `Suits`: a visit that can be made.
* `Ready`: what holds between two visits. `Ready.overlay` says that it goes on holding, and
  `Ready.enter` that it holds in the next directory.
* `yields_visitAll`: the entries of a directory are rendered by laying down what their visits leave.
-/

namespace Scaffold.Tree

open FileSystem Work

namespace Renderer

/-! ## What a visit leaves -/

/-- The name that a visit gives, if it renders. -/
def targetName? (r : Renderer) (v : Visit) : Option String :=
  match v.content with
  | none => (r.directoryName v.name).toOption
  | some _ => ((r.fileName v.name).map Prod.fst).toOption

/-- The names that some directories give, if they all render. -/
def directoryNames? (r : Renderer) (names : List String) : Option (List String) :=
  names.mapM fun n => (r.directoryName n).toOption

/-- The names on the way from the output to what a visit leaves, if they all render. -/
def place? (r : Renderer) (v : Visit) : Option Location := do
  let above ← r.directoryNames? v.above
  let name ← r.targetName? v
  return above ++ [name]

/-- The content of the file made from a file: that of a template is rendered, any other one is
copied. -/
def content? (r : Renderer) (name : String) (content : ByteArray) : Option ByteArray :=
  match r.fileName name with
  | .error _ => none
  | .ok (_, false) => some content
  | .ok (_, true) => do
    let template ← (Text.Utf8.decode content).toOption
    let text ← (r.renderText template).toOption
    return text.toByteArray

/-- What a visit leaves, if it can be made. -/
def product? (r : Renderer) (v : Visit) : Option Entry :=
  match v.content with
  | none => some .directory
  | some content => (r.content? v.name content).map .file

/-- What a visit leaves, with its location. -/
def deposit? (r : Renderer) (out : Location) (v : Visit) : Option (Location × Entry) := do
  let place ← r.place? v
  let product ← r.product? v
  return (out ++ place, product)

/-- What some visits leave, in their order. -/
def deposits (r : Renderer) (out : Location) (vs : List Visit) : List (Location × Entry) :=
  vs.filterMap (r.deposit? out)

/-- The path of the file that a visit writes. -/
def written? (r : Renderer) (output : Path) (v : Visit) : Option Path :=
  match v.content with
  | none => none
  | some _ => (r.place? v).map output.below

/-- The paths of the files that some visits write, in their order. -/
def written (r : Renderer) (output : Path) (vs : List Visit) : List Path :=
  vs.filterMap (r.written? output)

variable {r : Renderer} {v : Visit} {n t : String} {above places place : List String} {e : Entry}
  {content : ByteArray}

/-- A result that gives a value is that value. -/
lemma toOption_eq_some {ε α : Type} {x : Except ε α} {a : α} (h : x.toOption = some a) :
    x = .ok a := by
  cases x with
  | error e => cases h
  | ok b => rw [Option.some.inj h]

/-- The place of a directory, by the name that it renders to. -/
lemma place?_directory (habove : r.directoryNames? above = some places)
    (h : r.place? ⟨above, n, none⟩ = some place) :
    ∃ t, r.directoryName n = .ok t ∧ place = places ++ [t] := by
  simp only [place?, habove, targetName?, Option.bind_eq_bind, Option.bind_some,
    Option.bind_eq_some_iff, Option.pure_def, Option.some.injEq] at h
  obtain ⟨t, ht, rfl⟩ := h
  exact ⟨t, toOption_eq_some ht, rfl⟩

/-- The place of a file, by the name that it renders to. -/
lemma place?_file (habove : r.directoryNames? above = some places)
    (h : r.place? ⟨above, n, some content⟩ = some place) :
    ∃ t isTemplate, r.fileName n = .ok (t, isTemplate) ∧ place = places ++ [t] := by
  simp only [place?, habove, targetName?, Option.bind_eq_bind, Option.bind_some,
    Option.bind_eq_some_iff, Option.pure_def, Option.some.injEq] at h
  obtain ⟨t, ht, rfl⟩ := h
  cases hname : r.fileName n with
  | error e =>
      rw [hname] at ht
      cases ht
  | ok x =>
      obtain ⟨t', isTemplate⟩ := x
      rw [hname] at ht
      obtain rfl : t' = t := Option.some.inj ht
      exact ⟨t', isTemplate, rfl, rfl⟩

/-- A visit leaves a thing of its own kind. -/
lemma kind_of_product? (h : r.product? v = some e) : e.kind = v.kind := by
  unfold product? at h
  unfold Visit.kind
  cases hv : v.content with
  | none =>
      rw [hv] at h
      obtain rfl := Option.some.inj h
      rfl
  | some content =>
      simp only [hv, Option.map_eq_some_iff] at h
      obtain ⟨content', -, rfl⟩ := h
      rfl

/-! ## Rendering one entry -/

variable {fs fs' fs'' : FileSystem} {descend : Path → Path → Work (List Path)} {p q : Path}
  {ls lt : Location} {paths paths' : List Path}

/-- An entry with an ignored name is passed over. -/
lemma yields_visit_ignored (h : n ∈ r.conventions.ignoredNames) :
    (r.visit descend p q n).Yields fs [] fs := by
  simp only [visit, if_pos h]
  exact (yields_note _ fs).bind (yields_pure [] fs)

/-- A directory is made, and then its entries are rendered into it. -/
lemma yields_visit_directory (h : n ∉ r.conventions.ignoredNames)
    (hsource : fs.find (p.child n) = .ok (ls, .directory)) (hname : r.directoryName n = .ok t)
    (htarget : fs.Addresses q lt t)
    (hkind : ∀ e, fs.get? (lt ++ [t]) = some e → e.kind = .directory)
    (hdescend : (descend (p.child n) (q.child t)).Yields (fs.deposit (lt ++ [t], .directory))
      paths fs') :
    (r.visit descend p q n).Yields fs paths fs' := by
  have hdir : fs.isDirectory (p.child n) = .ok true := by
    rw [isDirectory_of_find hsource]
    rfl
  simp only [visit, if_neg h]
  refine (yields_ask hdir).bind ?_
  simp only [if_true]
  refine (yields_lift hname fs).bind ?_
  rw [Path.join_ofString q htarget.plain]
  exact (yields_makeDirectories htarget hkind).bind hdescend

/-- What a template file renders to is written. -/
lemma yields_renderFile {template text : String} (hsource : fs.find p = .ok (ls, .file content))
    (hdecode : Text.Utf8.decode content = .ok template) (htext : r.renderText template = .ok text)
    (htarget : fs.Addresses q lt t)
    (hkind : ∀ e, fs.get? (lt ++ [t]) = some e → e.kind = .file) :
    (r.renderFile p (q.child t)).Yields fs ()
      (fs.deposit (lt ++ [t], .file text.toByteArray)) := by
  refine (yields_readTemplate hsource hdecode).bind ?_
  exact (yields_lift htext fs).bind (yields_writeText htarget hkind text)

/-- A file is rendered or copied, as its name says. -/
lemma yields_visit_file {isTemplate : Bool} (h : n ∉ r.conventions.ignoredNames)
    (hsource : fs.find (p.child n) = .ok (ls, .file content))
    (hname : r.fileName n = .ok (t, isTemplate))
    (hproduct : r.product? ⟨above, n, some content⟩ = some e) (htarget : fs.Addresses q lt t)
    (hkind : ∀ e, fs.get? (lt ++ [t]) = some e → e.kind = .file) (hne : ls ≠ lt ++ [t]) :
    (r.visit descend p q n).Yields fs [q.child t] (fs.deposit (lt ++ [t], e)) := by
  have hdir : fs.isDirectory (p.child n) = .ok false := by
    rw [isDirectory_of_find hsource]
    rfl
  simp only [visit, if_neg h]
  refine (yields_ask hdir).bind ?_
  simp only [Bool.false_eq_true, if_false, visitFile]
  refine (yields_lift hname fs).bind ?_
  rw [Path.join_ofString q htarget.plain]
  simp only [product?, content?, hname] at hproduct
  cases isTemplate with
  | false =>
      obtain rfl := Option.some.inj hproduct
      refine (yields_note _ fs).bind ?_
      exact (yields_copy hsource htarget hkind hne).bind (yields_pure _ _)
  | true =>
      simp only [Option.bind_eq_bind, Option.pure_def, Option.map_eq_some_iff,
        Option.bind_eq_some_iff, Option.some.injEq] at hproduct
      obtain ⟨_, ⟨template, hdecode, text, htext, rfl⟩, rfl⟩ := hproduct
      refine (yields_note _ fs).bind ?_
      have hfile := yields_renderFile hsource (toOption_eq_some hdecode) (toOption_eq_some htext)
        htarget hkind
      exact hfile.bind (yields_pure _ _)

/-- The first visit is made, and then the others from where it has led. -/
lemma yields_visitAll_cons {visit : String → Work (List Path)} {ns : List String}
    (hfirst : (visit n).Yields fs paths fs') (hrest : (visitAll visit ns).Yields fs' paths' fs'') :
    (visitAll visit (n :: ns)).Yields fs (paths ++ paths') fs'' :=
  hfirst.bind (hrest.bind (yields_pure _ _))

/-! ## Rendering the entries of a directory -/

/-- A visit that can be made: all that it needs renders, every name that it gives is plain, and the
paths of the entry and of what is made from it are within the limits of the system. -/
structure Suits (r : Renderer) (root output : Path) (v : Visit) (place : Location) (e : Entry) :
    Prop where
  place_eq : r.place? v = some place
  product_eq : r.product? v = some e
  plain : ∀ n ∈ place, IsPlainName n
  sourceFits : Fits (root.below (v.above ++ [v.name]))
  targetFits : Fits (output.below place)

/-- Between two visits, a directory of the tree and the one made from it are where their paths say,
the entries that are still to be visited are untouched, and what is left to lay down is taken. -/
structure Ready (fs : FileSystem) (root output : Path) (src out : Location)
    (xs : List (Location × Entry)) (above places : List String) (forest : Forest) : Prop where
  source : fs.find (root.below above) = .ok (src ++ above, .directory)
  target : fs.find (output.below places) = .ok (out ++ places, .directory)
  holds : fs.HoldsEntries (src ++ above) forest
  takes : fs.Takes xs

variable {root output : Path} {src out : Location} {xs ys : List (Location × Entry)}
  {forest : Forest}

/-- Laying down what is taken, outside the tree, leaves everything ready. -/
lemma Ready.overlay (h : Ready fs root output src out xs above places forest)
    (houtside : ∀ x ∈ xs, ¬ src <+: x.1) (hys : ∀ y ∈ ys, y ∈ xs) :
    Ready (fs.overlay ys) root output src out xs above places forest where
  source := find_of_grows (h.takes.grows_overlay hys) h.source
  target := find_of_grows (h.takes.grows_overlay hys) h.target
  holds :=
    holdsEntries_of_sameBelow (sameBelow_overlay fun y hy => houtside y (hys y hy))
      (List.prefix_append src above) h.holds
  takes := h.takes.overlay hys

section Ready

variable (hready : Ready fs root output src out xs above places forest)
  (houtside : ∀ x ∈ xs, ¬ src <+: x.1) (hsuits : r.Suits root output v place e)
  (hmem : (out ++ place, e) ∈ xs)

include hready hsuits in
/-- The source of a visit can be asked for. -/
lemma addresses_source (hv : v.above = above) (hname : IsPlainName v.name) :
    fs.Addresses (root.below above) (src ++ above) v.name := by
  refine ⟨hready.source, hname, ?_⟩
  rw [Path.child_below, ← hv]
  exact hsuits.sourceFits

include hready hsuits in
/-- The target of a visit can be asked for. -/
lemma addresses_target (hplace : place = places ++ [t]) :
    fs.Addresses (output.below places) (out ++ places) t := by
  refine ⟨hready.target, hsuits.plain t (by simp [hplace]), ?_⟩
  rw [Path.child_below, ← hplace]
  exact hsuits.targetFits

include hready hsuits hmem in
/-- What lies at the target of a visit is of the kind of what the visit leaves. -/
lemma kind_of_target (hplace : place = places ++ [t]) {e' : Entry}
    (hget : fs.get? (out ++ places ++ [t]) = some e') : e'.kind = v.kind := by
  rw [List.append_assoc, ← hplace] at hget
  rw [← kind_of_product? hsuits.product_eq]
  exact hready.takes.present _ hmem e' hget

include houtside hmem in
/-- No visit leaves anything where an entry of the tree lies. -/
lemma source_ne_target : src ++ above ++ [n] ≠ out ++ place := by
  intro heq
  refine houtside _ hmem ?_
  rw [← heq, List.append_assoc]
  exact List.prefix_append src (above ++ [n])

end Ready

/-- The visit of a file leaves what it is said to leave. -/
lemma yields_visit_of_file
    (hready : Ready fs root output src out xs above places (.file n content forest))
    (houtside : ∀ x ∈ xs, ¬ src <+: x.1) (hignored : n ∉ r.conventions.ignoredNames)
    (habove : r.directoryNames? above = some places)
    (hsuits : r.Suits root output ⟨above, n, some content⟩ place e)
    (hmem : (out ++ place, e) ∈ xs) :
    (r.visit descend (root.below above) (output.below places) n).Yields fs [output.below place]
      (fs.deposit (out ++ place, e)) := by
  obtain ⟨hname, hget, -⟩ := hready.holds
  obtain ⟨t, isTemplate, ht, hplace⟩ := place?_file habove hsuits.place_eq
  have hsource := find_child (addresses_source hready hsuits rfl hname) hget
    (Entry.file_kind_ne_link content)
  have htarget := addresses_target hready hsuits hplace
  have hne : src ++ above ++ [n] ≠ out ++ places ++ [t] := by
    rw [List.append_assoc out, ← hplace]
    exact source_ne_target houtside hmem
  rw [hplace, ← Path.child_below, ← List.append_assoc out]
  exact yields_visit_file hignored hsource ht hsuits.product_eq htarget
    (fun e' he' => kind_of_target hready hsuits hmem hplace he') hne

/-- When the directory made from a directory is laid down, everything is ready for the entries of
that directory. -/
lemma Ready.enter {entries : Forest}
    (hready : Ready fs root output src out xs above places (.directory n entries forest))
    (houtside : ∀ x ∈ xs, ¬ src <+: x.1)
    (hsource : fs.Addresses (root.below above) (src ++ above) n)
    (htarget : fs.Addresses (output.below places) (out ++ places) t)
    (hmem : (out ++ (places ++ [t]), .directory) ∈ xs) :
    Ready (fs.deposit (out ++ (places ++ [t]), .directory)) root output src out xs (above ++ [n])
      (places ++ [t]) entries ∧
    (fs.deposit (out ++ (places ++ [t]), .directory)).children (src ++ (above ++ [n])) =
      entries.names := by
  obtain ⟨-, hget, hchildren, hentries, -⟩ := hready.holds
  have hgrows := hready.takes.grows_deposit hmem
  have hsame : SameBelow fs (fs.deposit (out ++ (places ++ [t]), .directory)) src :=
    sameBelow_deposit (houtside _ hmem)
  have hinside : src <+: src ++ (above ++ [n]) := List.prefix_append src (above ++ [n])
  have hmade : (fs.deposit (out ++ (places ++ [t]), .directory)).get? (out ++ (places ++ [t])) =
      some .directory := get?_deposit_self (hready.takes.not_root _ hmem)
  rw [← List.append_assoc out] at hmade hgrows hsame ⊢
  rw [List.append_assoc src] at hget hchildren hentries
  refine ⟨⟨?_, ?_, ?_, hready.takes.deposit ?_⟩, ?_⟩
  · rw [← Path.child_below, ← List.append_assoc]
    refine find_of_grows hgrows (find_child hsource ?_ Entry.directory_kind_ne_link)
    rwa [List.append_assoc]
  · rw [← Path.child_below, ← List.append_assoc]
    exact find_child (htarget.of_grows hgrows) hmade Entry.directory_kind_ne_link
  · exact holdsEntries_of_sameBelow hsame hinside hentries
  · rwa [List.append_assoc]
  · rw [hsame.children _ hinside, hchildren]

/-- The visit of a directory makes another one, and renders into it what lies below. -/
lemma yields_visit_of_directory {entries : Forest}
    (hready : Ready fs root output src out xs above places (.directory n entries forest))
    (houtside : ∀ x ∈ xs, ¬ src <+: x.1) (hignored : n ∉ r.conventions.ignoredNames)
    (habove : r.directoryNames? above = some places)
    (hsuits : r.Suits root output ⟨above, n, none⟩ place .directory)
    (hmem : (out ++ place, .directory) ∈ xs)
    (hdescend : Ready (fs.deposit (out ++ place, .directory)) root output src out xs
        (above ++ [n]) place entries →
      (fs.deposit (out ++ place, .directory)).children (src ++ (above ++ [n])) = entries.names →
      (descend (root.below (above ++ [n])) (output.below place)).Yields
        (fs.deposit (out ++ place, .directory)) paths fs') :
    (r.visit descend (root.below above) (output.below places) n).Yields fs paths fs' := by
  obtain ⟨hname, hget, -⟩ := hready.holds
  obtain ⟨t, ht, hplace⟩ := place?_directory habove hsuits.place_eq
  have hsource := addresses_source hready hsuits rfl hname
  have htarget := addresses_target hready hsuits hplace
  refine yields_visit_directory hignored
    (find_child hsource hget Entry.directory_kind_ne_link) ht htarget
    (fun e' he' => kind_of_target hready hsuits hmem hplace he') ?_
  rw [Path.child_below, Path.child_below, List.append_assoc out, ← hplace]
  obtain ⟨henter, hnames⟩ := hready.enter houtside hsource htarget (hplace ▸ hmem)
  rw [← hplace] at henter hnames
  exact hdescend henter hnames

/-! ## Rendering all of it -/

/-- A visit that suits leaves what it is said to leave. -/
lemma deposit?_of_suits (hsuits : r.Suits root output v place e) :
    r.deposit? out v = some (out ++ place, e) := by
  simp [deposit?, hsuits.place_eq, hsuits.product_eq]

/-- Visits that suit leave what is among the entries that are taken. -/
lemma mem_of_mem_deposits {vs : List Visit}
    (hvisits : ∀ v ∈ vs, ∃ place e, r.Suits root output v place e ∧ (out ++ place, e) ∈ xs)
    {y : Location × Entry} (hy : y ∈ r.deposits out vs) : y ∈ xs := by
  obtain ⟨v, hv, hvy⟩ := List.mem_filterMap.mp hy
  obtain ⟨place, e, hsuits, hmem⟩ := hvisits v hv
  rw [deposit?_of_suits hsuits] at hvy
  rwa [← Option.some.inj hvy]

/-- The directories above the entries of a directory give the names on the way to the one that is
made from it. -/
lemma directoryNames?_of_place? (habove : r.directoryNames? above = some places)
    (hplace : r.place? ⟨above, n, none⟩ = some place) :
    r.directoryNames? (above ++ [n]) = some place := by
  obtain ⟨t, ht, rfl⟩ := place?_directory habove hplace
  have hname : (r.directoryName n).toOption = some t := by
    rw [ht]
    rfl
  rw [directoryNames?] at habove ⊢
  simp [List.mapM_append, habove, hname]

/-- A directory that can be asked for is not too deep to be listed. -/
lemma exists_depth {depth : Nat} (hname : IsPlainName n) (hfits : Fits (root.below (above ++ [n])))
    (hdepth : pathLimit ≤ depth + 1 + (root.below above).names.length) :
    ∃ depth', depth = depth' + 1 ∧
      pathLimit ≤ depth' + 1 + (root.below (above ++ [n])).names.length := by
  have hshort := hfits.1
  have hbound : ((root.below above).child n).names.length ≤ _ :=
    Path.length_names_child_le hname.ne_empty
  have hlength : (root.below (above ++ [n])).names.length =
      (root.below above).names.length + 1 := by
    rw [← Path.child_below]
    simp [Path.child]
  rw [Path.child_below] at hbound
  exact ⟨depth - 1, by omega, by omega⟩

/-- A directory is listed, and then its entries are rendered. -/
lemma yields_renderDirectory {depth : Nat} (hfind : fs.find p = .ok (ls, .directory))
    (hvisit : (visitAll (r.visit (r.renderDirectory depth) p q) (fs.children ls)).Yields
      fs paths fs') : (r.renderDirectory (depth + 1) p q).Yields fs paths fs' :=
  (yields_ask (list_of_find hfind)).bind hvisit

/-- The entries of a directory are rendered by laying down what their visits leave. -/
theorem yields_visitAll (houtside : ∀ x ∈ xs, ¬ src <+: x.1) {depth : Nat}
    (hready : Ready fs root output src out xs above places forest)
    (habove : r.directoryNames? above = some places)
    (hdepth : pathLimit ≤ depth + 1 + (root.below above).names.length)
    (hvisits : ∀ v ∈ forest.visits r.conventions.ignoredNames above,
      ∃ place e, r.Suits root output v place e ∧ (out ++ place, e) ∈ xs) :
    (visitAll (r.visit (r.renderDirectory depth) (root.below above) (output.below places))
      forest.names).Yields fs
      (r.written output (forest.visits r.conventions.ignoredNames above))
      (fs.overlay (r.deposits out (forest.visits r.conventions.ignoredNames above))) := by
  -- the induction goes along the entries of the directory and into those below them
  induction forest generalizing fs above places depth with
  | nil => exact yields_pure [] fs
  | file n content rest ih =>
      have hrest : Ready fs root output src out xs above places rest :=
        ⟨hready.source, hready.target, hready.holds.2.2, hready.takes⟩
      rw [Forest.visits] at hvisits ⊢
      by_cases hignored : n ∈ r.conventions.ignoredNames
      · rw [if_pos hignored] at hvisits ⊢
        exact yields_visitAll_cons (yields_visit_ignored hignored) (ih hrest habove hdepth hvisits)
      · rw [if_neg hignored] at hvisits ⊢
        obtain ⟨⟨place, e, hsuits, hmem⟩, hothers⟩ := List.forall_mem_cons.mp hvisits
        have hlaid : ∀ y ∈ [(out ++ place, e)], y ∈ xs := by
          intro y hy
          rwa [List.mem_singleton.mp hy]
        have hwritten : r.written? output ⟨above, n, some content⟩ = some (output.below place) := by
          simp [written?, hsuits.place_eq]
        rw [written, deposits, List.filterMap_cons_some hwritten,
          List.filterMap_cons_some (deposit?_of_suits hsuits)]
        exact yields_visitAll_cons
          (yields_visit_of_file hready houtside hignored habove hsuits hmem)
          (ih (hrest.overlay houtside hlaid) habove hdepth hothers)
  | directory n entries rest ihEntries ihRest =>
      have hrest : Ready fs root output src out xs above places rest :=
        ⟨hready.source, hready.target, hready.holds.2.2.2.2, hready.takes⟩
      rw [Forest.visits] at hvisits ⊢
      by_cases hignored : n ∈ r.conventions.ignoredNames
      · rw [if_pos hignored] at hvisits ⊢
        exact yields_visitAll_cons (yields_visit_ignored hignored)
          (ihRest hrest habove hdepth hvisits)
      · rw [if_neg hignored] at hvisits ⊢
        obtain ⟨⟨place, e, hsuits, hmem⟩, hothers⟩ := List.forall_mem_cons.mp hvisits
        obtain ⟨hinner, hbehind⟩ := List.forall_mem_append.mp hothers
        obtain rfl : Entry.directory = e := Option.some.inj hsuits.product_eq
        have hwritten : r.written? output ⟨above, n, none⟩ = none := rfl
        rw [written, deposits, List.filterMap_cons_none hwritten,
          List.filterMap_cons_some (deposit?_of_suits hsuits), List.filterMap_append,
          List.filterMap_append, ← List.cons_append, overlay_append]
        have hlaid : ∀ y ∈ (out ++ place, Entry.directory) ::
            r.deposits out (entries.visits r.conventions.ignoredNames (above ++ [n])), y ∈ xs :=
          List.forall_mem_cons.mpr ⟨hmem, fun y hy => mem_of_mem_deposits hinner hy⟩
        have habove' := directoryNames?_of_place? habove hsuits.place_eq
        obtain ⟨depth, rfl, hdepth'⟩ := exists_depth hready.holds.1 hsuits.sourceFits hdepth
        refine yields_visitAll_cons ?_ (ihRest (hrest.overlay houtside hlaid) habove hdepth hbehind)
        refine yields_visit_of_directory hready houtside hignored habove hsuits hmem ?_
        intro henter hnames
        refine yields_renderDirectory henter.source ?_
        rw [hnames]
        exact ihEntries henter habove' hdepth' hinner

end Renderer

end Scaffold.Tree
