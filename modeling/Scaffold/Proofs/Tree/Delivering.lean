import Mathlib.Tactic.Lemma
import Scaffold.Proofs.Tree.Adding
import Scaffold.Proofs.Tree.Noting

/-!
# Where the files of a tree end up

A rendering takes every file of the tree to the path that the names on its way render to. Nothing keeps
it from taking two files to one place; then the later one is what is found there.

* `Path.follow`: the path that goes on from another one through some rendered names.
* `delivery?`: the path to which a visit takes a file, and what it writes there.
* `SamePlace`, `Lasts`: two paths lead to one location; what is written at a path is there unless a later
  path leads to the same place.
* `Spares`: nothing has been made or overwritten in the tree itself. `spares_of_confined` says when.
* `Delivers`, `Serves`: the files of some visits have been delivered; they are when some entries are
  visited. `serves_names` says that this is so of every directory of the tree.
* `renderTree_delivers`: a rendering that spares the tree delivers every file, and every delivery lasts
  that no later one is in the place of.
-/

namespace Scaffold

/-- The path that goes on from another one through some rendered names, each of which may be any
path. -/
def Path.follow (p : Path) (names : List String) : Path :=
  names.foldl (fun q t => q.join (.ofString t)) p

@[simp] lemma Path.follow_append (p : Path) (names : List String) (t : String) :
    p.follow (names ++ [t]) = (p.follow names).join (.ofString t) := by
  simp [follow]

namespace Tree.Renderer

open FileSystem Relation Work

variable {r : Renderer} {fs fs' fs'' : FileSystem} {root output p q : Path}
  {paths paths' : List Path} {src l : Location} {e : Entry} {forest : Forest}
  {above places names : List String} {n t : String} {content made : ByteArray}
  {ds ds' : List (Path × ByteArray)} {w w' : Workspace}

/-! ## Deliveries -/

/-- The path to which a visit takes a file, and what it writes there; nothing for a directory. -/
def delivery? (r : Renderer) (output : Path) (v : Visit) : Option (Path × ByteArray) := do
  let content ← v.content
  let place ← r.place? v
  let made ← r.content? v.name content
  return (output.follow place, made)

/-- The paths to which some visits take files, with what they write there, in order. -/
def deliveries (r : Renderer) (output : Path) (vs : List Visit) : List (Path × ByteArray) :=
  vs.filterMap (r.delivery? output)

/-- Two paths lead to one location. -/
def SamePlace (fs : FileSystem) (p q : Path) : Prop :=
  ∃ l e e', fs.find p = .ok (l, e) ∧ fs.find q = .ok (l, e')

/-- Paths that lead to two locations are not to one place. -/
lemma not_samePlace {e e' : Entry} {m : Location} (hp : fs.find p = .ok (l, e))
    (hq : fs.find q = .ok (m, e')) (hne : l ≠ m) : ¬ SamePlace fs p q := by
  rintro ⟨_, _, _, hp', hq'⟩
  exact hne ((eq_of_find hp hp').trans (eq_of_find hq hq').symm)

/-- What is written at a path is there, unless a later path leads to the same place. -/
def Lasts (fs : FileSystem) (ds : List (Path × ByteArray)) : Prop :=
  ∀ before d after, ds = before ++ d :: after → (∀ d' ∈ after, ¬ SamePlace fs d.1 d'.1) →
    fs.read d.1 = .ok d.2

/-- A file stays as it is when paths are written that do not lead to it. -/
lemma read_of_adds (h : Adds fs paths fs') (hfind : fs.find p = .ok (l, .file content))
    (hother : ∀ q ∈ paths, ¬ SamePlace fs' p q) : fs'.read p = .ok content := by
  have hget := get?_of_find hfind (by simp)
  obtain ⟨content', hfind'⟩ := h.expands.find_file hfind
  have hsame : fs'.get? l = fs.get? l := by
    refine get?_of_gains h.gained ?_
    rintro x ⟨-, ⟨-, hnone⟩ | ⟨q, hq, c, hq'⟩⟩ rfl
    · rw [hnone] at hget
      cases hget
    · exact hother q hq ⟨_, _, _, hfind', hq'⟩
  rw [hget] at hsame
  exact read_of_find (find_file_of_grows (grows_of_gains h.gained) hfind hsame)

/-- Two paths to one file lead to one file still. -/
lemma SamePlace.of_expands (h : SamePlace fs p q) (hexpands : Expands fs fs')
    (hp : fs.find p = .ok (l, .file content)) {l' : Location} {content' : ByteArray}
    (hq : fs.find q = .ok (l', .file content')) : SamePlace fs' p q := by
  obtain ⟨m, e, e', hp', hq'⟩ := h
  obtain rfl := eq_of_find hp hp'
  obtain rfl := eq_of_find hq hq'
  obtain ⟨_, hfirst⟩ := hexpands.find_file hp
  obtain ⟨_, hsecond⟩ := hexpands.find_file hq
  exact ⟨_, _, _, hfirst, hsecond⟩

/-- What a part of a rendering has written lasts, also when there is another part after it. -/
lemma Lasts.append (hds : Lasts fs' ds) (hds' : Lasts fs'' ds')
    (hfiles : ∀ d ∈ ds, ∃ l content, fs'.find d.1 = .ok (l, .file content))
    (hadds : Adds fs' (ds'.map Prod.fst) fs'') : Lasts fs'' (ds ++ ds') := by
  intro before d after hsplit hother
  rcases List.append_eq_append_iff.mp hsplit with ⟨more, rfl, hlater⟩ | ⟨more, hearlier, hrest⟩
  · exact hds' more d after hlater hother
  · cases more with
    | nil => exact hds' [] d after (by simpa using hrest.symm) hother
    | cons first more =>
        obtain ⟨rfl, rfl⟩ := List.cons.inj hrest
        have hmem : ∀ d' ∈ d :: more, d' ∈ ds := by
          intro d' hd'
          rw [hearlier]
          exact List.mem_append_right before hd'
        obtain ⟨l, content, hfind⟩ := hfiles d (hmem d List.mem_cons_self)
        have hread : fs'.read d.1 = .ok d.2 := by
          refine hds before d more hearlier fun d' hd' hsame => ?_
          obtain ⟨l', content', hfind'⟩ := hfiles d' (hmem d' (List.mem_cons_of_mem d hd'))
          exact hother d' (List.mem_append_left _ hd')
            (hsame.of_expands hadds.expands hfind hfind')
        rw [read_of_find hfind, Except.ok.injEq] at hread
        subst hread
        refine read_of_adds hadds hfind fun q hq => ?_
        obtain ⟨d', hd', rfl⟩ := List.mem_map.mp hq
        exact hother d' (List.mem_append_right _ hd')

/-! ## The tree itself -/

/-- Nothing has been made in a tree, and none of some paths leads into it. -/
structure Spares (src : Location) (fs : FileSystem) (paths : List Path) (fs' : FileSystem) :
    Prop where
  new : ∀ l, src <+: l → fs.get? l = none → fs'.get? l = none
  apart : ∀ p ∈ paths, ∀ l e, fs'.find p = .ok (l, e) → ¬ src <+: l

/-- Entries that are gained elsewhere change nothing at or below a location. -/
lemma sameBelow_of_gains {S : Location × Entry → Prop} (h : ReflTransGen (Gains S) fs fs')
    (hS : ∀ x, S x → ¬ src <+: x.1) : SameBelow fs fs' src := by
  induction h with
  | refl => exact ⟨fun _ _ => rfl, fun _ _ => rfl⟩
  | @tail mid _ _ hgains ih =>
      obtain ⟨x, hx, -, rfl⟩ := hgains
      have hlast : SameBelow mid (mid.deposit x) src := sameBelow_deposit (hS x hx)
      exact ⟨fun l hl => (hlast.get? l hl).trans (ih.get? l hl),
        fun l hl => (hlast.children l hl).trans (ih.children l hl)⟩

/-- A rendering that spares the tree leaves it as it was. -/
lemma Spares.sameBelow (h : Spares src fs paths fs') (hadds : Adds fs paths fs') :
    SameBelow fs fs' src := by
  refine sameBelow_of_gains (gains_isSome hadds.gained) ?_
  rintro x ⟨⟨-, ⟨-, hnone⟩ | ⟨p, hp, c, hfind⟩⟩, hsome⟩ hsrc
  · rw [h.new _ hsrc hnone] at hsome
    cases hsome
  · exact h.apart p hp _ _ hfind hsrc

/-- If a rendering of two parts spares the tree, so does the first part. -/
lemma Spares.left (h : Spares src fs (paths ++ paths') fs'') (first : Adds fs paths fs')
    (second : Adds fs' paths' fs'') : Spares src fs paths fs' where
  new l hl hnone := second.expands.get?_eq_none (h.new l hl hnone)
  apart p hp l e hfind hsrc := by
    obtain ⟨l', content, hfile⟩ := first.written p hp
    obtain ⟨content', hfile'⟩ := second.expands.find_file hfile
    rw [eq_of_find hfind hfile] at hsrc
    exact h.apart p (List.mem_append_left _ hp) _ _ hfile' hsrc

/-- If a rendering of two parts spares the tree, so does the second part. -/
lemma Spares.right (h : Spares src fs (paths ++ paths') fs'') (first : Adds fs paths fs') :
    Spares src fs' paths' fs'' where
  new l hl hnone := h.new l hl (first.expands.get?_eq_none hnone)
  apart p hp := h.apart p (List.mem_append_right _ hp)

/-! ## Renderings that deliver -/

/-- The files that some visits come to have all been delivered, and what has been delivered lasts. -/
structure Delivers (r : Renderer) (output : Path) (vs : List Visit) (paths : List Path)
    (fs' : FileSystem) : Prop where
  paths_eq : paths = (r.deliveries output vs).map Prod.fst
  complete : ∀ v ∈ vs, v.content.isSome → (r.delivery? output v).isSome
  lasts : Lasts fs' (r.deliveries output vs)

/-- No visits deliver nothing. -/
lemma Delivers.nil (r : Renderer) (output : Path) (fs : FileSystem) :
    r.Delivers output [] [] fs := by
  refine ⟨rfl, by simp, ?_⟩
  intro before d after hsplit
  simp [deliveries] at hsplit

/-- Visits one after another deliver together. What comes later may take the place of what came before.
-/
lemma Delivers.append {vs vs' : List Visit} (first : r.Delivers output vs paths fs')
    (second : r.Delivers output vs' paths' fs'') (hfirst : Adds fs paths fs')
    (hsecond : Adds fs' paths' fs'') : r.Delivers output (vs ++ vs') (paths ++ paths') fs'' where
  paths_eq := by
    rw [first.paths_eq, second.paths_eq]
    simp [deliveries]
  complete := List.forall_mem_append.mpr ⟨first.complete, second.complete⟩
  lasts := by
    have hlasts := Lasts.append first.lasts second.lasts ?_ (second.paths_eq ▸ hsecond)
    · simpa [deliveries] using hlasts
    · intro d hd
      refine hfirst.written d.1 ?_
      rw [first.paths_eq]
      exact List.mem_map.mpr ⟨d, hd, rfl⟩

/-- A directory gives nothing itself. -/
lemma Delivers.cons_directory {vs : List Visit} (h : r.Delivers output vs paths fs') :
    r.Delivers output (⟨above, n, none⟩ :: vs) paths fs' := by
  have hnone : r.delivery? output ⟨above, n, none⟩ = none := rfl
  have hds : r.deliveries output (⟨above, n, none⟩ :: vs) = r.deliveries output vs :=
    List.filterMap_cons_none hnone
  refine ⟨by rw [hds, h.paths_eq], ?_, by rw [hds]; exact h.lasts⟩
  exact List.forall_mem_cons.mpr ⟨by simp, h.complete⟩

/-- A file that has just been written has been delivered. -/
lemma delivers_file (habove : r.directoryNames? above = some places) {isTemplate : Bool}
    (hname : r.fileName n = .ok (t, isTemplate)) (hmade : r.content? n content = some made)
    (hwrite : fs.write ((output.follow places).join (.ofString t)) made = .ok fs') :
    r.Delivers output [⟨above, n, some content⟩] [(output.follow places).join (.ofString t)] fs' := by
  have hplace : r.place? ⟨above, n, some content⟩ = some (places ++ [t]) := by
    simp [place?, habove, targetName?, hname, Except.map, Except.toOption]
  have hdelivery : r.delivery? output ⟨above, n, some content⟩ =
      some ((output.follow places).join (.ofString t), made) := by
    simp [delivery?, hplace, hmade]
  have hds : r.deliveries output [⟨above, n, some content⟩] =
      [((output.follow places).join (.ofString t), made)] := by
    simp [deliveries, hdelivery]
  obtain ⟨d, m, -, -, -, -, hfind⟩ := write_eq_ok hwrite
  refine ⟨by rw [hds]; rfl, by simp [hdelivery], ?_⟩
  rw [hds]
  intro before x after hsplit _
  have hx : x = ((output.follow places).join (.ofString t), made) := by
    have hmem : x ∈ [((output.follow places).join (.ofString t), made)] := by
      rw [hsplit]
      simp
    exact List.mem_singleton.mp hmem
  rw [hx]
  exact read_of_find hfind

/-! ## All visits -/

/-- What comes after a step that has ended with an answer. -/
lemma exists_run_of_bind {α β : Type} {x : Work α} {f : α → Work β} {b : β}
    (h : (x >>= f).run w = .ok b w') : ∃ a w₁, x.run w = .ok a w₁ ∧ (f a).run w₁ = .ok b w' := by
  cases hx : x.run w with
  | ok a w₁ =>
      rw [run_bind_of_ok hx] at h
      exact ⟨a, w₁, rfl, h⟩
  | error problem w₁ =>
      rw [run_bind_of_error hx] at h
      cases h

/-- The entries of a directory are visited one by one. -/
lemma exists_run_of_visitAll_cons {visit : String → Work (List Path)}
    (h : (visitAll visit (n :: names)).run w = .ok paths w') :
    ∃ first rest w₁, (visit n).run w = .ok first w₁ ∧
      (visitAll visit names).run w₁ = .ok rest w' ∧ paths = first ++ rest := by
  obtain ⟨first, w₁, hfirst, h⟩ := exists_run_of_bind h
  obtain ⟨rest, w₂, hrest, h⟩ := exists_run_of_bind h
  obtain ⟨rfl, rfl⟩ := EStateM.Result.ok.inj h
  exact ⟨first, rest, w₁, hfirst, hrest, rfl⟩

/-- A directory that is there is listed, and then its entries are visited. -/
lemma exists_run_of_renderDirectory {depth : Nat} (hfind : w.files.find p = .ok (l, .directory))
    (h : (r.renderDirectory depth p q).run w = .ok paths w') :
    ∃ depth', (visitAll (r.visit (r.renderDirectory depth') p q) (w.files.children l)).run w =
      .ok paths w' := by
  cases depth with
  | zero => cases h
  | succ depth => exact ⟨depth, (ends_renderDirectory_of_find hfind (ends_run _ _)).of_run_ok h⟩

/-- Visiting the entries of some names delivers the files of some visits, if the tree is spared. -/
def Serves (r : Renderer) (src : Location) (output : Path) (visit : String → Work (List Path))
    (names : List String) (vs : List Visit) (w : Workspace) : Prop :=
  ∀ paths w', (visitAll visit names).run w = .ok paths w' → Spares src w.files paths w'.files →
    r.Delivers output vs paths w'.files

/-- The files of the first entry of a directory are delivered, and then those of the others. -/
lemma serves_cons {depth : Nat} {us vs : List Visit}
    (hfirst : ∀ first w₁, Visited r (r.renderDirectory depth) p q n w first w₁ →
      Spares src w.files first w₁.files → r.Delivers output us first w₁.files)
    (hrest : ∀ w₁, Grows w.files w₁.files → SameBelow w.files w₁.files src →
      r.Serves src output (r.visit (r.renderDirectory depth) p q) names vs w₁) :
    r.Serves src output (r.visit (r.renderDirectory depth) p q) (n :: names) (us ++ vs) w := by
  intro paths w' hrun hspares
  have hdescend := onlyAdds_renderDirectory r depth
  obtain ⟨first, rest, w₁, hrunFirst, hrunRest, rfl⟩ := exists_run_of_visitAll_cons hrun
  have hvisited := (ends_visit hdescend p q n w).of_run_ok hrunFirst
  have haddsFirst := hvisited.adds hdescend
  have haddsRest : Adds w₁.files rest w'.files :=
    (onlyAdds_visitAll (fun n w => (ends_visit hdescend p q n w).mono
      (fun _ _ h => h.adds hdescend) fun _ _ h => h) w₁).of_run_ok hrunRest
  have hsparesFirst := hspares.left haddsFirst haddsRest
  exact (hfirst first w₁ hvisited hsparesFirst).append
    (hrest w₁ (grows_of_gains haddsFirst.gained) (hsparesFirst.sameBelow haddsFirst) rest w' hrunRest
      (hspares.right haddsFirst)) haddsFirst haddsRest

/-- An entry with an ignored name delivers nothing. -/
lemma serves_cons_ignored {depth : Nat} {vs : List Visit}
    (hignored : n ∈ r.conventions.ignoredNames)
    (hrest : ∀ w₁, Grows w.files w₁.files → SameBelow w.files w₁.files src →
      r.Serves src output (r.visit (r.renderDirectory depth) p q) names vs w₁) :
    r.Serves src output (r.visit (r.renderDirectory depth) p q) (n :: names) vs w := by
  rw [← List.nil_append vs]
  refine serves_cons (fun first w₁ hvisited _ => ?_) hrest
  cases hvisited with
  | ignored => exact .nil r output w₁.files
  | directory hnot => exact absurd hignored hnot
  | file hnot => exact absurd hignored hnot

/-- The path of an entry that is read leads to a file, which is the entry if that is no link. -/
lemma get?_of_read_child (hfind : fs.find p = .ok (l, .directory)) (hname : IsPlainName n)
    (hget : fs.get? (l ++ [n]) = some e) (he : e.kind ≠ .link)
    (hread : fs.read (p.child n) = .ok content) : e = .file content := by
  obtain ⟨l', hfile⟩ := find_of_read hread
  have hlink : ∀ target, fs.get? (l ++ [n]) ≠ some (.link target) := by
    intro target ht
    rw [hget] at ht
    rw [Option.some.inj ht] at he
    exact he rfl
  have hentry := (eq_of_find_child hfind hname.ne_here hname.ne_above hlink hfile).2
  rw [hget] at hentry
  exact Option.some.inj hentry

/-- The path of an entry that leads to a directory leads to the entry, if that is no link. -/
lemma find_of_isDirectory_child (hfind : fs.find p = .ok (l, .directory)) (hname : IsPlainName n)
    (hget : fs.get? (l ++ [n]) = some e) (he : e.kind ≠ .link)
    (hdir : fs.isDirectory (p.child n) = .ok true) :
    e = .directory ∧ fs.find (p.child n) = .ok (l ++ [n], .directory) := by
  obtain ⟨hchild, hdirectory⟩ := find_child_of_isDirectory hfind hname hget he hdir
  obtain rfl : e = .directory := by simpa using hdirectory.symm
  exact ⟨rfl, hchild⟩

/-- All files of a directory are delivered if the tree is spared. -/
theorem serves_names {depth : Nat} (hfind : w.files.find p = .ok (l, .directory)) (hl : src <+: l)
    (hholds : w.files.HoldsEntries l forest) (habove : r.directoryNames? above = some places) :
    r.Serves src output (r.visit (r.renderDirectory depth) p (output.follow places)) forest.names
      (forest.visits r.conventions.ignoredNames above) w := by
  -- the induction goes along the entries of the directory and into those below them
  induction forest generalizing w p l above places depth with
  | nil =>
      intro paths w' hrun _
      obtain ⟨rfl, rfl⟩ := EStateM.Result.ok.inj hrun
      exact .nil r output w.files
  | file n content rest ih =>
      obtain ⟨hname, hget, hothers⟩ := hholds
      have hrest : ∀ w₁, Grows w.files w₁.files → SameBelow w.files w₁.files src →
          r.Serves src output (r.visit (r.renderDirectory depth) p (output.follow places)) rest.names
            (rest.visits r.conventions.ignoredNames above) w₁ :=
        fun w₁ hgrows hsame =>
          ih (find_of_grows hgrows hfind) hl (holdsEntries_of_sameBelow hsame hl hothers) habove
      rw [Forest.visits]
      by_cases hignored : n ∈ r.conventions.ignoredNames
      · rw [if_pos hignored]
        exact serves_cons_ignored hignored hrest
      · rw [if_neg hignored, ← List.singleton_append]
        refine serves_cons (fun first w₁ hvisited _ => ?_) hrest
        cases hvisited with
        | ignored hyes => exact absurd hyes hignored
        | directory _ hdir =>
            cases (find_of_isDirectory_child hfind hname hget (by simp [Entry.kind]) hdir).1
        | file _ hfileName hread hmade hwrite =>
            cases get?_of_read_child hfind hname hget (by simp [Entry.kind]) hread
            exact delivers_file habove hfileName hmade hwrite
  | directory n entries rest ihEntries ihRest =>
      obtain ⟨hname, hget, hchildren, hentries, hothers⟩ := hholds
      have hrest : ∀ w₁, Grows w.files w₁.files → SameBelow w.files w₁.files src →
          r.Serves src output (r.visit (r.renderDirectory depth) p (output.follow places)) rest.names
            (rest.visits r.conventions.ignoredNames above) w₁ :=
        fun w₁ hgrows hsame =>
          ihRest (find_of_grows hgrows hfind) hl (holdsEntries_of_sameBelow hsame hl hothers) habove
      rw [Forest.visits]
      by_cases hignored : n ∈ r.conventions.ignoredNames
      · rw [if_pos hignored]
        exact serves_cons_ignored hignored hrest
      · rw [if_neg hignored, ← List.cons_append]
        refine serves_cons (fun first w₂ hvisited hsparesFirst => ?_) hrest
        cases hvisited with
        | ignored hyes => exact absurd hyes hignored
        | file _ _ hread =>
            cases get?_of_read_child hfind hname hget Entry.directory_kind_ne_link hread
        | @directory t w₁ _ _ _ hdir hdirectory hmake hrunEntries =>
            have hmade := adds_of_makeDirectories hmake
            have hadds := (onlyAdds_renderDirectory r depth _ _ w₁).of_run_ok hrunEntries
            have hsame := (Spares.left hsparesFirst hmade hadds).sameBelow hmade
            have hbelow : src <+: l ++ [n] := hl.trans (List.prefix_append l [n])
            have hsource := find_of_grows (grows_of_gains hmade.gained)
              (find_of_isDirectory_child hfind hname hget Entry.directory_kind_ne_link hdir).2
            obtain ⟨depth', hrunEntries⟩ := exists_run_of_renderDirectory hsource hrunEntries
            rw [hsame.children _ hbelow, hchildren, ← Path.follow_append] at hrunEntries
            have hplace : r.place? ⟨above, n, none⟩ = some (places ++ [t]) := by
              simp [place?, habove, targetName?, hdirectory, Except.toOption]
            exact Delivers.cons_directory (ihEntries hsource hbelow
              (holdsEntries_of_sameBelow hsame hbelow hentries)
              (directoryNames?_of_place? habove hplace) _ _ hrunEntries
              (Spares.right hsparesFirst hmade))

/-! ## Renderings that spare the tree -/

/-- What proceeds in an output apart from the tree leaves the tree as it was. -/
lemma get?_of_proceeds {out : Location} (h : r.Proceeds fs src out output w w')
    (hinside : ¬ src <+: out) (haround : ¬ out <+: src) (hl : src <+: l) :
    w'.files.get? l = w.files.get? l := by
  refine get?_of_gains h.gained ?_
  rintro x ⟨kind, l', p, -, hmade⟩ rfl
  exact (List.prefix_or_prefix_of_prefix hl hmade.below).elim hinside haround

/-- A rendering whose destinations stay in an output apart from the tree spares the tree. -/
lemma spares_of_confined {out : Location} {depth : Nat}
    (hroot : w.files.find root = .ok (src, .directory)) (houtput : output.Proper)
    (hconfined : r.Confined w.files src out output) (hinside : ¬ src <+: out)
    (haround : ¬ out <+: src) (hrun : (r.renderDirectory depth root output).run w = .ok paths w') :
    Spares src w.files paths w'.files := by
  have hproceeds := (onlyProceeds_renderDirectory hconfined houtput depth
    ⟨.refl, hroot, .root⟩).of_run_ok hrun
  refine ⟨fun l hl hnone => ?_, fun p hp l e hfind hsrc => ?_⟩
  · rw [get?_of_proceeds hproceeds hinside haround hl, hnone]
  · obtain ⟨new, hnew, htells⟩ := (tells_renderDirectory r depth root output w).of_run_ok hrun
    obtain ⟨new', hnew', hwithin⟩ := hproceeds.noted
    obtain rfl := List.append_cancel_left (hnew.symm.trans hnew')
    rw [← htells] at hp
    obtain ⟨event, hevent, htarget⟩ := List.mem_filterMap.mp hp
    obtain ⟨m, hm⟩ := hwithin event hevent p htarget
    have hl : l = m := eq_of_find_of_within
      (fun l target hl => get?_ne_link_of_gains hproceeds.gained
        (fun target => hconfined.no_link l target hl) target)
      (hm.of_grows (grows_of_gains hproceeds.gained)) hfind
    exact (List.prefix_or_prefix_of_prefix hsrc (hl ▸ hm.below)).elim hinside haround

/-! ## The whole tree -/

/-- A rendering that succeeds has found a tree, has made its output, and has then rendered the entries
of the tree into it. -/
lemma exists_run_of_renderTree (hroot : w.files.find root = .ok (src, .directory))
    (hmade : w.files.makeDirectories true output = (.ok (), fs))
    (hrun : (r.renderTree root output).run w = .ok paths w') :
    (r.renderDirectory pathLimit root output).run { w with files := fs } = .ok paths w' :=
  (ends_renderTree_of_find hroot hmade (ends_run _ _)).of_run_ok hrun

/-- Deliveries that are in different places all last. -/
lemma Lasts.read (h : Lasts fs ds)
    (hplaces : ds.Pairwise fun d d' => ¬ SamePlace fs d.1 d'.1) :
    ∀ d ∈ ds, fs.read d.1 = .ok d.2 := by
  intro d hd
  obtain ⟨before, after, rfl⟩ := List.append_of_mem hd
  refine h before d after rfl fun d' hd' => ?_
  exact List.rel_of_pairwise_cons (List.pairwise_append.mp hplaces).2.1 hd'

/-- Deliveries that are in different places are at different paths. -/
lemma nodup_of_places (hfiles : ∀ d ∈ ds, ∃ l content, fs.find d.1 = .ok (l, .file content))
    (hplaces : ds.Pairwise fun d d' => ¬ SamePlace fs d.1 d'.1) : (ds.map Prod.fst).Nodup := by
  rw [List.Nodup, List.pairwise_map]
  refine hplaces.imp_of_mem fun {d d'} hd _ hnot heq => hnot ?_
  obtain ⟨l, content, hfind⟩ := hfiles d hd
  exact ⟨l, _, _, hfind, heq ▸ hfind⟩

/-- **What becomes of the files of a tree.** Let a tree of directories and files be rendered with
success. The rendering spares the tree if its destinations stay in an output that is apart from the
tree. One that spares the tree answers with the paths to which the files are taken, in order, and what
it has written lasts for every file that no later one is in the place of. So if no two files are taken
to one place, then all paths are different, and each file is found at its own. -/
theorem renderTree_delivers
    (hroot : w.files.find root = .ok (src, .directory))
    (hmade : w.files.makeDirectories true output = (.ok (), fs)) (hholds : fs.Holds src forest)
    (hrun : (r.renderTree root output).run w = .ok paths w') :
    (∀ out, output.Proper → r.Confined fs src out output → ¬ src <+: out → ¬ out <+: src →
      Spares src fs paths w'.files) ∧
    (Spares src fs paths w'.files →
      r.Delivers output (r.visits forest) paths w'.files ∧
      ((r.deliveries output (r.visits forest)).Pairwise
          (fun d d' => ¬ SamePlace w'.files d.1 d'.1) →
        paths.Nodup ∧ ∀ d ∈ r.deliveries output (r.visits forest),
          w'.files.read d.1 = .ok d.2)) := by
  obtain ⟨made, hprepares⟩ := makeDirectories_prepares hmade
  have hfind := find_of_grows hprepares.grows hroot
  have hrender := exists_run_of_renderTree hroot hmade hrun
  have hadds := (onlyAdds_renderDirectory r pathLimit root output _).of_run_ok hrender
  refine ⟨fun out houtput hconfined hinside haround =>
    spares_of_confined hfind houtput hconfined hinside haround hrender, fun hspares => ?_⟩
  obtain ⟨depth, hvisits⟩ := exists_run_of_renderDirectory hfind hrender
  have houtput : output = output.follow [] := rfl
  rw [hholds.names, houtput] at hvisits
  have hnames : r.directoryNames? [] = some [] := rfl
  have hdelivers : r.Delivers output (r.visits forest) paths w'.files :=
    serves_names hfind (List.prefix_refl src) hholds.entries hnames _ _ hvisits hspares
  refine ⟨hdelivers, fun hplaces => ⟨?_, hdelivers.lasts.read hplaces⟩⟩
  rw [hdelivers.paths_eq]
  refine nodup_of_places (fun d hd => hadds.written d.1 ?_) hplaces
  rw [hdelivers.paths_eq]
  exact List.mem_map.mpr ⟨d, hd, rfl⟩

/-- Three files that all end up with the name `c`, in different directories. The names of two directories
of the tree lead to the same place, and one file has the place of an earlier one. -/
def namesakeFiles : FileSystem where
  entries := [(["t"], .directory), (["t", "\x7b% e %\x7d"], .directory),
    (["t", "\x7b% e %\x7d", "c.lte"], .file "\x7b% u %\x7d".toByteArray),
    (["t", "c"], .file "3".toByteArray), (["t", "\x7b% d %\x7d"], .directory),
    (["t", "\x7b% d %\x7d", "\x7b% u %\x7d"], .file "1".toByteArray), (["o"], .directory),
    (["o", "c"], .file "old".toByteArray)]

/-- The bindings for `namesakeFiles`. -/
def namesakeRenderer : Renderer where
  bindings := ⟨[("d", "a/b"), ("e", "a/./b"), ("u", "../c")]⟩

/-- The tree of `namesakeFiles`. -/
def namesakeForest : Forest :=
  .file "c" "3".toByteArray
    (.directory "\x7b% d %\x7d" (.file "\x7b% u %\x7d" "1".toByteArray .nil)
      (.directory "\x7b% e %\x7d" (.file "c.lte" "\x7b% u %\x7d".toByteArray .nil) .nil))

/-- The destinations of `namesakeFiles`. -/
def namesakeDestinations : List (Kind × Location × Path) :=
  [(.directory, ["t"], ⟨.root, ["o"]⟩), (.file, ["t", "c"], ⟨.root, ["o", "c"]⟩),
    (.directory, ["t", "\x7b% d %\x7d"], ⟨.root, ["o", "a", "b"]⟩),
    (.file, ["t", "\x7b% d %\x7d", "\x7b% u %\x7d"], ⟨.root, ["o", "a", "b", "..", "c"]⟩),
    (.directory, ["t", "\x7b% e %\x7d"], ⟨.root, ["o", "a", "b"]⟩),
    (.file, ["t", "\x7b% e %\x7d", "c.lte"], ⟨.root, ["o", "a", "b", "c"]⟩)]

/-- The files hold the tree. -/
lemma namesakeFiles_holds : namesakeFiles.Holds ["t"] namesakeForest := by
  have hroot : namesakeFiles.children ["t"] = ["c", "\x7b% d %\x7d", "\x7b% e %\x7d"] :=
    children_of_perm (by decide) (by decide)
  refine ⟨hroot, by decide, rfl, by decide, rfl, ?_, ?_, by decide, rfl, ?_, ?_, trivial⟩
  · exact children_of_perm (.refl _) (by decide)
  · exact ⟨by decide, rfl, trivial⟩
  · exact children_of_perm (.refl _) (by decide)
  · exact ⟨by decide, rfl, trivial⟩

/-- No name leads out of the output. -/
lemma namesakeFiles_confined :
    namesakeRenderer.Confined namesakeFiles ["t"] ["o"] ⟨.root, ["o"]⟩ := by
  have htree : namesakeFiles.IsTree ["t"] :=
    (plainNames_of_entries (r := {}) (by decide +kernel)).tree
  exact .of_closed namesakeDestinations htree (get?_ne_link (by decide)) rfl
    (by decide) (by decide) (by decide) (by decide +kernel) (by decide)

/-- What a rendering makes of `namesakeFiles`. -/
def namesakeOutput : FileSystem :=
  let fs := namesakeFiles.put ["o", "c"] (.file "3".toByteArray)
  let fs := (fs.put ["o", "a"] .directory).put ["o", "a", "b"] .directory
  let fs := fs.put ["o", "a", "c"] (.file "1".toByteArray)
  fs.put ["o", "a", "b", "c"] (.file "../c".toByteArray)

/-- The rendering succeeds with those files. Names of a directory are read off the tree, for sorting does
not compute here. -/
lemma ends_renderTree_namesake :
    Ends (namesakeRenderer.renderTree ⟨.root, ["t"]⟩ ⟨.root, ["o"]⟩) ⟨namesakeFiles, []⟩
      (fun _ w' => w'.files = namesakeOutput) fun _ _ => False := by
  have hroot : namesakeFiles.find ⟨.root, ["t"]⟩ = .ok (["t"], .directory) := rfl
  refine ends_renderTree_of_find hroot rfl (ends_renderDirectory_of_find hroot ?_)
  rw [namesakeFiles_holds.names]
  decide +kernel

/-- The three files are in three places, so each is found at the path that is answered for it. -/
theorem renderTree_delivers_namesakes :
    ∃ paths w', (namesakeRenderer.renderTree ⟨.root, ["t"]⟩ ⟨.root, ["o"]⟩).run ⟨namesakeFiles, []⟩ =
        .ok paths w' ∧
      paths = [⟨.root, ["o", "c"]⟩, ⟨.root, ["o", "a", "b", "..", "c"]⟩,
        ⟨.root, ["o", "a", "b", "c"]⟩] ∧
      paths.Nodup ∧
      w'.files.read ⟨.root, ["o", "c"]⟩ = .ok "3".toByteArray ∧
      w'.files.read ⟨.root, ["o", "a", "b", "..", "c"]⟩ = .ok "1".toByteArray ∧
      w'.files.read ⟨.root, ["o", "a", "b", "c"]⟩ = .ok "../c".toByteArray := by
  obtain ⟨paths, w', hrun, hfiles⟩ := ends_renderTree_namesake.exists_run_ok
  have hfirst : w'.files.find ⟨.root, ["o", "c"]⟩ = .ok (["o", "c"], .file "3".toByteArray) :=
    hfiles ▸ rfl
  have hsecond : w'.files.find ⟨.root, ["o", "a", "b", "..", "c"]⟩ =
      .ok (["o", "a", "c"], .file "1".toByteArray) := hfiles ▸ rfl
  have hthird : w'.files.find ⟨.root, ["o", "a", "b", "c"]⟩ =
      .ok (["o", "a", "b", "c"], .file "../c".toByteArray) := hfiles ▸ rfl
  have hroot : namesakeFiles.find ⟨.root, ["t"]⟩ = .ok (["t"], .directory) := rfl
  have hmade : namesakeFiles.makeDirectories true ⟨.root, ["o"]⟩ = (.ok (), namesakeFiles) := rfl
  have hdeliveries : namesakeRenderer.deliveries ⟨.root, ["o"]⟩ (namesakeRenderer.visits namesakeForest) =
      [(⟨.root, ["o", "c"]⟩, "3".toByteArray),
        (⟨.root, ["o", "a", "b", "..", "c"]⟩, "1".toByteArray),
        (⟨.root, ["o", "a", "b", "c"]⟩, "../c".toByteArray)] := by decide +kernel
  obtain ⟨hspares, hdelivers⟩ := renderTree_delivers hroot hmade namesakeFiles_holds hrun
  obtain ⟨hall, hlast⟩ := hdelivers
    (hspares ["o"] (by decide) namesakeFiles_confined (by decide) (by decide))
  have hpaths := hall.paths_eq
  rw [hdeliveries] at hpaths hlast
  obtain ⟨hnodup, hread⟩ := hlast (by
    simp only [List.pairwise_cons, List.forall_mem_cons, List.not_mem_nil, false_implies,
      implies_true, and_true, List.Pairwise.nil]
    exact ⟨⟨not_samePlace hfirst hsecond (by decide), not_samePlace hfirst hthird (by decide)⟩,
      not_samePlace hsecond hthird (by decide)⟩)
  rw [List.forall_mem_cons, List.forall_mem_cons, List.forall_mem_singleton] at hread
  obtain ⟨hread, hread', hread''⟩ := hread
  exact ⟨paths, w', hrun, hpaths, hnodup, hread, hread', hread''⟩

/-- Two files of which one is a template for the other. -/
def mergedFiles : FileSystem where
  entries := [(["t"], .directory), (["t", "a"], .file "1".toByteArray),
    (["t", "a.lte"], .file "2".toByteArray), (["o"], .directory)]

/-- The tree of `mergedFiles`. -/
def mergedForest : Forest :=
  .file "a" "1".toByteArray (.file "a.lte" "2".toByteArray .nil)

/-- Nothing keeps a rendering with success, into a directory that is apart from the tree, from taking two
files to one path. What the first of them gives is lost. -/
theorem file_lost_of_one_path :
    mergedFiles.Holds ["t"] mergedForest ∧
      mergedFiles.find ⟨.root, ["t"]⟩ = .ok (["t"], .directory) ∧
      mergedFiles.find ⟨.root, ["o"]⟩ = .ok (["o"], .directory) ∧
      ∃ paths w', (Renderer.renderTree {} ⟨.root, ["t"]⟩ ⟨.root, ["o"]⟩).run ⟨mergedFiles, []⟩ =
          .ok paths w' ∧
        ¬ paths.Nodup ∧
        Renderer.delivery? {} ⟨.root, ["o"]⟩ ⟨[], "a", some "1".toByteArray⟩ =
          some (⟨.root, ["o", "a"]⟩, "1".toByteArray) ∧
        w'.files.children ["o"] = ["a"] ∧ w'.files.get? ["o", "a"] = some (.file "2".toByteArray) := by
  have hnames : mergedFiles.children ["t"] = ["a", "a.lte"] :=
    children_of_perm (.refl _) (by decide)
  have hroot : mergedFiles.find ⟨.root, ["t"]⟩ = .ok (["t"], .directory) := rfl
  refine ⟨⟨hnames, by decide, rfl, by decide, rfl, trivial⟩, hroot, rfl, ?_⟩
  have hends : Ends (Renderer.renderTree {} ⟨.root, ["t"]⟩ ⟨.root, ["o"]⟩) ⟨mergedFiles, []⟩
      (fun paths w' => ¬ paths.Nodup ∧ w'.files.entries.map Prod.fst =
          [["o", "a"], ["t"], ["t", "a"], ["t", "a.lte"], ["o"]] ∧
        w'.files.get? ["o", "a"] = some (.file "2".toByteArray)) fun _ _ => False := by
    refine ends_renderTree_of_find hroot rfl (ends_renderDirectory_of_find hroot ?_)
    rw [hnames]
    decide +kernel
  obtain ⟨paths, w', hrun, hnodup, hentries, hget⟩ := hends.exists_run_ok
  refine ⟨paths, w', hrun, hnodup, by decide +kernel, ?_, hget⟩
  refine children_of_perm (.of_eq ?_) (by decide)
  have hnames : w'.files.entries.filterMap (fun x => childName? ["o"] x.1) =
      (w'.files.entries.map Prod.fst).filterMap (childName? ["o"]) := by
    rw [List.filterMap_map]
    rfl
  rw [hnames, hentries]
  rfl

end Tree.Renderer

end Scaffold
