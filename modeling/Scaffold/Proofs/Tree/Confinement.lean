import Mathlib.Logic.Relation
import Mathlib.Tactic.Lemma
import Scaffold.Proofs.FileSystem.Gaining
import Scaffold.Proofs.FileSystem.Rooted
import Scaffold.Proofs.Tree.Stopping

/-!
# A rendering stays below its output

The output may lie in the tree that is rendered. Then a rendering comes to entries that it has made
itself, and the names of these count as well.

* `Meets`: an entry of some kind and name that a rendering may come to.
* `PlainTree`: all names that these give are plain. `PlainNames.plainTree` says that it suffices to
  look at the tree if the output is apart from it.
* `Lays`: one entry is laid down below the output, under the name that some entry gives.
* `get?_of_lays`, `PlainTree.of_lays`: what stays when entries are laid down.
* `onlyLays_renderDirectory`: all that rendering a directory does is lay down such entries,
  whether it succeeds or not.
-/

namespace Scaffold.Tree.Renderer

open FileSystem Relation

variable {r : Renderer} {fs₁ fs fs' : FileSystem} {src out l m : Location} {p q : Path}
  {kind : Kind} {n t : String} {e : Entry}

/-! ## Entries that are met -/

/-- The name that an entry of some kind and name gives, if it renders. -/
def nameOf? (r : Renderer) (kind : Kind) (name : String) : Option String :=
  match kind with
  | .directory => (r.directoryName name).toOption
  | .file => ((r.fileName name).map Prod.fst).toOption
  | .link => none

/-- A rendering may come to an entry of some kind and name: to one that is in the tree, or, if the
output lies in the tree or around it, to one that is made from such an entry. -/
inductive Meets (r : Renderer) (fs : FileSystem) (src out : Location) : Kind → String → Prop
  | entry {l : Location} {n : String} {e : Entry} :
    src <+: l → fs.get? (l ++ [n]) = some e → Meets r fs src out e.kind n
  | given {kind : Kind} {n t : String} :
    src <+: out ∨ out <+: src → Meets r fs src out kind n → r.nameOf? kind n = some t →
      Meets r fs src out kind t

/-- A tree of directories and files in which every name that a rendering comes to gives a plain one,
if it renders. -/
structure PlainTree (r : Renderer) (fs : FileSystem) (src out : Location) : Prop where
  tree : fs.IsTree src
  plain : ∀ kind n t, r.Meets fs src out kind n → r.nameOf? kind n = some t → IsPlainName t

/-- A tree of directories and files in which every name gives a plain one, if it renders. -/
structure PlainNames (r : Renderer) (fs : FileSystem) (src : Location) : Prop where
  tree : fs.IsTree src
  plain : ∀ l n e t, src <+: l → fs.get? (l ++ [n]) = some e → r.nameOf? e.kind n = some t →
    IsPlainName t

/-- If neither the output lies in the tree nor the tree in the output, a rendering comes to no other
entries than those of the tree. -/
lemma PlainNames.plainTree (h : r.PlainNames fs src) (hinside : ¬ src <+: out)
    (haround : ¬ out <+: src) : r.PlainTree fs src out where
  tree := h.tree
  plain := by
    intro kind n t hmeets hname
    cases hmeets with
    | entry hl hget => exact h.plain _ n _ t hl hget hname
    | given hnear => exact (hnear.elim hinside haround).elim

/-- The names in a tree can be looked through. -/
lemma plainNames_of_entries
    (h : ∀ x ∈ fs.entries, src <+: x.1.dropLast → ∀ n ∈ x.1.getLast?, IsPlainName n ∧
      x.2.kind ≠ .link ∧ ∀ t ∈ r.nameOf? x.2.kind n, IsPlainName t) : r.PlainNames fs src := by
  have hentry : ∀ l n e, src <+: l → fs.get? (l ++ [n]) = some e → IsPlainName n ∧
      e.kind ≠ .link ∧ ∀ t ∈ r.nameOf? e.kind n, IsPlainName t := by
    intro l n e hl hget
    have hmem := (mem_entries_of_get? hget).resolve_left (by simp)
    exact h _ hmem (by simpa using hl) n (by simp)
  exact ⟨fun l n e hl hget => ⟨(hentry l n e hl hget).1, (hentry l n e hl hget).2.1⟩,
    fun l n e t hl hget hname => (hentry l n e hl hget).2.2 t hname⟩

/-! ## Laying down entries below the output -/

/-- One entry is laid down below the output, under the name that an entry of its kind gives. -/
def Lays (r : Renderer) (fs₁ : FileSystem) (src out : Location) (fs fs' : FileSystem) : Prop :=
  ∃ m n t e, out <+: m ∧ r.Meets fs₁ src out e.kind n ∧ r.nameOf? e.kind n = some t ∧
    fs.Takes [(m ++ [t], e)] ∧ fs' = fs.deposit (m ++ [t], e)

/-- What is laid down: an entry below the output, under the name that an entry of its kind gives. -/
def Laid (r : Renderer) (fs₁ : FileSystem) (src out : Location) (x : Location × Entry) : Prop :=
  ∃ m n t, x.1 = m ++ [t] ∧ out <+: m ∧ r.Meets fs₁ src out x.2.kind n ∧
    r.nameOf? x.2.kind n = some t

/-- Entries that are laid are gained. -/
lemma gains_of_lays (h : ReflTransGen (r.Lays fs₁ src out) fs fs') :
    ReflTransGen (Gains (r.Laid fs₁ src out)) fs fs' := by
  refine ReflTransGen.mono ?_ fs fs' h
  rintro _ _ ⟨m, n, t, e, hm, hmeets, hname, htakes, rfl⟩
  exact .intro ⟨m, n, t, rfl, hm, hmeets, hname⟩ htakes

/-- Files grow by what is laid. -/
lemma grows_of_lays (h : ReflTransGen (r.Lays fs₁ src out) fs fs') : Grows fs fs' :=
  grows_of_gains (gains_of_lays h)

/-- What does not lie below the output stays as it is. -/
lemma get?_of_lays (h : ReflTransGen (r.Lays fs₁ src out) fs fs')
    (hl : ∀ rest, rest ≠ [] → l ≠ out ++ rest) : fs'.get? l = fs.get? l := by
  refine get?_of_gains (gains_of_lays h) ?_
  rintro x ⟨m, n, t, hx, ⟨ns, rfl⟩, -, -⟩
  rw [hx, List.append_assoc]
  exact hl (ns ++ [t]) (by simp)

/-- Nothing is lost when entries are laid down below an output in which there is nothing. -/
lemma keeps_of_lays (h : ReflTransGen (r.Lays fs₁ src out) fs fs')
    (hempty : ∀ rest, rest ≠ [] → fs.get? (out ++ rest) = none) : Keeps fs fs' := by
  intro l e hget
  rw [get?_of_lays h, hget]
  rintro rest hrest rfl
  rw [hempty rest hrest] at hget
  cases hget

/-- Where there is an entry, there is one also after others have been laid down. -/
lemma isSome_of_lays (h : ReflTransGen (r.Lays fs₁ src out) fs fs') (hsome : (fs.get? l).isSome) :
    (fs'.get? l).isSome := by
  obtain ⟨e, hget⟩ := Option.isSome_iff_exists.mp hsome
  obtain ⟨e', hget', -⟩ := kind_of_gains (gains_of_lays h) hget
  rw [hget']
  rfl

/-- No link is laid down. -/
lemma get?_ne_link_of_lays (h : ReflTransGen (r.Lays fs₁ src out) fs fs')
    (hl : ∀ target, fs.get? l ≠ some (.link target)) (target : String) :
    fs'.get? l ≠ some (.link target) :=
  get?_ne_link_of_gains (gains_of_lays h) hl target

/-- Every entry in the tree, at any time, is one that the rendering may come to. -/
lemma PlainTree.of_lays (hplain : r.PlainTree fs₁ src out)
    (h : ReflTransGen (r.Lays fs₁ src out) fs₁ fs) (hl : src <+: l)
    (hget : fs.get? (l ++ [n]) = some e) :
    IsPlainName n ∧ e.kind ≠ .link ∧ r.Meets fs₁ src out e.kind n := by
  rcases exists_of_gains (gains_of_lays h) hget with hold | ⟨m, n', t, heq, hm, hmeets, hname⟩
  · obtain ⟨hplainName, hkind⟩ := hplain.tree l n e hl hold
    exact ⟨hplainName, hkind, .entry hl hold⟩
  · -- the entry has been laid down, and so the output lies in the tree or around it
    obtain ⟨rfl, hn⟩ := List.append_inj' heq rfl
    obtain rfl : n = t := List.singleton_inj.mp hn
    have hnear := List.prefix_or_prefix_of_prefix hl hm
    refine ⟨hplain.plain _ n' n hmeets hname, ?_, .given hnear hmeets hname⟩
    rintro hlink
    rw [hlink] at hname
    cases hname

/-! ## Visits -/

/-- A directory of the tree and one at or below the output are where their paths say, after entries
have been laid down. -/
structure Inside (r : Renderer) (fs₁ : FileSystem) (src out : Location) (fs : FileSystem)
    (p q : Path) (l m : Location) : Prop where
  laid : ReflTransGen (r.Lays fs₁ src out) fs₁ fs
  source : fs.find p = .ok (l, .directory)
  target : fs.find q = .ok (m, .directory)
  source_below : src <+: l
  target_below : out <+: m

/-- A directory that a rendering is inside of is so when more is laid. -/
lemma Inside.of_lays (h : r.Inside fs₁ src out fs p q l m)
    (hlays : ReflTransGen (r.Lays fs₁ src out) fs fs') : r.Inside fs₁ src out fs' p q l m where
  laid := h.laid.trans hlays
  source := find_of_grows (grows_of_lays hlays) h.source
  target := find_of_grows (grows_of_lays hlays) h.target
  source_below := h.source_below
  target_below := h.target_below

/-- The directory that is made from a directory lies below the output, and the entries of the one are
rendered into the other. -/
lemma Inside.enter (h : r.Inside fs₁ src out fs p q l m) (hmeets : r.Meets fs₁ src out .directory n)
    (hgives : r.nameOf? .directory n = some t) (hname : IsPlainName t)
    (hsource : fs.find (p.child n) = .ok (l ++ [n], .directory)) (hfits : Fits (q.child t))
    (htakes : fs.Takes [(m ++ [t], .directory)]) :
    r.Lays fs₁ src out fs (fs.deposit (m ++ [t], .directory)) ∧
      r.Inside fs₁ src out (fs.deposit (m ++ [t], .directory)) (p.child n) (q.child t) (l ++ [n])
        (m ++ [t]) := by
  have hlays : r.Lays fs₁ src out fs (fs.deposit (m ++ [t], .directory)) :=
    ⟨m, n, t, .directory, h.target_below, hmeets, hgives, htakes, rfl⟩
  have hgrows := htakes.grows_deposit List.mem_cons_self
  have hmade : (fs.deposit (m ++ [t], .directory)).get? (m ++ [t]) = some .directory :=
    get?_deposit_self (htakes.not_root _ List.mem_cons_self)
  refine ⟨hlays, ⟨h.laid.tail hlays, find_of_grows hgrows hsource, ?_,
    h.source_below.trans (List.prefix_append l [n]),
    h.target_below.trans (List.prefix_append m [t])⟩⟩
  exact find_child ⟨find_of_grows hgrows h.target, hname, hfits⟩ hmade
    Entry.directory_kind_ne_link

/-- Work that does nothing to the files but lay down entries below the output, whether it succeeds
or not. -/
def OnlyLays {α : Type} (r : Renderer) (fs₁ : FileSystem) (src out : Location) (x : Work α)
    (w : Workspace) : Prop :=
  Ends x w (fun _ w' => ReflTransGen (r.Lays fs₁ src out) w.files w'.files)
    (fun _ w' => ReflTransGen (r.Lays fs₁ src out) w.files w'.files)

variable [Host] {descend : Path → Path → Work (List Path)} {w : Workspace}
  (hplain : r.PlainTree fs₁ src out)
  (hlinks : ∀ l n target, out <+: l → fs₁.get? (l ++ [n]) ≠ some (.link target))

include hplain hlinks

/-- The visit of a file lays down at most what is made from it. -/
lemma onlyLays_visitFile {content : ByteArray} (hinside : r.Inside fs₁ src out w.files p q l m)
    (hmeets : r.Meets fs₁ src out .file n)
    (hsource : w.files.find (p.child n) = .ok (l ++ [n], .file content)) :
    r.OnlyLays fs₁ src out (r.visitFile p q n) w := by
  simp only [visitFile]
  refine Ends.bind (Work.ends_lift (fun x hfile => ?_) fun _ _ => .refl)
  obtain ⟨t, isTemplate⟩ := x
  have hgives : r.nameOf? .file n = some t := by
    simp only [nameOf?, hfile]
    rfl
  have hname := hplain.plain _ n t hmeets hgives
  have hlink := get?_ne_link_of_lays hinside.laid (l := m ++ [t])
    fun target => hlinks m t target hinside.target_below
  have hlays : ∀ product : ByteArray, w.files.Takes [(m ++ [t], .file product)] →
      r.Lays fs₁ src out w.files (w.files.deposit (m ++ [t], .file product)) :=
    fun product htakes =>
      ⟨m, n, t, .file product, hinside.target_below, hmeets, hgives, htakes, rfl⟩
  rw [Path.join_ofString _ hname]
  cases isTemplate with
  | false =>
      refine Ends.bind (Work.ends_note ?_)
      refine Ends.bind (Ends.mono (ends_copy hsource hinside.target hname hlink) ?_ ?_)
      · rintro _ w' ⟨htakes, hfiles⟩
        refine ends_pure (.single ?_)
        rw [hfiles]
        exact hlays content htakes
      · rintro _ w' (⟨hfiles, -⟩ | ⟨k, x, -, htakes, hfiles⟩)
        · rw [hfiles]
        · -- a part of the content is an entry of the same place
          rw [hfiles]
          exact .single (hlays (content.extract 0 k) htakes)
  | true =>
      refine Ends.bind (Work.ends_note ?_)
      refine Ends.bind (Ends.mono (ends_renderFile hsource hinside.target hname hlink) ?_ ?_)
      · rintro _ w' ⟨template, text, -, -, htakes, hfiles⟩
        refine ends_pure (.single ?_)
        rw [hfiles]
        exact hlays text.toByteArray htakes
      · rintro _ w' (⟨hfiles, -⟩ | ⟨template, text, k, x, -, -, -, htakes, hfiles⟩)
        · rw [hfiles]
        · rw [hfiles]
          exact .single (hlays (text.toByteArray.extract 0 k) htakes)

/-- The visit of an entry lays down at most what is made from it and what lies below it. -/
lemma onlyLays_visit (hinside : r.Inside fs₁ src out w.files p q l m)
    (hsome : (w.files.get? (l ++ [n])).isSome)
    (hdescend : ∀ w' t, r.Inside fs₁ src out w'.files (p.child n) (q.child t) (l ++ [n])
      (m ++ [t]) → r.OnlyLays fs₁ src out (descend (p.child n) (q.child t)) w') :
    r.OnlyLays fs₁ src out (r.visit descend p q n) w := by
  obtain ⟨e, hget⟩ := Option.isSome_iff_exists.mp hsome
  obtain ⟨hname, hkind, hmeets⟩ := hplain.of_lays hinside.laid hinside.source_below hget
  by_cases hignored : n ∈ r.conventions.ignoredNames
  · simp only [visit, if_pos hignored]
    exact Ends.bind (Work.ends_note (ends_pure .refl))
  simp only [visit, if_neg hignored]
  refine Ends.bind (Work.ends_ask (fun isDir hdir => ?_) fun _ _ => .refl)
  obtain ⟨hsource, rfl⟩ :=
    find_child_of_isDirectory hinside.source hname hget hkind (Host.isDirectory_eq_ok hdir)
  cases e with
  | link target => exact absurd rfl hkind
  | file content =>
      simp only [reduceCtorEq, decide_false, Bool.false_eq_true, if_false]
      exact onlyLays_visitFile hplain hlinks hinside hmeets hsource
  | directory =>
      simp only [decide_true, if_true]
      refine Ends.bind (Work.ends_lift (fun t hdirectory => ?_) fun _ _ => .refl)
      have hgives : r.nameOf? .directory n = some t := by
        simp only [nameOf?, hdirectory]
        rfl
      have hname' := hplain.plain _ n t hmeets hgives
      have hlink := get?_ne_link_of_lays hinside.laid (l := m ++ [t])
        fun target => hlinks m t target hinside.target_below
      have hcases := makeDirectories_child_cases hinside.target hname' hlink
      rw [Path.join_ofString _ hname']
      refine Ends.bind (Work.ends_attempt (fun fs' hmake => ?_) fun f fs' hmake => ?_)
      · have hmade := Host.makeDirectories_eq_ok hmake
        rcases hcases with ⟨f, hf⟩ | ⟨hok, htakes, htargetFits⟩
        · cases (Prod.mk.inj (hf.symm.trans hmade)).1
        obtain rfl := (Prod.mk.inj (hok.symm.trans hmade)).2
        obtain ⟨hlays, henter⟩ :=
          hinside.enter hmeets hgives hname' hsource htargetFits htakes
        exact (hdescend _ t henter).mono (fun _ _ hrest => .head hlays hrest)
          fun _ _ hrest => .head hlays hrest
      · rcases Host.makeDirectories_cases hmake with hmake | ⟨_, _, _, rfl⟩
        · rcases hcases with ⟨f', hf⟩ | ⟨hok, -⟩
          · obtain rfl := (Prod.mk.inj (hf.symm.trans hmake)).2
            exact .refl
          · cases (Prod.mk.inj (hok.symm.trans hmake)).1
        · exact .refl

omit [Host] hplain hlinks in
/-- What holds before the entries of a directory are visited, and stays so when one of them is, holds
when all have been visited. -/
lemma ends_visitAll_of_invariant {I : Workspace → Prop} {R : Problem → Workspace → Prop}
    {visit : String → Work (List Path)} {names : List String}
    (hvisit : ∀ n ∈ names, ∀ w, I w → Ends (visit n) w (fun _ w' => I w') R) (h : I w) :
    Ends (visitAll visit names) w (fun _ w' => I w') R := by
  induction names generalizing w with
  | nil => exact ends_pure h
  | cons n ns ih =>
      refine Ends.bind ((hvisit n List.mem_cons_self w h).mono (fun _ w' h' => ?_) fun _ _ hR => hR)
      have hothers := ih (fun m hm => hvisit m (List.mem_cons_of_mem n hm)) h'
      exact Ends.bind (hothers.mono (fun _ _ h'' => ends_pure h'') fun _ _ hR => hR)

/-- All that rendering a directory does is lay down entries below the output. -/
theorem onlyLays_renderDirectory (depth : Nat)
    (hinside : r.Inside fs₁ src out w.files p q l m) :
    r.OnlyLays fs₁ src out (r.renderDirectory depth p q) w := by
  -- the directories below the one that is rendered are rendered to a smaller depth
  induction depth generalizing w p q l m with
  | zero => exact ends_throw .refl
  | succ depth ih =>
      refine ends_renderDirectory_of_listed hinside.source (fun _ _ _ => .refl) ?_
      refine ends_visitAll_of_invariant
        (I := fun w' => ReflTransGen (r.Lays fs₁ src out) w.files w'.files) ?_ .refl
      intro n hn w' hlays
      have hsome := isSome_of_lays hlays (mem_children.mp hn)
      have hvisit : r.OnlyLays fs₁ src out (r.visit (r.renderDirectory depth) p q n) w' :=
        onlyLays_visit hplain hlinks (hinside.of_lays hlays) hsome fun w'' t henter => ih henter
      exact hvisit.mono (fun _ _ hrest => hlays.trans hrest) fun _ _ hrest => hlays.trans hrest

/-- All that rendering a tree into a directory that is there does is lay down entries below that
directory. -/
theorem onlyLays_renderTree {root output : Path} (hfiles : w.files = fs₁)
    (hroot : fs₁.find root = .ok (src, .directory))
    (hout : fs₁.find output = .ok (out, .directory)) :
    r.OnlyLays fs₁ src out (r.renderTree root output) w := by
  subst hfiles
  have hinside : r.Inside w.files src out w.files root output src out :=
    ⟨.refl, hroot, hout, List.prefix_refl src, List.prefix_refl out⟩
  have hdirectory : r.OnlyLays w.files src out (r.renderDirectory pathLimit root output) w :=
    onlyLays_renderDirectory hplain hlinks pathLimit hinside
  have hmake := makeDirectories_of_find hout
  have hrest : r.OnlyLays w.files src out (do
      Work.makeDirectories output
      r.renderDirectory pathLimit root output) w := by
    refine Ends.bind (Work.ends_attempt (fun fs' hmade => ?_) fun f fs' hmade => ?_)
    · obtain rfl := (Prod.mk.inj (hmake.symm.trans (Host.makeDirectories_eq_ok hmade))).2
      exact hdirectory
    · rcases Host.makeDirectories_cases hmade with hmade | ⟨_, _, _, rfl⟩
      · cases (Prod.mk.inj (hmake.symm.trans hmade)).1
      · exact .refl
  refine Ends.bind (Work.ends_ask (fun isDir _ => ?_) fun _ _ => .refl)
  cases isDir with
  | true => exact hrest
  | false => exact Ends.bind (ends_throw .refl)

end Scaffold.Tree.Renderer
