import Mathlib.Tactic.Lemma
import Scaffold.Proofs.FileSystem.Resolving
import Scaffold.Proofs.Tree.Confinement
import Scaffold.Proofs.Tree.FailFast

/-!
# Where a rendering takes entries

Names are rendered like any other text, and what they render to may be any path. Nothing holds a
rendering back in its output but these paths themselves.

* `Destination`: the path to which a rendering takes an entry of the tree, or one that it may make
  there itself.
* `Confined`: all destinations stay in the output.
* `ContainedIn`: nothing has been done outside of the output but that directories were made on the way
  to it.
* `renderTree_containedIn`: a rendering whose destinations are confined is contained in its output,
  whether it succeeds or not.
-/

namespace Scaffold.Tree

open FileSystem Relation

/-- The path at which a file is made, if an event tells of one. -/
def Event.target? : Event → Option Path
  | .rendering _ target | .copying _ target => some target
  | .skipping _ | .usingTemplate _ _ | .wrote _ _ => none

namespace Renderer

variable {r : Renderer} {fs₁ : FileSystem} {src out l : Location} {root output p q : Path}
  {kind : Kind} {n t : String} {e : Entry} {w w' w'' : Workspace} {α β : Type}

/-! ## Where entries are taken -/

/-- An entry of some kind at a location is taken to a path: the tree itself to the output, and every
other entry to the path that its name gives from the destination of its directory. If the output lies
in the tree or around it, this goes for what is made there for another entry, too. -/
inductive Destination (r : Renderer) (fs : FileSystem) (src out : Location) (output : Path) :
    Kind → Location → Path → Prop
  | root : Destination r fs src out output .directory src output
  | entry {l : Location} {p : Path} {n t : String} {e : Entry} :
    Destination r fs src out output .directory l p → fs.get? (l ++ [n]) = some e →
      n ∉ r.conventions.ignoredNames → r.nameOf? e.kind n = some t →
      Destination r fs src out output e.kind (l ++ [n]) (p.join (.ofString t))
  | made {l l' : Location} {p p' : Path} {n t : String} {kind kind' : Kind} :
    Destination r fs src out output .directory l p →
      Destination r fs src out output kind' l' p' → fs.MadeFor out p' kind' (l ++ [n]) kind →
      n ∉ r.conventions.ignoredNames → r.nameOf? kind n = some t →
      Destination r fs src out output kind (l ++ [n]) (p.join (.ofString t))

/-- A tree of directories and files of which every destination stays in the output, where no link
lies. -/
structure Confined (r : Renderer) (fs : FileSystem) (src out : Location) (output : Path) : Prop where
  tree : fs.IsTree src
  no_link : ∀ l target, out <+: l → fs.get? l ≠ some (.link target)
  within : ∀ kind l p, r.Destination fs src out output kind l p → ∃ m, fs.LeadsWithin out p m

/-- Destinations are those of what lies in the tree. -/
lemma Destination.source_below (h : r.Destination fs₁ src out output kind l p) : src <+: l := by
  induction h with
  | root => exact List.prefix_refl src
  | entry _ _ _ _ ih => exact ih.trans (List.prefix_append _ _)
  | made _ _ _ _ _ ih _ => exact ih.trans (List.prefix_append _ _)

/-- Every destination is proper if the output is. -/
lemma Destination.proper (h : r.Destination fs₁ src out output kind l p) (houtput : output.Proper) :
    p.Proper := by
  induction h with
  | root => exact houtput
  | entry _ _ _ _ ih => exact ih.join (Path.proper_ofString _)
  | made _ _ _ _ _ ih _ => exact ih.join (Path.proper_ofString _)

/-- The destinations of a tree can be looked through if the output is apart from it: a list that holds
the tree itself, and with a directory all that lies in it, holds all of them. -/
lemma Destination.mem_of_closed (h : r.Destination fs₁ src out output kind l p)
    {destinations : List (Kind × Location × Path)} (hinside : ¬ src <+: out)
    (haround : ¬ out <+: src) (hroot : (.directory, src, output) ∈ destinations)
    (hentry : ∀ x ∈ fs₁.entries, ∀ y ∈ destinations, y.1 = .directory → x.1.dropLast = y.2.1 →
      ∀ n ∈ x.1.getLast?, ∀ t ∈ r.nameOf? x.2.kind n,
        (x.2.kind, x.1, y.2.2.join (.ofString t)) ∈ destinations) :
    (kind, l, p) ∈ destinations := by
  induction h with
  | root => exact hroot
  | @entry l p n t e _ hget _ hname ih =>
      have hmem := (mem_entries_of_get? hget).resolve_left (by simp)
      exact hentry _ hmem _ ih rfl (by simp) n (by simp) t hname
  | @made l l' p p' n t kind kind' hdestination _ hmade _ _ _ _ =>
      have hbelow := hdestination.source_below.trans (List.prefix_append l [n])
      exact ((List.prefix_or_prefix_of_prefix hbelow hmade.below).elim hinside haround).elim

/-- A tree is confined if a list that holds all its destinations has only paths that go on from the output
and stay in it. -/
lemma Confined.of_closed (destinations : List (Kind × Location × Path)) (htree : fs₁.IsTree src)
    (hlink : ∀ l target, fs₁.get? l ≠ some (.link target))
    (hout : fs₁.find output = .ok (out, .directory)) (hinside : ¬ src <+: out)
    (haround : ¬ out <+: src) (hroot : (.directory, src, output) ∈ destinations)
    (hentry : ∀ x ∈ fs₁.entries, ∀ y ∈ destinations, y.1 = .directory → x.1.dropLast = y.2.1 →
      ∀ n ∈ x.1.getLast?, ∀ t ∈ r.nameOf? x.2.kind n,
        (x.2.kind, x.1, y.2.2.join (.ofString t)) ∈ destinations)
    (hstays : ∀ y ∈ destinations, y.2.2 = output.below (y.2.2.names.drop output.names.length) ∧
      (resolve? [] (y.2.2.names.drop output.names.length)).isSome) :
    r.Confined fs₁ src out output where
  tree := htree
  no_link l target _ := hlink l target
  within := by
    intro kind l p hdestination
    obtain ⟨hp, hsome⟩ := hstays _ (hdestination.mem_of_closed hinside haround hroot hentry)
    obtain ⟨m, hresolve⟩ := Option.isSome_iff_exists.mp hsome
    have hp : p = output.below (p.names.drop output.names.length) := hp
    rw [hp]
    exact ⟨_, leadsWithin_below hout hresolve⟩

/-! ## What a rendering does -/

/-- An entry is made for one of the destinations. -/
def MakesFor (r : Renderer) (fs₁ : FileSystem) (src out : Location) (output : Path)
    (x : Location × Entry) : Prop :=
  ∃ kind l p, r.Destination fs₁ src out output kind l p ∧ fs₁.MadeFor out p kind x.1 x.2.kind

/-- Entries have been made for destinations, and the files that are told of have been written to paths
that stay in the output. -/
structure Proceeds (r : Renderer) (fs₁ : FileSystem) (src out : Location) (output : Path)
    (w w' : Workspace) : Prop where
  gained : ReflTransGen (Gains (r.MakesFor fs₁ src out output)) w.files w'.files
  noted : ∃ new, w'.events = w.events ++ new ∧
    ∀ event ∈ new, ∀ target ∈ event.target?, ∃ m, fs₁.LeadsWithin out target m

/-- Where nothing is made, nothing has to be accounted for. -/
lemma Proceeds.refl (r : Renderer) (fs₁ : FileSystem) (src out : Location) (output : Path)
    (w : Workspace) : r.Proceeds fs₁ src out output w w :=
  ⟨.refl, [], by simp, by simp⟩

/-- One after another, two workspaces proceed as one does. -/
lemma Proceeds.trans (h : r.Proceeds fs₁ src out output w w')
    (h' : r.Proceeds fs₁ src out output w' w'') : r.Proceeds fs₁ src out output w w'' := by
  obtain ⟨hgained, new, hnew, htargets⟩ := h
  obtain ⟨hgained', new', hnew', htargets'⟩ := h'
  refine ⟨hgained.trans hgained', new ++ new', by rw [hnew', hnew, List.append_assoc], ?_⟩
  exact List.forall_mem_append.mpr ⟨htargets, htargets'⟩

/-- Work that does nothing but proceed, whether it succeeds or not. -/
def OnlyProceeds (r : Renderer) (fs₁ : FileSystem) (src out : Location) (output : Path)
    (x : Work α) (w : Workspace) : Prop :=
  Ends x w (fun _ w' => r.Proceeds fs₁ src out output w w')
    (fun _ w' => r.Proceeds fs₁ src out output w w')

/-- Nothing is done. -/
lemma onlyProceeds_pure (a : α) : r.OnlyProceeds fs₁ src out output (pure a) w :=
  ends_pure (.refl r fs₁ src out output w)

/-- Steps in a row proceed if each of them does. -/
lemma OnlyProceeds.bind {x : Work α} {f : α → Work β}
    (hx : r.OnlyProceeds fs₁ src out output x w)
    (hf : ∀ a w', r.Proceeds fs₁ src out output w w' →
      r.OnlyProceeds fs₁ src out output (f a) w') :
    r.OnlyProceeds fs₁ src out output (x >>= f) w :=
  Ends.bind (hx.mono (fun a w' h => (hf a w' h).mono (fun _ _ => h.trans) fun _ _ => h.trans)
    fun _ _ h => h)

/-- A question is asked, and what follows proceeds, whatever the answer is. -/
lemma onlyProceeds_ask {onFailure : Failure → Problem} {question : FileSystem → Except Failure α}
    {f : α → Work β}
    (hf : ∀ a, question w.files = .ok a → r.OnlyProceeds fs₁ src out output (f a) w) :
    r.OnlyProceeds fs₁ src out output (Work.ask onFailure question >>= f) w :=
  Ends.bind (Work.ends_ask hf fun _ _ => .refl r fs₁ src out output w)

/-- What goes on from a result proceeds if it does so for every good one. -/
lemma onlyProceeds_lift {ε : Type} {onError : ε → Problem} {x : Except ε α} {f : α → Work β}
    (hf : ∀ a, x = .ok a → r.OnlyProceeds fs₁ src out output (f a) w) :
    r.OnlyProceeds fs₁ src out output (Work.lift onError x >>= f) w :=
  Ends.bind (Work.ends_lift hf fun _ _ => .refl r fs₁ src out output w)

/-- An event is noted whose target, if it has one, stays in the output. -/
lemma onlyProceeds_note {event : Event}
    (htarget : ∀ target ∈ event.target?, ∃ m, fs₁.LeadsWithin out target m) :
    r.OnlyProceeds fs₁ src out output (Work.note event) w :=
  Work.ends_note ⟨.refl, [event], rfl, by simpa using htarget⟩

/-! ## Between two visits -/

/-- A directory of the tree is where its path says, after a part of the rendering. -/
structure Reached (r : Renderer) (fs₁ : FileSystem) (src out : Location) (output : Path)
    (w : Workspace) (p q : Path) (l : Location) : Prop where
  gained : ReflTransGen (Gains (r.MakesFor fs₁ src out output)) fs₁ w.files
  source : w.files.find p = .ok (l, .directory)
  destination : r.Destination fs₁ src out output .directory l q

/-- A directory that has been reached stays so while a rendering proceeds. -/
lemma Reached.of_proceeds (h : r.Reached fs₁ src out output w p q l)
    (hproceeds : r.Proceeds fs₁ src out output w w') : r.Reached fs₁ src out output w' p q l where
  gained := h.gained.trans hproceeds.gained
  source := find_of_grows (grows_of_gains hproceeds.gained) h.source
  destination := h.destination

section confined

variable (hconfined : r.Confined fs₁ src out output) (houtput : output.Proper)

include hconfined

/-- No link ever lies in the output. -/
lemma Confined.not_link
    (hgained : ReflTransGen (Gains (r.MakesFor fs₁ src out output)) fs₁ w.files)
    (l : Location) (target : String) (hl : out <+: l) : w.files.get? l ≠ some (.link target) :=
  get?_ne_link_of_gains hgained (fun target => hconfined.no_link l target hl) target

/-- Every entry in a directory of the tree, at any time, has a plain name, is no link, and is taken to
the path that its name gives. -/
lemma Reached.entry (h : r.Reached fs₁ src out output w p q l)
    (hget : w.files.get? (l ++ [n]) = some e) (hignored : n ∉ r.conventions.ignoredNames) :
    IsPlainName n ∧ e.kind ≠ .link ∧ ∀ t, r.nameOf? e.kind n = some t →
      r.Destination fs₁ src out output e.kind (l ++ [n]) (q.join (.ofString t)) := by
  have hbelow := h.destination.source_below
  rcases exists_of_gains h.gained hget with hold | ⟨kind, l', p', hdestination, hmade⟩
  · obtain ⟨hname, hkind⟩ := hconfined.tree l n e hbelow hold
    exact ⟨hname, hkind, fun t ht => .entry h.destination hold hignored ht⟩
  · have hlink : ∀ target, fs₁.get? (l ++ [n]) ≠ some (.link target) :=
      fun target hlink => (hconfined.tree l n _ hbelow hlink).2 rfl
    refine ⟨hmade.1 l n rfl, ?_, fun t ht => .made h.destination hdestination hmade hignored ht⟩
    cases e with
    | directory => exact Entry.directory_kind_ne_link
    | file content => exact Entry.file_kind_ne_link content
    | link target => exact absurd hget (get?_ne_link_of_gains h.gained hlink target)

include houtput

/-! ## Steps -/

variable [Host]

/-- A file is written to a destination, as a whole or in part. -/
lemma onlyProceeds_write
    (hgained : ReflTransGen (Gains (r.MakesFor fs₁ src out output)) fs₁ w.files)
    (hdestination : r.Destination fs₁ src out output .file l p) (onFailure : Failure → Problem)
    (content : ByteArray) :
    r.OnlyProceeds fs₁ src out output (Work.attempt onFailure (Host.write · p content)) w := by
  obtain ⟨m, hwithin⟩ := hconfined.within _ _ _ hdestination
  have hproceeds : ∀ bytes fs, w.files.write p bytes = .ok fs →
      r.Proceeds fs₁ src out output w { w with files := fs } := by
    intro bytes fs hwrite
    have hgains := gains_of_write (grows_of_gains hgained) (hconfined.not_link hgained)
      (hdestination.proper houtput) hwithin hwrite
    refine ⟨gains_mono (fun x hx => ?_) (.single hgains), [], by simp, by simp⟩
    exact ⟨_, _, _, hdestination, hx⟩
  exact Work.ends_write (hproceeds content) (fun _ _ => .refl r fs₁ src out output w)
    fun k _ fs _ hwrite => hproceeds _ fs hwrite

/-- A directory is made at a destination, with those above it. -/
lemma onlyProceeds_makeDirectories
    (hgained : ReflTransGen (Gains (r.MakesFor fs₁ src out output)) fs₁ w.files)
    (hdestination : r.Destination fs₁ src out output .directory l p) :
    r.OnlyProceeds fs₁ src out output (Work.makeDirectories p) w := by
  obtain ⟨m, hwithin⟩ := hconfined.within _ _ _ hdestination
  have hproceeds : ∀ outcome fs, w.files.makeDirectories true p = (outcome, fs) →
      r.Proceeds fs₁ src out output w { w with files := fs } := by
    intro outcome fs hmake
    have hgains := gains_of_makeDirectories (grows_of_gains hgained) (hconfined.not_link hgained)
      (hdestination.proper houtput) hwithin hmake
    refine ⟨gains_mono (fun x hx => ?_) hgains, [], by simp, by simp⟩
    exact ⟨_, _, _, hdestination, hx⟩
  have hhosted : ∀ outcome fs, Host.makeDirectories w.files true p = (outcome, fs) →
      r.Proceeds fs₁ src out output w { w with files := fs } := by
    intro outcome fs hmake
    rcases Host.makeDirectories_cases hmake with hmake | ⟨_, _, _, rfl⟩
    · exact hproceeds outcome fs hmake
    · exact .refl r fs₁ src out output w
  exact Work.ends_attempt (fun fs hmake => hhosted _ fs hmake) fun f fs hmake => hhosted _ fs hmake

variable {descend : Path → Path → Work (List Path)}

/-- A file is rendered or copied to its destination. -/
lemma onlyProceeds_visitFile (h : r.Reached fs₁ src out output w p q l)
    (hdestination : ∀ t, r.nameOf? .file n = some t →
      r.Destination fs₁ src out output .file (l ++ [n]) (q.join (.ofString t))) :
    r.OnlyProceeds fs₁ src out output (r.visitFile p q n) w := by
  simp only [visitFile]
  refine onlyProceeds_lift fun x hfile => ?_
  obtain ⟨t, isTemplate⟩ := x
  have hgives : r.nameOf? .file n = some t := by
    simp only [nameOf?, hfile]
    rfl
  have htarget := hdestination t hgives
  have hwithin := hconfined.within _ _ _ htarget
  cases isTemplate with
  | true =>
      refine (onlyProceeds_note (by simpa [Event.target?] using hwithin)).bind fun _ w' hnoted => ?_
      have hgained := h.gained.trans hnoted.gained
      refine OnlyProceeds.bind ?_ fun _ _ _ => onlyProceeds_pure _
      unfold renderFile Work.readTemplate Work.writeText
      rw [bind_assoc]
      refine onlyProceeds_ask fun content _ => ?_
      refine onlyProceeds_lift fun template _ => ?_
      refine onlyProceeds_lift fun text _ => ?_
      refine onlyProceeds_lift fun bytes _ => ?_
      exact onlyProceeds_write hconfined houtput hgained htarget _ _
  | false =>
      refine (onlyProceeds_note (by simpa [Event.target?] using hwithin)).bind fun _ w' hnoted => ?_
      have hgained := h.gained.trans hnoted.gained
      refine OnlyProceeds.bind ?_ fun _ _ _ => onlyProceeds_pure _
      unfold Work.copy
      refine onlyProceeds_ask fun same _ => ?_
      cases same with
      | true => exact Ends.bind (ends_throw (.refl r fs₁ src out output w'))
      | false =>
          simp only [Bool.false_eq_true, if_false]
          refine onlyProceeds_ask fun content _ => ?_
          exact onlyProceeds_write hconfined houtput hgained htarget _ _

/-- An entry is taken to its destination, with what lies below it. -/
lemma onlyProceeds_visit (h : r.Reached fs₁ src out output w p q l)
    (hsome : (w.files.get? (l ++ [n])).isSome)
    (hdescend : ∀ w' t, r.Reached fs₁ src out output w' (p.child n) (q.join (.ofString t))
        (l ++ [n]) →
      r.OnlyProceeds fs₁ src out output (descend (p.child n) (q.join (.ofString t))) w') :
    r.OnlyProceeds fs₁ src out output (r.visit descend p q n) w := by
  by_cases hignored : n ∈ r.conventions.ignoredNames
  · simp only [visit, if_pos hignored]
    refine (onlyProceeds_note ?_).bind fun _ _ _ => onlyProceeds_pure _
    simp [Event.target?]
  simp only [visit, if_neg hignored]
  refine onlyProceeds_ask fun isDir hdir => ?_
  obtain ⟨e, hget⟩ := Option.isSome_iff_exists.mp hsome
  obtain ⟨hname, hkind, hdestination⟩ := h.entry hconfined hget hignored
  obtain ⟨hsource, rfl⟩ := find_child_of_isDirectory h.source hname hget hkind (Host.isDirectory_eq_ok hdir)
  cases e with
  | link target => exact absurd rfl hkind
  | file content =>
      simp only [reduceCtorEq, decide_false, Bool.false_eq_true, if_false]
      exact onlyProceeds_visitFile hconfined houtput h hdestination
  | directory =>
      simp only [decide_true, if_true]
      refine onlyProceeds_lift fun t hdirectory => ?_
      have hgives : r.nameOf? .directory n = some t := by
        simp only [nameOf?, hdirectory]
        rfl
      have htarget := hdestination t hgives
      refine (onlyProceeds_makeDirectories hconfined houtput h.gained htarget).bind ?_
      intro _ w' hmade
      exact hdescend w' t
        ⟨h.gained.trans hmade.gained, find_of_grows (grows_of_gains hmade.gained) hsource, htarget⟩

/-- A directory is rendered into its destination. -/
lemma onlyProceeds_renderDirectory (depth : Nat) (h : r.Reached fs₁ src out output w p q l) :
    r.OnlyProceeds fs₁ src out output (r.renderDirectory depth p q) w := by
  -- the directories below the one that is rendered are rendered to a smaller depth
  induction depth generalizing w p q l with
  | zero => exact ends_throw (.refl r fs₁ src out output w)
  | succ depth ih =>
      refine ends_renderDirectory_of_listed h.source (fun _ _ _ => .refl r fs₁ src out output w) ?_
      refine ends_visitAll_of_invariant (I := fun w' => r.Proceeds fs₁ src out output w w') ?_
        (.refl r fs₁ src out output w)
      intro n hn w' hproceeds
      have hsome : (w'.files.get? (l ++ [n])).isSome := by
        obtain ⟨e, hget⟩ := Option.isSome_iff_exists.mp (mem_children.mp hn)
        obtain ⟨e', hget', -⟩ := kind_of_gains hproceeds.gained hget
        rw [hget']
        rfl
      have hvisit : r.OnlyProceeds fs₁ src out output (r.visit (r.renderDirectory depth) p q n) w' :=
        onlyProceeds_visit hconfined houtput (h.of_proceeds hproceeds) hsome
          fun w'' t hreached => ih hreached
      exact hvisit.mono (fun _ _ => hproceeds.trans) fun _ _ => hproceeds.trans

end confined

/-! ## What is done outside of the output -/

/-- A location is that of the directory that a path leads to, or lies below it. -/
def AtOrBelow (fs : FileSystem) (p : Path) (l : Location) : Prop :=
  ∃ out, fs.find p = .ok (out, .directory) ∧ out <+: l

/-- All that has changed lies at or below the output, but that directories may have been made on the
way to it. Every file that has been written lies at or below the output. -/
structure ContainedIn (output : Path) (w w' : Workspace) : Prop where
  changed : ∀ l, w'.files.get? l ≠ w.files.get? l → AtOrBelow w'.files output l ∨
    w.files.get? l = none ∧ w'.files.get? l = some .directory ∧
      ∃ q, Passes output q ∧ w'.files.find q = .ok (l, .directory)
  written : ∃ new, w'.events = w.events ++ new ∧ ∀ event ∈ new, ∀ target ∈ event.target?,
    ∀ l e, w'.files.find target = .ok (l, e) → AtOrBelow w'.files output l

/-- Nothing has changed, so nothing outside has. -/
lemma ContainedIn.refl (output : Path) (w : Workspace) : ContainedIn output w w where
  changed l hl := absurd rfl hl
  written := ⟨[], by simp, by simp⟩

/-- Making the output is contained in it. -/
lemma containedIn_of_prepares {fs : FileSystem} {made : List Location}
    (h : Prepares w.files output fs made) : ContainedIn output w { w with files := fs } where
  changed := by
    intro l hl
    have hmem : l ∈ made := Decidable.byContradiction fun hnot => hl (h.get?_of_notMem hnot)
    exact .inr ⟨h.new l hmem, h.get?_of_mem hmem, h.passed l hmem⟩
  written := ⟨[], by simp, by simp⟩

/-- Making the output and then proceeding in it is contained in it. -/
lemma containedIn_of_proceeds {made : List Location} (hprepares : Prepares w.files output fs₁ made)
    (hout : fs₁.find output = .ok (out, .directory))
    (hlinks : ∀ l target, out <+: l → fs₁.get? l ≠ some (.link target))
    (h : r.Proceeds fs₁ src out output { w with files := fs₁ } w') : ContainedIn output w w' where
  changed := by
    intro l hl
    have hgrows := grows_of_gains h.gained
    by_cases hmem : l ∈ made
    · obtain ⟨q, hpasses, hfind⟩ := hprepares.passed l hmem
      exact .inr ⟨hprepares.new l hmem, hgrows.directory l (hprepares.get?_of_mem hmem), q, hpasses,
        find_of_grows hgrows hfind⟩
    · rw [← hprepares.get?_of_notMem hmem] at hl
      refine .inl ⟨out, find_of_grows hgrows hout, Decidable.byContradiction fun hnot => hl ?_⟩
      refine get?_of_gains h.gained ?_
      rintro x ⟨kind, l', p, -, hmade⟩ rfl
      exact hnot hmade.below
  written := by
    obtain ⟨new, hnew, htargets⟩ := h.noted
    refine ⟨new, hnew, fun event hevent target htarget l e hfind => ?_⟩
    obtain ⟨m, hwithin⟩ := htargets event hevent target htarget
    have hgrows := grows_of_gains h.gained
    have hl : l = m := eq_of_find_of_within
      (fun l target hl => get?_ne_link_of_gains h.gained (fun target => hlinks l target hl) target)
      (hwithin.of_grows hgrows) hfind
    exact ⟨out, find_of_grows hgrows hout, hl ▸ hwithin.below⟩

/-- **A rendering stays in its output.** Once the output directory is there, let the tree be one of
directories and files, let no link lie at or below the output, and let all destinations stay in it.
Then everything that a rendering creates or overwrites lies at or below the output, whether it succeeds
or not and on every host, but for directories that are made on the way to the output. -/
theorem renderTree_containedIn [Host] (r : Renderer) (root output : Path) (w : Workspace)
    (houtput : output.Proper)
    (hconfined : ∀ src fs₁ out, w.files.find root = .ok (src, .directory) →
      w.files.makeDirectories true output = (.ok (), fs₁) →
      fs₁.find output = .ok (out, .directory) → r.Confined fs₁ src out output) :
    Ends (r.renderTree root output) w (fun _ w' => ContainedIn output w w')
      (fun _ w' => ContainedIn output w w') := by
  refine Ends.bind (Work.ends_ask (fun isDir hdir => ?_) fun _ _ => .refl output w)
  cases isDir with
  | false => exact Ends.bind (ends_throw (.refl output w))
  | true =>
      obtain ⟨src, hroot⟩ := find_of_isDirectory (Host.isDirectory_eq_ok hdir)
      refine Ends.bind (Work.ends_attempt (fun fs₁ hmade => ?_) fun f fs hmade => ?_)
      · have hmade := Host.makeDirectories_eq_ok hmade
        obtain ⟨made, hprepares⟩ := makeDirectories_prepares hmade
        obtain ⟨out, hout⟩ := find_of_makeDirectories hmade
        have hall := hconfined src fs₁ out hroot hmade hout
        have hreached : r.Reached fs₁ src out output { w with files := fs₁ } root output src :=
          ⟨.refl, find_of_grows hprepares.grows hroot, .root⟩
        have hcontained : ∀ w', r.Proceeds fs₁ src out output { w with files := fs₁ } w' →
            ContainedIn output w w' :=
          fun w' => containedIn_of_proceeds hprepares hout hall.no_link
        exact (onlyProceeds_renderDirectory hall houtput pathLimit hreached).mono
          (fun _ => hcontained) fun _ => hcontained
      · rcases Host.makeDirectories_cases hmade with hmade | ⟨_, _, _, rfl⟩
        · obtain ⟨made, hprepares⟩ := makeDirectories_prepares hmade
          exact containedIn_of_prepares hprepares
        · exact .refl output w

/-! ## Winding and climbing names -/

/-- A directory whose name leads down by two names, with a file whose name leads back by one. -/
def windingFiles : FileSystem where
  entries := [(["t"], .directory), (["t", "\x7b% d %\x7d"], .directory),
    (["t", "\x7b% d %\x7d", "\x7b% u %\x7d"], .file "1".toByteArray), (["o"], .directory)]

/-- The bindings for `windingFiles`. -/
def windingRenderer : Renderer where
  bindings := ⟨[("d", "a/b"), ("u", "../c")]⟩

/-- The destinations of `windingFiles`. -/
def windingDestinations : List (Kind × Location × Path) :=
  [(.directory, ["t"], ⟨.root, ["o"]⟩),
    (.directory, ["t", "\x7b% d %\x7d"], ⟨.root, ["o", "a", "b"]⟩),
    (.file, ["t", "\x7b% d %\x7d", "\x7b% u %\x7d"], ⟨.root, ["o", "a", "b", "..", "c"]⟩)]

/-- The name that leads back stays in the directory all the same. -/
lemma windingFiles_confined :
    windingRenderer.Confined windingFiles ["t"] ["o"] ⟨.root, ["o"]⟩ := by
  have htree : windingFiles.IsTree ["t"] :=
    (plainNames_of_entries (r := {}) (by decide +kernel)).tree
  exact .of_closed windingDestinations htree (get?_ne_link (by decide)) rfl
    (by decide) (by decide) (by decide) (by decide +kernel) (by decide)

/-- A file goes up from its directory, and not out of the output. -/
theorem renderTree_containedIn_winding :
    ∃ paths w', (windingRenderer.renderTree ⟨.root, ["t"]⟩ ⟨.root, ["o"]⟩).run ⟨windingFiles, []⟩ =
        .ok paths w' ∧
      w'.files.get? ["o", "a", "c"] = some (.file "1".toByteArray) ∧
      ContainedIn ⟨.root, ["o"]⟩ ⟨windingFiles, []⟩ w' := by
  have hends : Ends (windingRenderer.renderTree ⟨.root, ["t"]⟩ ⟨.root, ["o"]⟩) ⟨windingFiles, []⟩
      (fun _ w' => w'.files.get? ["o", "a", "c"] = some (.file "1".toByteArray))
      fun _ _ => False := by decide +kernel
  have hroot : windingFiles.find ⟨.root, ["t"]⟩ = .ok (["t"], .directory) := rfl
  have hout : windingFiles.find ⟨.root, ["o"]⟩ = .ok (["o"], .directory) := rfl
  obtain ⟨paths, w', hrun, hwritten⟩ := hends.exists_run_ok
  refine ⟨paths, w', hrun, hwritten, ?_⟩
  refine (renderTree_containedIn windingRenderer _ _ ⟨windingFiles, []⟩ (by decide) ?_).of_run_ok hrun
  intro src fs₁ out hsrc hmade hout'
  obtain rfl : windingFiles = fs₁ :=
    (Prod.mk.inj ((makeDirectories_of_find hout).symm.trans hmade)).2
  obtain rfl := eq_of_find hroot hsrc
  obtain rfl := eq_of_find hout hout'
  exact windingFiles_confined

/-- A file whose name leads out of any directory. -/
def climbingFiles : FileSystem where
  entries := [(["t"], .directory), (["t", "\x7b% n %\x7d"], .file "1".toByteArray),
    (["o"], .directory)]

/-- The bindings for `climbingFiles`. -/
def climbingRenderer : Renderer where
  bindings := ⟨[("n", "../x")]⟩

/-- A rendering of a tree of directories and files into a directory without links need not stay in
that directory. -/
theorem not_containedIn_of_climbing_name :
    ¬ ∀ (r : Renderer) (root output : Path) (w : Workspace), w.files.Rooted → output.Proper →
      (∀ src fs₁ out, w.files.find root = .ok (src, .directory) →
        w.files.makeDirectories true output = (.ok (), fs₁) →
        fs₁.find output = .ok (out, .directory) →
        fs₁.IsTree src ∧ ∀ l target, fs₁.get? l ≠ some (.link target)) →
      Ends (r.renderTree root output) w (fun _ w' => ContainedIn output w w')
        fun _ w' => ContainedIn output w w' := by
  intro hcontained
  have hends : Ends (climbingRenderer.renderTree ⟨.root, ["t"]⟩ ⟨.root, ["o"]⟩) ⟨climbingFiles, []⟩
      (fun _ w' => w'.files = climbingFiles.put ["x"] (.file "1".toByteArray)) fun _ _ => False := by
    decide +kernel
  have hroot : climbingFiles.find ⟨.root, ["t"]⟩ = .ok (["t"], .directory) := rfl
  have hout : climbingFiles.find ⟨.root, ["o"]⟩ = .ok (["o"], .directory) := rfl
  obtain ⟨paths, w', hrun, hfiles⟩ := hends.exists_run_ok
  have hgeneral := hcontained climbingRenderer ⟨.root, ["t"]⟩ ⟨.root, ["o"]⟩ ⟨climbingFiles, []⟩
    (rooted_of_entries (by decide)) (by decide) (by
      intro src fs₁ out hsrc hmade _
      obtain rfl : climbingFiles = fs₁ :=
        (Prod.mk.inj ((makeDirectories_of_find hout).symm.trans hmade)).2
      obtain rfl := eq_of_find hroot hsrc
      exact ⟨(plainNames_of_entries (r := {}) (by decide +kernel)).tree, get?_ne_link (by decide)⟩)
  have hwritten : w'.files.get? ["x"] = some (.file "1".toByteArray) := by
    rw [hfiles]
    rfl
  have hout' : w'.files.find ⟨.root, ["o"]⟩ = .ok (["o"], .directory) := by
    rw [hfiles]
    rfl
  have hchanged : w'.files.get? ["x"] ≠ climbingFiles.get? ["x"] := by
    rw [hwritten]
    decide
  rcases (hgeneral.of_run_ok hrun).changed _ hchanged with ⟨out, hfind, hbelow⟩ | ⟨-, hdir, -⟩
  · obtain rfl := eq_of_find hout' hfind
    exact absurd hbelow (by decide)
  · rw [hwritten] at hdir
    cases hdir

end Renderer

end Scaffold.Tree
