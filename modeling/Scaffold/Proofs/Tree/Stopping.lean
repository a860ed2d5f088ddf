import Mathlib.Tactic.Lemma
import Scaffold.Proofs.Ending
import Scaffold.Proofs.FileSystem.Outcome
import Scaffold.Proofs.Tree.Visiting

/-!
# Visits that may stop a rendering

Nothing is assumed here of what the entries of a tree render to, but that the names are plain. Then
every visit leaves what it is said to leave, or stops the rendering. It then leaves nothing, whatever the
host refuses, unless the host breaks off the writing of a file.

* `Work.ends_ask`, `Work.ends_attempt`, `Work.ends_write`: how the steps of the work end.
* `Made`: some visits have been made, one after the other. `Made.eq_overlay` says that this lays down
  what they leave.
* `Possible`: a visit that can be made.
* `StopsIn`: the first visits of a list have been made; `Halts` says why the next one has not.
* `Underway`: what holds between two visits. `Underway.of_made` says that it goes on holding.
* `ends_visitAll`: the entries of a directory are all visited, or the first of them.
-/

namespace Scaffold.Tree

open FileSystem

/-! ## Steps of the work -/

namespace Work

variable {α : Type} {w : Workspace} {Q : α → Workspace → Prop} {U : Unit → Workspace → Prop}
  {R : Problem → Workspace → Prop} {onFailure : Failure → Problem}

/-- Telling of something ends with it told. -/
lemma ends_note {e : Event} (h : U () { w with events := w.events ++ [e] }) :
    Ends (note e) w U R :=
  ends_modify h

/-- The files are set. -/
lemma ends_setFiles {fs : FileSystem} (h : U () { w with files := fs }) :
    Ends (setFiles fs) w U R :=
  ends_modify h

/-- A question ends with its answer or what its failure becomes, and changes nothing. -/
lemma ends_ask {question : FileSystem → Except Failure α}
    (hok : ∀ a, question w.files = .ok a → Q a w)
    (herror : ∀ f, question w.files = .error f → R (onFailure f) w) :
    Ends (ask onFailure question) w Q R := by
  refine (ends_get ?_).bind
  cases hquestion : question w.files with
  | ok a => exact ends_pure (hok a hquestion)
  | error f => exact ends_throw (herror f hquestion)

/-- An action ends with the files as it leaves them, whether it succeeds or fails. -/
lemma ends_attempt {action : FileSystem → Except Failure Unit × FileSystem}
    (hok : ∀ fs, action w.files = (.ok (), fs) → U () { w with files := fs })
    (herror : ∀ f fs, action w.files = (.error f, fs) → R (onFailure f) { w with files := fs }) :
    Ends (attempt onFailure action) w U R := by
  refine (ends_get ?_).bind
  cases haction : action w.files with
  | mk outcome fs =>
      cases outcome with
      | ok u => exact Ends.bind (ends_setFiles (ends_pure (hok fs haction)))
      | error f => exact Ends.bind (ends_setFiles (ends_throw (herror f fs haction)))

/-- A result ends as it is, and changes nothing. -/
lemma ends_lift {ε : Type} {onError : ε → Problem} {x : Except ε α}
    (hok : ∀ a, x = .ok a → Q a w) (herror : ∀ e, x = .error e → R (onError e) w) :
    Ends (lift onError x) w Q R := by
  cases x with
  | ok a => exact ends_pure (hok a rfl)
  | error e => exact ends_throw (herror e rfl)

/-- A file is written; or it is not opened; or the writing is broken off, and a part of the content is
there. -/
lemma ends_write [Host] {p : Path} {content : ByteArray}
    (hok : ∀ fs, w.files.write p content = .ok fs → U () { w with files := fs })
    (hopen : ∀ f, Host.openFile w.files p = .error f → R (onFailure f) w)
    (hbreaks : ∀ k x fs, Host.CutsOff w.files p content k x →
      w.files.write p (content.extract 0 k) = .ok fs →
      R (onFailure x.onOpenFile) { w with files := fs }) :
    Ends (attempt onFailure (Host.write · p content)) w U R := by
  refine ends_attempt (fun fs hwrite => ?_) fun f fs hwrite => ?_
  · rcases Host.write_cases hwrite with ⟨_, -, h, -⟩ | ⟨-, hfs⟩ | ⟨k, x, -, h, -⟩
    · cases h
    · exact hok fs hfs
    · cases h
  · rcases Host.write_cases hwrite with ⟨f', hf, h, rfl⟩ | ⟨h, -⟩ | ⟨k, x, hcut, h, hfs⟩
    · obtain rfl := Except.error.inj h
      exact hopen f hf
    · cases h
    · obtain rfl := Except.error.inj h
      exact hbreaks k x fs hcut hfs

/-- On the ample host a file is written, or nothing changes. -/
lemma ends_write_ample {p : Path} {content : ByteArray}
    (hok : ∀ fs, w.files.write p content = .ok fs → U () { w with files := fs })
    (herror : ∀ f, w.files.write p content = .error f → R (onFailure f) w) :
    Ends (attempt onFailure (Host.write · p content)) w U R := by
  refine ends_write hok (fun f hopen => herror f ?_) fun k x fs hcut _ => (Host.not_cutsOff_ample hcut).elim
  exact (Host.openFile_eq_error hopen content).resolve_left nofun

/-- On the ample host directories are made, or made in part, as the files say. -/
lemma ends_makeDirectories_ample {p : Path}
    (hok : ∀ fs, w.files.makeDirectories true p = (.ok (), fs) → U () { w with files := fs })
    (herror : ∀ f fs, w.files.makeDirectories true p = (.error f, fs) →
      R (.ofFailure .createDirectory p f) { w with files := fs }) :
    Ends (makeDirectories p) w U R :=
  ends_attempt hok herror

end Work

namespace Renderer

/-! ## Visits that are made -/

variable {r : Renderer} {fs fs' fs'' : FileSystem} {root output : Path} {src out : Location}
  {above places : List String} {n t : String} {v : Visit} {us vs : List Visit} {rest : Forest}
  {content : ByteArray}

/-- Some visits have been made, one after the other: each has laid down what it leaves, where nothing
of another kind was. -/
inductive Made (r : Renderer) (out : Location) : FileSystem → List Visit → FileSystem → Prop
  | nil (fs : FileSystem) : Made r out fs [] fs
  | cons {fs fs' : FileSystem} {v : Visit} {vs : List Visit} {x : Location × Entry} :
    r.deposit? out v = some x → fs.Takes [x] → Made r out (fs.deposit x) vs fs' →
      Made r out fs (v :: vs) fs'

/-- Visits that are made one after another are made together. -/
lemma Made.append (h : Made r out fs us fs') (h' : Made r out fs' vs fs'') :
    Made r out fs (us ++ vs) fs'' := by
  induction h with
  | nil => exact h'
  | cons hx htakes _ ih => exact .cons hx htakes (ih h')

/-- Visits that have been made have laid down what they leave. -/
lemma Made.eq_overlay (h : Made r out fs vs fs') : fs' = fs.overlay (r.deposits out vs) := by
  induction h with
  | nil => rfl
  | cons hx _ _ ih => rw [deposits, List.filterMap_cons_some hx, overlay_cons, ih, deposits]

/-- A visit that has been made gives a plain place, if all names are plain, and leaves something. -/
lemma Made.exists_of_mem (h : Made r out fs vs fs') (hv : v ∈ vs) :
    ∃ place e, r.place? v = some place ∧ r.product? v = some e := by
  induction h with
  | nil => cases hv
  | cons hx _ _ ih =>
      rcases List.mem_cons.mp hv with rfl | hv
      · simp only [deposit?, Option.bind_eq_bind, Option.bind_eq_some_iff, Option.pure_def,
          Option.some.injEq] at hx
        obtain ⟨place, hplace, e, he, -⟩ := hx
        exact ⟨place, e, hplace, he⟩
      · exact ih hv

/-- Directories and links stay where they are when visits are made. -/
lemma Made.grows (h : Made r out fs vs fs') : Grows fs fs' := by
  induction h with
  | nil fs => exact .refl fs
  | cons _ htakes _ ih => exact (htakes.grows_deposit List.mem_cons_self).trans ih

/-- No link is new after visits have been made. -/
lemma Made.not_link (h : Made r out fs vs fs') {l : Location}
    (hl : ∀ target, fs.get? l ≠ some (.link target)) (target : String) :
    fs'.get? l ≠ some (.link target) := by
  induction h with
  | nil => exact hl target
  | @cons fs fs' v vs x _ htakes _ ih =>
      refine ih fun target' hget => ?_
      by_cases hlx : l = x.1
      · subst hlx
        rw [get?_deposit_self (htakes.not_root x List.mem_cons_self), Option.some.injEq] at hget
        exact htakes.no_link x List.mem_cons_self (by rw [hget]; rfl)
      · rw [get?_deposit_of_ne hlx] at hget
        exact hl target' hget

/-- What lies outside the output is the same after visits have been made. -/
lemma Made.sameBelow (h : Made r out fs vs fs') (houtside : ∀ place, ¬ src <+: out ++ place) :
    SameBelow fs fs' src := by
  rw [h.eq_overlay]
  refine sameBelow_overlay fun x hx => ?_
  obtain ⟨v, -, hvx⟩ := List.mem_filterMap.mp hx
  simp only [deposit?, Option.bind_eq_bind, Option.bind_eq_some_iff, Option.pure_def,
    Option.some.injEq] at hvx
  obtain ⟨place, -, e, -, rfl⟩ := hvx
  exact houtside place

/-! ## Visits that cannot be made -/

section Halting

variable [Host]

/-- The host refuses what a visit needs: a call on the entry of the tree or on what is made from it, or
the encoding of the text that a template renders to. -/
inductive Refused (r : Renderer) (root output : Path) (fs : FileSystem) (v : Visit) : Prop
  | source {call : Call} {x : Refusal} :
    Host.refuses call fs (root.below (v.above ++ [v.name])) = some x → Refused r root output fs v
  | target {call : Call} {x : Refusal} {place : Location} : r.place? v = some place →
    Host.refuses call fs (output.below place) = some x → Refused r root output fs v
  | text {content : ByteArray} {template text reason : String} : v.content = some content →
    Text.Utf8.decode content = .ok template → r.renderText template = .ok text →
    Host.unencodable text = some reason → Refused r root output fs v

/-- A visit can be made: all that it needs renders, its paths are within the limits of the system,
nothing of another kind is in its place, and the host refuses nothing that it needs. -/
def Possible (r : Renderer) (root output : Path) (out : Location) (fs : FileSystem)
    (v : Visit) : Prop :=
  ¬ Refused r root output fs v ∧ ∃ place e, r.Suits root output v place e ∧
    ∀ e', fs.get? (out ++ place) = some e' → e'.kind = v.kind

/-- Why no visit is made after the first ones of a list, with the files as those have left them, and how
the files are then. -/
inductive Halts (r : Renderer) (root output : Path) (out : Location) (fs : FileSystem) :
    List Visit → List Visit → FileSystem → Prop
  /-- The next visit cannot be made. -/
  | entry {before after : List Visit} {v : Visit} : ¬ Possible r root output out fs v →
    Halts r root output out fs before (v :: after) fs
  /-- The directory that was visited last cannot be listed. -/
  | listing {before after : List Visit} {v : Visit} {x : Refusal} : v.content = none →
    Host.refuses .list fs (root.below (v.above ++ [v.name])) = some x →
    Halts r root output out fs (before ++ [v]) after fs
  /-- The file of the next visit has been opened, and its writing is broken off. -/
  | part {before after : List Visit} {v : Visit} {place : Location} {content : ByteArray} {k : Nat}
    {x : Refusal} : r.place? v = some place → r.product? v = some (.file content) →
    Host.CutsOff fs (output.below place) content k x →
    Halts r root output out fs before (v :: after)
      (fs.deposit (out ++ place, .file (content.extract 0 k)))

/-- The first visits of a list have been made, and no other one. -/
def StopsIn (r : Renderer) (root output : Path) (out : Location) (fs : FileSystem)
    (vs : List Visit) (fs' : FileSystem) : Prop :=
  ∃ before after fs₁, vs = before ++ after ∧ Made r out fs before fs₁ ∧
    Halts r root output out fs₁ before after fs'

/-- No visit is made if the first cannot be. -/
lemma stopsIn_of_not_possible (h : ¬ Possible r root output out fs v) (vs : List Visit) :
    StopsIn r root output out fs (v :: vs) fs :=
  ⟨[], v :: vs, fs, rfl, .nil fs, .entry h⟩

/-- The reason stays when more visits have been made before. -/
lemma Halts.append_left {before after : List Visit}
    (h : Halts r root output out fs before after fs') (us : List Visit) :
    Halts r root output out fs (us ++ before) after fs' := by
  cases h with
  | entry h => exact .entry h
  | listing hv h =>
      rw [← List.append_assoc]
      exact .listing hv h
  | part hplace hproduct hcut => exact .part hplace hproduct hcut

/-- The reason stays when more visits were to come. -/
lemma Halts.append_right {before after : List Visit}
    (h : Halts r root output out fs before after fs') (vs : List Visit) :
    Halts r root output out fs before (after ++ vs) fs' := by
  cases h with
  | entry h => exact .entry h
  | listing hv h => exact .listing hv h
  | part hplace hproduct hcut => exact .part hplace hproduct hcut

/-- What stops in some visits stops in those and more. -/
lemma StopsIn.append (h : StopsIn r root output out fs us fs') (vs : List Visit) :
    StopsIn r root output out fs (us ++ vs) fs' := by
  obtain ⟨before, after, fs₁, rfl, hmade, hhalts⟩ := h
  exact ⟨before, after ++ vs, fs₁, by simp, hmade, hhalts.append_right vs⟩

/-- Visits may be made before others in which it stops. -/
lemma Made.stopsIn_append (h : Made r out fs us fs') (h' : StopsIn r root output out fs' vs fs'') :
    StopsIn r root output out fs (us ++ vs) fs'' := by
  obtain ⟨before, after, fs₁, rfl, hmade, hhalts⟩ := h'
  exact ⟨us ++ before, after, fs₁, by simp, h.append hmade, hhalts.append_left us⟩

/-- What a visit needs of its entry is permitted if it can be made. -/
lemma Possible.permits_source (h : Possible r root output out fs v) (call : Call) :
    Host.permits call fs (root.below (v.above ++ [v.name])) = .ok () := by
  unfold Host.permits
  split
  · rfl
  · exact absurd (.source ‹_›) h.1

/-- What a visit needs of its place is permitted if it can be made. -/
lemma Possible.permits_target (h : Possible r root output out fs v) (hplace : r.place? v = some places)
    (call : Call) : Host.permits call fs (output.below places) = .ok () := by
  unfold Host.permits
  split
  · rfl
  · exact absurd (.target hplace ‹_›) h.1

end Halting

/-! ## Between two visits -/

/-- Between two visits, a directory of the tree and the one made from it are where their paths say,
the entries that are still to be visited are untouched, and no link lies where one of them leaves
something. -/
structure Underway (r : Renderer) (fs : FileSystem) (root output : Path) (src out : Location)
    (above places : List String) (forest : Forest) : Prop where
  source : fs.find (root.below above) = .ok (src ++ above, .directory)
  target : fs.find (output.below places) = .ok (out ++ places, .directory)
  holds : fs.HoldsEntries (src ++ above) forest
  no_link : ∀ v ∈ forest.visits r.conventions.ignoredNames above, ∀ place,
    r.place? v = some place → ∀ target, fs.get? (out ++ place) ≠ some (.link target)

/-- Visits that are made elsewhere leave everything as it was between two visits. -/
lemma Underway.of_made {forest : Forest}
    (h : Underway r fs root output src out above places forest)
    (houtside : ∀ place, ¬ src <+: out ++ place) (hmade : Made r out fs vs fs') :
    Underway r fs' root output src out above places forest where
  source := find_of_grows hmade.grows h.source
  target := find_of_grows hmade.grows h.target
  holds :=
    holdsEntries_of_sameBelow (hmade.sameBelow houtside) (List.prefix_append src above) h.holds
  no_link v hv place hplace := hmade.not_link (h.no_link v hv place hplace)

/-- A rendering that is under way goes on behind a file. -/
lemma Underway.rest_of_file
    (h : Underway r fs root output src out above places (.file n content rest)) :
    Underway r fs root output src out above places rest where
  source := h.source
  target := h.target
  holds := h.holds.2.2
  no_link v hv := h.no_link v (by
    rw [Forest.visits]
    split
    · exact hv
    · exact List.mem_cons_of_mem _ hv)

/-- A rendering that is under way goes on behind a directory. -/
lemma Underway.rest_of_directory {entries : Forest}
    (h : Underway r fs root output src out above places (.directory n entries rest)) :
    Underway r fs root output src out above places rest where
  source := h.source
  target := h.target
  holds := h.holds.2.2.2.2
  no_link v hv := h.no_link v (by
    rw [Forest.visits]
    split
    · exact hv
    · exact List.mem_cons_of_mem _ (List.mem_append_right _ hv))

/-- The place of a file does not hold a link. -/
lemma Underway.not_link_of_file
    (hunder : Underway r fs root output src out above places (.file n content rest))
    (hignored : n ∉ r.conventions.ignoredNames)
    (hplace : r.place? ⟨above, n, some content⟩ = some (places ++ [t])) (target : String) :
    fs.get? (out ++ places ++ [t]) ≠ some (.link target) := by
  rw [List.append_assoc]
  exact hunder.no_link _ (by simp [Forest.visits, hignored]) _ hplace target

/-! ## One visit -/

/-- Where the name of a visit leads that stands in the directory made last. -/
lemma place?_of_name (habove : r.directoryNames? above = some places)
    (hname : r.targetName? v = some t) (hv : v.above = above) :
    r.place? v = some (places ++ [t]) := by
  simp [place?, hv, habove, hname]

/-- The name of the file made from a file. -/
lemma targetName?_file {isTemplate : Bool} (hname : r.fileName n = .ok (t, isTemplate)) :
    r.targetName? ⟨above, n, some content⟩ = some t := by
  simp only [targetName?, hname]
  rfl

/-- A visit has been made when what it leaves has been laid down at its place. -/
lemma made_of_takes (hplace : r.place? v = some (places ++ [t])) (hproduct : r.product? v = some e)
    (htakes : fs.Takes [(out ++ places ++ [t], e)]) :
    Made r out fs [v] (fs.deposit (out ++ places ++ [t], e)) := by
  refine .cons ?_ htakes (.nil _)
  simp [deposit?, hplace, hproduct]

/-- The path of an entry of the tree leads to it, or is beyond the limits of the system. -/
lemma find_source_cases {forest : Forest} {e : Entry}
    (h : Underway r fs root output src out above places forest) (hname : IsPlainName n)
    (hget : fs.get? (src ++ above ++ [n]) = some e) (hkind : e.kind ≠ .link) :
    (∃ f, fs.isDirectory ((root.below above).child n) = .error f) ∨
      Fits ((root.below above).child n) ∧
        fs.find ((root.below above).child n) = .ok (src ++ above ++ [n], e) := by
  by_cases hfits : Fits ((root.below above).child n)
  · exact .inr ⟨hfits, find_child ⟨h.source, hname, hfits⟩ hget hkind⟩
  · exact .inl ⟨_, isDirectory_child_of_not_fits h.source hname hfits⟩

/-- The directory made from a directory, once it is laid down, is the place of a visit that has been
made, and all is well between the visits of the entries of that directory. -/
lemma Underway.enter {entries : Forest}
    (h : Underway r fs root output src out above places (.directory n entries rest))
    (houtside : ∀ place, ¬ src <+: out ++ place) (hignored : n ∉ r.conventions.ignoredNames)
    (hplace : r.place? ⟨above, n, none⟩ = some (places ++ [t])) (hname : IsPlainName t)
    (hsource : fs.find ((root.below above).child n) = .ok (src ++ above ++ [n], .directory))
    (htarget : Fits ((output.below places).child t))
    (htakes : fs.Takes [(out ++ places ++ [t], .directory)]) :
    Made r out fs [⟨above, n, none⟩] (fs.deposit (out ++ places ++ [t], .directory)) ∧
      Underway r (fs.deposit (out ++ places ++ [t], .directory)) root output src out (above ++ [n])
        (places ++ [t]) entries ∧
      (fs.deposit (out ++ places ++ [t], .directory)).children (src ++ (above ++ [n])) =
        entries.names := by
  obtain ⟨-, hget, hchildren, hentries, -⟩ := h.holds
  have hmade : Made r out fs [⟨above, n, none⟩]
      (fs.deposit (out ++ places ++ [t], .directory)) :=
    made_of_takes hplace (by simp [product?]) htakes
  have hfound := find_child ⟨find_of_grows hmade.grows h.target, hname, htarget⟩
    (get?_deposit_self (htakes.not_root _ List.mem_cons_self)) Entry.directory_kind_ne_link
  have hsame := hmade.sameBelow houtside
  rw [Path.child_below] at hsource hfound
  rw [List.append_assoc] at hchildren hentries hsource
  have hinside : src <+: src ++ (above ++ [n]) := List.prefix_append src (above ++ [n])
  refine ⟨hmade, ⟨find_of_grows hmade.grows hsource, ?_, ?_, ?_⟩, ?_⟩
  · rwa [← List.append_assoc]
  · exact holdsEntries_of_sameBelow hsame hinside hentries
  · intro v hv place hplace
    refine hmade.not_link (h.no_link v ?_ place hplace)
    rw [Forest.visits, if_neg hignored]
    exact List.mem_cons_of_mem _ (List.mem_append_left _ hv)
  · rw [hsame.children _ hinside, hchildren]

section Hosted

variable [Host] {descend : Path → Path → Work (List Path)} {w : Workspace}

/-- The rendering stops in a visit whose writing is broken off. -/
lemma stopsIn_of_cutsOff {bytes : ByteArray} {k : Nat} {x : Refusal}
    (hplace : r.place? v = some (places ++ [t])) (hproduct : r.product? v = some (.file bytes))
    (hcut : Host.CutsOff fs ((output.below places).child t) bytes k x) :
    StopsIn r root output out fs [v]
      (fs.deposit (out ++ places ++ [t], .file (bytes.extract 0 k))) := by
  rw [Path.child_below] at hcut
  rw [List.append_assoc]
  exact ⟨[], [v], fs, rfl, .nil _, .part hplace hproduct hcut⟩

/-- A template file is rendered; or a step before the writing fails and nothing is written; or the
writing is broken off. -/
lemma ends_renderFile {p q : Path} {ls lt : Location}
    (hsource : w.files.find p = .ok (ls, .file content))
    (htarget : w.files.find q = .ok (lt, .directory)) (hname : IsPlainName t)
    (hlink : ∀ target, w.files.get? (lt ++ [t]) ≠ some (.link target)) :
    Ends (r.renderFile p (q.child t)) w
      (fun _ w' => ∃ template text, Text.Utf8.decode content = .ok template ∧
        r.renderText template = .ok text ∧
        w.files.Takes [(lt ++ [t], .file text.toByteArray)] ∧
        w'.files = w.files.deposit (lt ++ [t], .file text.toByteArray))
      (fun _ w' =>
        (w'.files = w.files ∧ ∀ template text l, Host.read w.files p = .ok content →
          Text.Utf8.decode content = .ok template → r.renderText template = .ok text →
          Host.encode text = .ok text.toByteArray → Host.openFile w.files (q.child t) ≠ .ok l) ∨
        ∃ template text k x, Text.Utf8.decode content = .ok template ∧
          r.renderText template = .ok text ∧
          Host.CutsOff w.files (q.child t) text.toByteArray k x ∧
          w.files.Takes [(lt ++ [t], .file (text.toByteArray.extract 0 k))] ∧
          w'.files = w.files.deposit (lt ++ [t], .file (text.toByteArray.extract 0 k))) := by
  unfold renderFile Work.readTemplate Work.writeText
  refine Ends.bind (Ends.bind (Work.ends_ask (fun content' hread => ?_) fun f hf => ?_))
  · have hcontent := Host.read_eq_ok hread
    rw [read_of_find hsource, Except.ok.injEq] at hcontent
    subst hcontent
    refine Work.ends_lift (fun template hdecode => ?_) fun e he => ?_
    · refine Ends.bind (Work.ends_lift (fun text htext => ?_) fun e he => ?_)
      · refine Ends.bind (Work.ends_lift (fun bytes hencode => ?_) fun f hf => ?_)
        · obtain rfl := Host.encode_eq_ok hencode
          have hcases := write_child_cases htarget hname hlink
          refine Work.ends_write (fun fs' hwrite => ?_) (fun f hf => ?_) fun k x fs' hcut hwrite => ?_
          · rcases hcases text.toByteArray with ⟨f, hf⟩ | ⟨hok, htakes⟩
            · cases hf.symm.trans hwrite
            · exact ⟨template, text, hdecode, htext, htakes, Except.ok.inj (hwrite.symm.trans hok)⟩
          · refine .inl ⟨rfl, fun template' text' l _ hdecode' htext' _ hopen => ?_⟩
            cases hf.symm.trans hopen
          · rcases hcases (text.toByteArray.extract 0 k) with ⟨f, hf⟩ | ⟨hok, htakes⟩
            · cases hf.symm.trans hwrite
            · exact .inr ⟨template, text, k, x, hdecode, htext, hcut, htakes,
                Except.ok.inj (hwrite.symm.trans hok)⟩
        · refine .inl ⟨rfl, fun template' text' l _ hdecode' htext' hencode _ => ?_⟩
          obtain rfl : template = template' := Except.ok.inj (hdecode.symm.trans hdecode')
          obtain rfl : text = text' := Except.ok.inj (htext.symm.trans htext')
          cases hf.symm.trans hencode
      · refine .inl ⟨rfl, fun template' text' l _ hdecode' htext' _ _ => ?_⟩
        obtain rfl : template = template' := Except.ok.inj (hdecode.symm.trans hdecode')
        cases he.symm.trans htext'
    · exact .inl ⟨rfl, fun _ _ _ _ hdecode _ _ _ => nomatch he.symm.trans hdecode⟩
  · exact .inl ⟨rfl, fun _ _ _ hread _ _ _ _ => nomatch hf.symm.trans hread⟩

/-- A file is copied; or a step before the writing fails and nothing is written; or the writing is broken
off. -/
lemma ends_copy {p q : Path} {ls lt : Location}
    (hsource : w.files.find p = .ok (ls, .file content))
    (htarget : w.files.find q = .ok (lt, .directory)) (hname : IsPlainName t)
    (hlink : ∀ target, w.files.get? (lt ++ [t]) ≠ some (.link target)) :
    Ends (Work.copy p (q.child t)) w
      (fun _ w' => w.files.Takes [(lt ++ [t], .file content)] ∧
        w'.files = w.files.deposit (lt ++ [t], .file content))
      (fun _ w' =>
        (w'.files = w.files ∧ ∀ l, Host.sameEntry w.files p (q.child t) = .ok false →
          Host.read w.files p = .ok content → Host.openFile w.files (q.child t) ≠ .ok l) ∨
        ∃ k x, Host.CutsOff w.files (q.child t) content k x ∧
          w.files.Takes [(lt ++ [t], .file (content.extract 0 k))] ∧
          w'.files = w.files.deposit (lt ++ [t], .file (content.extract 0 k))) := by
  unfold Work.copy
  refine Ends.bind (Work.ends_ask (fun same hsame => ?_) fun f hf => ?_)
  · cases same with
    | true => exact Ends.bind (ends_throw (.inl ⟨rfl, fun _ h _ _ => nomatch hsame.symm.trans h⟩))
    | false =>
        simp only [Bool.false_eq_true, if_false]
        refine Ends.bind (Work.ends_ask (fun content' hread => ?_) fun f hf => ?_)
        · have hcontent := Host.read_eq_ok hread
          rw [read_of_find hsource, Except.ok.injEq] at hcontent
          subst hcontent
          have hcases := write_child_cases htarget hname hlink
          refine Work.ends_write (fun fs' hwrite => ?_) (fun f hf => ?_) fun k x fs' hcut hwrite => ?_
          · rcases hcases content with ⟨f, hf⟩ | ⟨hok, htakes⟩
            · cases hf.symm.trans hwrite
            · exact ⟨htakes, Except.ok.inj (hwrite.symm.trans hok)⟩
          · exact .inl ⟨rfl, fun l _ _ hopen => nomatch hf.symm.trans hopen⟩
          · rcases hcases (content.extract 0 k) with ⟨f, hf⟩ | ⟨hok, htakes⟩
            · cases hf.symm.trans hwrite
            · exact .inr ⟨k, x, hcut, htakes, Except.ok.inj (hwrite.symm.trans hok)⟩
        · exact .inl ⟨rfl, fun _ _ hread _ => nomatch hf.symm.trans hread⟩
  · exact .inl ⟨rfl, fun _ h _ _ => nomatch hf.symm.trans h⟩

/-- A file that can be visited has a content to leave, where a file can be opened. -/
lemma exists_target_of_possible {isTemplate : Bool}
    (hunder : Underway r fs root output src out above places (.file n content rest))
    (habove : r.directoryNames? above = some places) (hname : r.fileName n = .ok (t, isTemplate))
    (hpossible : Possible r root output out fs ⟨above, n, some content⟩) :
    (∃ bytes, r.content? n content = some bytes) ∧
      fs.Addresses (output.below places) (out ++ places) t ∧
      (∀ e, fs.get? (out ++ places ++ [t]) = some e → e.kind = .file) ∧
      (∀ call, Host.permits call fs ((output.below places).child t) = .ok ()) ∧
      ∃ l, Host.openFile fs ((output.below places).child t) = .ok l := by
  obtain ⟨place, e, hsuits, hkind⟩ := hpossible.2
  obtain ⟨t', _, hname', rfl⟩ := place?_file habove hsuits.place_eq
  obtain ⟨rfl, -⟩ := Prod.mk.inj (Except.ok.inj (hname.symm.trans hname'))
  obtain ⟨bytes, hbytes, -⟩ := Option.map_eq_some_iff.mp hsuits.product_eq
  have htargetFits := hsuits.targetFits
  have hpermits := hpossible.permits_target hsuits.place_eq
  rw [← Path.child_below] at htargetFits hpermits
  rw [← List.append_assoc] at hkind
  have haddress : fs.Addresses (output.below places) (out ++ places) t :=
    ⟨hunder.target, hsuits.plain t (by simp), htargetFits⟩
  exact ⟨⟨bytes, hbytes⟩, haddress, hkind, hpermits,
    Host.exists_openFile_of_permits (hpermits .write) (write_child haddress hkind bytes)⟩

/-- The steps in which a file is copied succeed if it can be visited. -/
lemma exists_copy_of_possible
    (hunder : Underway r fs root output src out above places (.file n content rest))
    (houtside : ∀ place, ¬ src <+: out ++ place) (habove : r.directoryNames? above = some places)
    (hsource : fs.find ((root.below above).child n) = .ok (src ++ above ++ [n], .file content))
    (hname : r.fileName n = .ok (t, false))
    (hpossible : Possible r root output out fs ⟨above, n, some content⟩) :
    Host.sameEntry fs ((root.below above).child n) ((output.below places).child t) = .ok false ∧
      Host.read fs ((root.below above).child n) = .ok content ∧
      ∃ l, Host.openFile fs ((output.below places).child t) = .ok l := by
  obtain ⟨-, haddress, hkind, htarget, hopen⟩ :=
    exists_target_of_possible hunder habove hname hpossible
  have hpermits := hpossible.permits_source
  rw [← Path.child_below] at hpermits
  have hne : src ++ above ++ [n] ≠ out ++ places ++ [t] := by
    intro heq
    refine houtside (places ++ [t]) ?_
    rw [← List.append_assoc, ← heq, List.append_assoc]
    exact List.prefix_append src _
  have hlink : ∀ target, fs.get? (out ++ places ++ [t]) ≠ some (.link target) :=
    fun target hget => nomatch hkind _ hget
  refine ⟨?_, ?_, hopen⟩
  · rw [Host.sameEntry_of_permits (hpermits .status) (htarget .status)]
    exact sameEntry_child hsource haddress hlink hne
  · rw [Host.read_of_permits (hpermits .read)]
    exact read_of_find hsource

/-- The steps in which a template file is rendered succeed if it can be visited. -/
lemma exists_rendering_of_possible
    (hunder : Underway r fs root output src out above places (.file n content rest))
    (habove : r.directoryNames? above = some places)
    (hsource : fs.find ((root.below above).child n) = .ok (src ++ above ++ [n], .file content))
    (hname : r.fileName n = .ok (t, true))
    (hpossible : Possible r root output out fs ⟨above, n, some content⟩) :
    ∃ template text l, Host.read fs ((root.below above).child n) = .ok content ∧
      Text.Utf8.decode content = .ok template ∧ r.renderText template = .ok text ∧
      Host.encode text = .ok text.toByteArray ∧
      Host.openFile fs ((output.below places).child t) = .ok l := by
  obtain ⟨⟨bytes, hbytes⟩, -, -, -, l, hopen⟩ :=
    exists_target_of_possible hunder habove hname hpossible
  have hpermits := hpossible.permits_source
  rw [← Path.child_below] at hpermits
  simp only [content?, hname, Option.bind_eq_bind, Option.pure_def, Option.bind_eq_some_iff,
    Option.some.injEq] at hbytes
  obtain ⟨template, hdecode, text, htext, -⟩ := hbytes
  have hdecode := toOption_eq_some hdecode
  have htext := toOption_eq_some htext
  refine ⟨template, text, l, ?_, hdecode, htext, ?_, hopen⟩
  · rw [Host.read_of_permits (hpermits .read)]
    exact read_of_find hsource
  · cases hencode : Host.encode text with
    | ok bytes => rw [Host.encode_eq_ok hencode]
    | error f =>
        obtain ⟨reason, hreason, -⟩ := Host.encode_eq_error hencode
        exact absurd (.text rfl hdecode htext hreason) hpossible.1

/-- A file of the tree is copied, and then its visit has been made, or the rendering stops. -/
lemma ends_copy_underway
    (hunder : Underway r w.files root output src out above places (.file n content rest))
    (houtside : ∀ place, ¬ src <+: out ++ place) (habove : r.directoryNames? above = some places)
    (hsource : w.files.find ((root.below above).child n) = .ok (src ++ above ++ [n], .file content))
    (hname : r.fileName n = .ok (t, false)) (hplain : IsPlainName t)
    (hlink : ∀ target, w.files.get? (out ++ places ++ [t]) ≠ some (.link target)) :
    Ends (Work.copy ((root.below above).child n) ((output.below places).child t)) w
      (fun _ w' => Made r out w.files [⟨above, n, some content⟩] w'.files)
      (fun _ w' => StopsIn r root output out w.files [⟨above, n, some content⟩] w'.files) := by
  have hplace : r.place? ⟨above, n, some content⟩ = some (places ++ [t]) :=
    place?_of_name habove (targetName?_file hname) rfl
  have hproduct : r.product? ⟨above, n, some content⟩ = some (.file content) := by
    simp [product?, content?, hname]
  refine (ends_copy hsource hunder.target hplain hlink).mono ?_ ?_
  · rintro _ w' ⟨htakes, hfiles⟩
    rw [hfiles]
    exact made_of_takes hplace hproduct htakes
  · rintro _ w' (⟨hfiles, hfails⟩ | ⟨k, x, hcut, -, hfiles⟩)
    · rw [hfiles]
      refine stopsIn_of_not_possible (fun hpossible => ?_) []
      obtain ⟨hsame, hread, l, hopen⟩ :=
        exists_copy_of_possible hunder houtside habove hsource hname hpossible
      exact hfails l hsame hread hopen
    · rw [hfiles]
      exact stopsIn_of_cutsOff hplace hproduct hcut

/-- A template file of the tree is rendered, and then its visit has been made, or the rendering stops. -/
lemma ends_renderFile_underway
    (hunder : Underway r w.files root output src out above places (.file n content rest))
    (habove : r.directoryNames? above = some places)
    (hsource : w.files.find ((root.below above).child n) = .ok (src ++ above ++ [n], .file content))
    (hname : r.fileName n = .ok (t, true)) (hplain : IsPlainName t)
    (hlink : ∀ target, w.files.get? (out ++ places ++ [t]) ≠ some (.link target)) :
    Ends (r.renderFile ((root.below above).child n) ((output.below places).child t)) w
      (fun _ w' => Made r out w.files [⟨above, n, some content⟩] w'.files)
      (fun _ w' => StopsIn r root output out w.files [⟨above, n, some content⟩] w'.files) := by
  have hplace : r.place? ⟨above, n, some content⟩ = some (places ++ [t]) :=
    place?_of_name habove (targetName?_file hname) rfl
  have hproduct : ∀ template text, Text.Utf8.decode content = .ok template →
      r.renderText template = .ok text →
      r.product? ⟨above, n, some content⟩ = some (.file text.toByteArray) := by
    intro template text hdecode htext
    simp [product?, content?, hname, hdecode, htext, Except.toOption]
  refine (ends_renderFile hsource hunder.target hplain hlink).mono ?_ ?_
  · rintro _ w' ⟨template, text, hdecode, htext, htakes, hfiles⟩
    rw [hfiles]
    exact made_of_takes hplace (hproduct template text hdecode htext) htakes
  · rintro _ w' (⟨hfiles, hfails⟩ | ⟨template, text, k, x, hdecode, htext, hcut, -, hfiles⟩)
    · rw [hfiles]
      refine stopsIn_of_not_possible (fun hpossible => ?_) []
      obtain ⟨template, text, l, hread, hdecode, htext, hencode, hopen⟩ :=
        exists_rendering_of_possible hunder habove hsource hname hpossible
      exact hfails template text l hread hdecode htext hencode hopen
    · rw [hfiles]
      exact stopsIn_of_cutsOff hplace (hproduct template text hdecode htext) hcut

/-- A file of the tree is rendered or copied, and then its visit has been made, or the rendering stops. -/
lemma ends_visitFile_underway (h : n ∉ r.conventions.ignoredNames)
    (hunder : Underway r w.files root output src out above places (.file n content rest))
    (houtside : ∀ place, ¬ src <+: out ++ place) (habove : r.directoryNames? above = some places)
    (hsource : w.files.find ((root.below above).child n) = .ok (src ++ above ++ [n], .file content))
    (hplain : ∀ t, r.targetName? ⟨above, n, some content⟩ = some t → IsPlainName t) :
    Ends (r.visitFile (root.below above) (output.below places) n) w
      (fun _ w' => Made r out w.files [⟨above, n, some content⟩] w'.files)
      (fun _ w' => StopsIn r root output out w.files [⟨above, n, some content⟩] w'.files) := by
  unfold visitFile
  refine Ends.bind (Work.ends_lift (fun x hname => ?_) fun e he => ?_)
  · obtain ⟨t, isTemplate⟩ := x
    have ht := hplain t (targetName?_file hname)
    have hlink := hunder.not_link_of_file h (place?_of_name habove (targetName?_file hname) rfl)
    dsimp only
    rw [Path.join_ofString _ ht]
    cases isTemplate with
    | false =>
        refine Ends.bind (Work.ends_note ?_)
        refine Ends.bind (Ends.mono
          (ends_copy_underway hunder houtside habove hsource hname ht hlink) ?_ fun _ _ h => h)
        exact fun _ _ hmade => ends_pure hmade
    | true =>
        refine Ends.bind (Work.ends_note ?_)
        refine Ends.bind (Ends.mono
          (ends_renderFile_underway hunder habove hsource hname ht hlink) ?_ fun _ _ h => h)
        exact fun _ _ hmade => ends_pure hmade
  · refine stopsIn_of_not_possible (fun hpossible => ?_) []
    obtain ⟨place, e', hsuits, -⟩ := hpossible.2
    obtain ⟨t, isTemplate, hname, -⟩ := place?_file habove hsuits.place_eq
    cases he.symm.trans hname

/-- If a file can be visited, the host says that it is no directory. -/
lemma isDirectory_of_possible
    (hunder : Underway r fs root output src out above places (.file n content rest))
    (hpossible : Possible r root output out fs ⟨above, n, some content⟩) :
    Host.isDirectory fs ((root.below above).child n) = .ok false := by
  obtain ⟨hname, hget, -⟩ := hunder.holds
  obtain ⟨place, e, hsuits, -⟩ := hpossible.2
  have hfits := hsuits.sourceFits
  have hpermits := hpossible.permits_source .status
  rw [← Path.child_below] at hfits hpermits
  have hsource := find_child ⟨hunder.source, hname, hfits⟩ hget (Entry.file_kind_ne_link content)
  rw [Host.isDirectory_of_permits hpermits, isDirectory_of_find hsource]
  rfl

/-- The visit of a file leaves what it is said to leave, or the rendering stops. -/
lemma ends_visit_file (h : n ∉ r.conventions.ignoredNames)
    (hunder : Underway r w.files root output src out above places (.file n content rest))
    (houtside : ∀ place, ¬ src <+: out ++ place) (habove : r.directoryNames? above = some places)
    (hplain : ∀ t, r.targetName? ⟨above, n, some content⟩ = some t → IsPlainName t) :
    Ends (r.visit descend (root.below above) (output.below places) n) w
      (fun _ w' => Made r out w.files [⟨above, n, some content⟩] w'.files)
      (fun _ w' => StopsIn r root output out w.files [⟨above, n, some content⟩] w'.files) := by
  obtain ⟨hname, hget, -⟩ := hunder.holds
  simp only [visit, if_neg h]
  refine Ends.bind (Work.ends_ask (fun isDir hdir => ?_) fun f hf => ?_)
  · have hdir := Host.isDirectory_eq_ok hdir
    rcases find_source_cases hunder hname hget (Entry.file_kind_ne_link content) with
      ⟨f, hf⟩ | ⟨-, hsource⟩
    · cases hf.symm.trans hdir
    rw [isDirectory_of_find hsource] at hdir
    obtain rfl : false = isDir := Except.ok.inj hdir
    exact ends_visitFile_underway h hunder houtside habove hsource hplain
  · refine stopsIn_of_not_possible (fun hpossible => ?_) []
    cases hf.symm.trans (isDirectory_of_possible hunder hpossible)

/-- The steps from which the visit of a directory starts succeed if it can be made. -/
lemma exists_steps_of_possible {entries : Forest}
    (hunder : Underway r fs root output src out above places (.directory n entries rest))
    (habove : r.directoryNames? above = some places)
    (hpossible : Possible r root output out fs ⟨above, n, none⟩) :
    Host.isDirectory fs ((root.below above).child n) = .ok true ∧ ∃ t, r.directoryName n = .ok t ∧
      Host.makeDirectories fs true ((output.below places).child t) =
        (.ok (), fs.deposit (out ++ places ++ [t], .directory)) := by
  obtain ⟨place, e, hsuits, hkind⟩ := hpossible.2
  obtain ⟨hname, hget, -⟩ := hunder.holds
  obtain ⟨t, ht, rfl⟩ := place?_directory habove hsuits.place_eq
  have hsourceFits := hsuits.sourceFits
  have htargetFits := hsuits.targetFits
  have hpermits := hpossible.permits_source .status
  have hpermits' := hpossible.permits_target hsuits.place_eq .make
  rw [← Path.child_below] at hsourceFits htargetFits hpermits hpermits'
  rw [← List.append_assoc] at hkind
  have hsource := find_child ⟨hunder.source, hname, hsourceFits⟩ hget
    Entry.directory_kind_ne_link
  refine ⟨?_, t, ht, ?_⟩
  · rw [Host.isDirectory_of_permits hpermits, isDirectory_of_find hsource]
    rfl
  · rw [Host.makeDirectories_of_permits hpermits']
    exact makeDirectories_child ⟨hunder.target, hsuits.plain t (by simp), htargetFits⟩ hkind

/-- A directory that cannot be made in another one leaves the files as they were. -/
lemma eq_of_makeDirectories_error {q : Path} {lt : Location} {f : Failure}
    (htarget : fs.find q = .ok (lt, .directory)) (hname : IsPlainName t)
    (hlink : ∀ target, fs.get? (lt ++ [t]) ≠ some (.link target))
    (hmake : Host.makeDirectories fs true (q.child t) = (.error f, fs')) : fs' = fs := by
  rcases Host.makeDirectories_cases hmake with hmake | ⟨_, _, _, hfiles⟩
  · rcases makeDirectories_child_cases htarget hname hlink with ⟨f', hf⟩ | ⟨hok, -⟩
    · exact (Prod.mk.inj (hmake.symm.trans hf)).2
    · cases (Prod.mk.inj (hok.symm.trans hmake)).1
  · exact hfiles

/-- The visit of a directory makes another one, and then its entries are visited; or the rendering
stops, and nothing but that directory is left if its entries cannot be listed. -/
lemma ends_visit_directory {entries : Forest} (h : n ∉ r.conventions.ignoredNames)
    (hunder : Underway r w.files root output src out above places (.directory n entries rest))
    (houtside : ∀ place, ¬ src <+: out ++ place) (habove : r.directoryNames? above = some places)
    (hplain : ∀ t, r.targetName? ⟨above, n, none⟩ = some t → IsPlainName t)
    (hdescend : ∀ w' t, r.place? ⟨above, n, none⟩ = some (places ++ [t]) →
      Fits ((root.below above).child n) →
      Underway r w'.files root output src out (above ++ [n]) (places ++ [t]) entries →
      w'.files.children (src ++ (above ++ [n])) = entries.names →
      Ends (descend (root.below (above ++ [n])) (output.below (places ++ [t]))) w'
        (fun _ w'' => Made r out w'.files vs w''.files)
        (fun _ w'' => StopsIn r root output out w'.files vs w''.files ∨
          w''.files = w'.files ∧
            ∃ x, Host.refuses .list w'.files (root.below (above ++ [n])) = some x)) :
    Ends (r.visit descend (root.below above) (output.below places) n) w
      (fun _ w' => Made r out w.files (⟨above, n, none⟩ :: vs) w'.files)
      (fun _ w' => StopsIn r root output out w.files (⟨above, n, none⟩ :: vs) w'.files) := by
  obtain ⟨hname, hget, -⟩ := hunder.holds
  -- each step before the descent fails only if the visit cannot be made
  have hstops : (Possible r root output out w.files ⟨above, n, none⟩ → False) →
      StopsIn r root output out w.files (⟨above, n, none⟩ :: vs) w.files :=
    fun hnot => stopsIn_of_not_possible hnot vs
  simp only [visit, if_neg h]
  refine Ends.bind (Work.ends_ask (fun isDir hdir => ?_) fun f hf => hstops fun hpossible => ?_)
  · have hdir := Host.isDirectory_eq_ok hdir
    rcases find_source_cases hunder hname hget Entry.directory_kind_ne_link with
      ⟨f, hf⟩ | ⟨hfits, hsource⟩
    · cases hf.symm.trans hdir
    rw [isDirectory_of_find hsource] at hdir
    obtain rfl : true = isDir := Except.ok.inj hdir
    simp only [if_true]
    refine Ends.bind (Work.ends_lift (fun t hdirectory => ?_) fun e he => hstops fun hpossible => ?_)
    · have ht : r.targetName? ⟨above, n, none⟩ = some t := by
        simp only [targetName?, hdirectory]
        rfl
      have hplace := place?_of_name habove ht rfl
      have hlink : ∀ target, w.files.get? (out ++ places ++ [t]) ≠ some (.link target) := by
        rw [List.append_assoc]
        exact hunder.no_link _ (by simp [Forest.visits, h]) _ hplace
      rw [Path.join_ofString _ (hplain t ht)]
      refine Ends.bind (Work.ends_attempt (fun fs' hmake => ?_) fun f fs' hmake => ?_)
      · have hmake := Host.makeDirectories_eq_ok hmake
        rcases makeDirectories_child_cases hunder.target (hplain t ht) hlink with
          ⟨f, hf⟩ | ⟨hok, htakes, htargetFits⟩
        · cases (Prod.mk.inj (hf.symm.trans hmake)).1
        obtain rfl := (Prod.mk.inj (hok.symm.trans hmake)).2
        obtain ⟨hmade, henter, hnames⟩ :=
          hunder.enter houtside h hplace (hplain t ht) hsource htargetFits htakes
        rw [Path.child_below, Path.child_below]
        refine (hdescend _ t hplace hfits henter hnames).mono
          (fun _ _ hinner => hmade.append hinner) ?_
        rintro _ _ (hinner | ⟨hfiles, x, hx⟩)
        · exact hmade.stopsIn_append hinner
        · rw [hfiles]
          exact ⟨[] ++ [⟨above, n, none⟩], vs, _, rfl, hmade, .listing rfl hx⟩
      · obtain rfl := eq_of_makeDirectories_error hunder.target (hplain t ht) hlink hmake
        refine hstops fun hpossible => ?_
        obtain ⟨-, t', ht', hmake'⟩ := exists_steps_of_possible hunder habove hpossible
        obtain rfl : t = t' := Except.ok.inj (hdirectory.symm.trans ht')
        cases (Prod.mk.inj (hmake.symm.trans hmake')).1
    · obtain ⟨-, t, ht, -⟩ := exists_steps_of_possible hunder habove hpossible
      cases he.symm.trans ht
  · obtain ⟨hdir, -⟩ := exists_steps_of_possible hunder habove hpossible
    cases hf.symm.trans hdir

/-! ## All visits -/

/-- A directory that is there is listed, unless the host refuses it, and then its entries are visited. -/
lemma ends_renderDirectory_of_listed {Q : List Path → Workspace → Prop}
    {R : Problem → Workspace → Prop} {p q : Path} {l : Location} {depth : Nat}
    (hfind : w.files.find p = .ok (l, .directory))
    (hrefused : ∀ problem x, Host.refuses .list w.files p = some x → R problem w)
    (hvisits : Ends (visitAll (r.visit (r.renderDirectory depth) p q) (w.files.children l)) w Q R) :
    Ends (r.renderDirectory (depth + 1) p q) w Q R := by
  refine Ends.bind (Work.ends_ask (fun names hlist => ?_) fun f hf => ?_)
  · rw [← Except.ok.inj ((list_of_find hfind).symm.trans (Host.list_eq_ok hlist))]
    exact hvisits
  · rcases Host.permits_bind_eq_error hf with ⟨x, hx, -⟩ | hf
    · exact hrefused _ x hx
    · cases hf.symm.trans (list_of_find hfind)

/-- A tree that is there is rendered, once the output directory is there or has been made. -/
lemma ends_renderTree_of_made {Q : List Path → Workspace → Prop} {R : Problem → Workspace → Prop}
    (hroot : Host.isDirectory w.files root = .ok true)
    (hmade : Host.makeDirectories w.files true output = (.ok (), fs))
    (hrender : Ends (r.renderDirectory pathLimit root output) { w with files := fs } Q R) :
    Ends (r.renderTree root output) w Q R := by
  refine Ends.bind (Work.ends_ask (fun isDir hdir => ?_) fun f hf => ?_)
  · obtain rfl : true = isDir := Except.ok.inj (hroot.symm.trans hdir)
    simp only [if_true]
    refine Ends.bind (Work.ends_attempt (fun fs' hfs => ?_) fun f fs' hfs => ?_)
    · obtain rfl : fs = fs' := (Prod.mk.inj (hmade.symm.trans hfs)).2
      exact hrender
    · cases (Prod.mk.inj (hmade.symm.trans hfs)).1
  · cases hroot.symm.trans hf

/-- The visits of the first entry of a directory, and then those of the others. -/
lemma ends_visitAll_cons {visit : String → Work (List Path)} {ns : List String}
    (hfirst : Ends (visit n) w (fun _ w' => Made r out w.files us w'.files)
      (fun _ w' => StopsIn r root output out w.files us w'.files))
    (hothers : ∀ w', Made r out w.files us w'.files → Ends (visitAll visit ns) w'
      (fun _ w'' => Made r out w'.files vs w''.files)
      (fun _ w'' => StopsIn r root output out w'.files vs w''.files)) :
    Ends (visitAll visit (n :: ns)) w
      (fun _ w' => Made r out w.files (us ++ vs) w'.files)
      (fun _ w' => StopsIn r root output out w.files (us ++ vs) w'.files) := by
  unfold visitAll
  refine Ends.bind (hfirst.mono (fun _ w' hmade => ?_) fun _ _ hstops => hstops.append vs)
  refine Ends.bind ((hothers w' hmade).mono (fun _ _ hrest => ?_) fun _ _ hstops => ?_)
  · exact ends_pure (hmade.append hrest)
  · exact hmade.stopsIn_append hstops

/-- An entry with an ignored name is passed over. -/
lemma ends_visit_ignored {p q : Path} (h : n ∈ r.conventions.ignoredNames) :
    Ends (r.visit descend p q n) w (fun _ w' => Made r out w.files [] w'.files)
      (fun _ w' => StopsIn r root output out w.files [] w'.files) := by
  simp only [visit, if_pos h]
  exact Ends.bind (Work.ends_note (ends_pure (.nil _)))

/-- The entries of a directory are all visited, or those before one that cannot be. -/
theorem ends_visitAll (houtside : ∀ place, ¬ src <+: out ++ place) {depth : Nat} {forest : Forest}
    (hunder : Underway r w.files root output src out above places forest)
    (habove : r.directoryNames? above = some places)
    (hdepth : pathLimit ≤ depth + 1 + (root.below above).names.length)
    (hplain : ∀ v ∈ forest.visits r.conventions.ignoredNames above, ∀ t,
      r.targetName? v = some t → IsPlainName t) :
    Ends (visitAll (r.visit (r.renderDirectory depth) (root.below above) (output.below places))
        forest.names) w
      (fun _ w' => Made r out w.files (forest.visits r.conventions.ignoredNames above) w'.files)
      (fun _ w' => StopsIn r root output out w.files
        (forest.visits r.conventions.ignoredNames above) w'.files) := by
  -- the induction goes along the entries of the directory and into those below them
  induction forest generalizing w above places depth with
  | nil => exact ends_pure (.nil _)
  | file n content rest ih =>
      rw [Forest.visits] at hplain ⊢
      by_cases hignored : n ∈ r.conventions.ignoredNames
      · rw [if_pos hignored] at hplain ⊢
        exact ends_visitAll_cons (ends_visit_ignored hignored) fun w' hmade =>
          ih (hunder.rest_of_file.of_made houtside hmade) habove hdepth hplain
      · rw [if_neg hignored] at hplain ⊢
        obtain ⟨hfirst, hrest⟩ := List.forall_mem_cons.mp hplain
        exact ends_visitAll_cons (ends_visit_file hignored hunder houtside habove hfirst)
          fun w' hmade => ih (hunder.rest_of_file.of_made houtside hmade) habove hdepth hrest
  | directory n entries rest ihEntries ihRest =>
      rw [Forest.visits] at hplain ⊢
      by_cases hignored : n ∈ r.conventions.ignoredNames
      · rw [if_pos hignored] at hplain ⊢
        exact ends_visitAll_cons (ends_visit_ignored hignored) fun w' hmade =>
          ihRest (hunder.rest_of_directory.of_made houtside hmade) habove hdepth hplain
      · rw [if_neg hignored] at hplain ⊢
        obtain ⟨hfirst, hothers⟩ := List.forall_mem_cons.mp hplain
        obtain ⟨hinner, hrest⟩ := List.forall_mem_append.mp hothers
        rw [← List.cons_append]
        refine ends_visitAll_cons (ends_visit_directory hignored hunder houtside habove hfirst ?_)
          fun w' hmade =>
            ihRest (hunder.rest_of_directory.of_made houtside hmade) habove hdepth hrest
        intro w' t hplace hfits henter hnames
        rw [Path.child_below] at hfits
        obtain ⟨depth, rfl, hdepth'⟩ := exists_depth hunder.holds.1 hfits hdepth
        refine ends_renderDirectory_of_listed henter.source (fun _ x hx => .inr ⟨rfl, x, hx⟩) ?_
        rw [hnames]
        exact (ihEntries henter (directoryNames?_of_place? habove hplace) hdepth' hinner).mono
          (fun _ _ hmade => hmade) fun _ _ hstops => .inl hstops

end Hosted

/-! ## On the ample host -/

variable {w : Workspace}

/-- A directory that is there is listed, and then its entries are visited. -/
lemma ends_renderDirectory_of_find {Q : List Path → Workspace → Prop}
    {R : Problem → Workspace → Prop} {p q : Path} {l : Location} {depth : Nat}
    (hfind : w.files.find p = .ok (l, .directory))
    (hvisits : Ends (visitAll (r.visit (r.renderDirectory depth) p q) (w.files.children l)) w Q R) :
    Ends (r.renderDirectory (depth + 1) p q) w Q R := by
  refine ends_renderDirectory_of_listed hfind (fun problem x hx => ?_) hvisits
  cases hx

/-- A tree that is there is rendered, once the output directory is there or has been made. -/
lemma ends_renderTree_of_find {Q : List Path → Workspace → Prop} {R : Problem → Workspace → Prop}
    (hroot : w.files.find root = .ok (src, .directory))
    (hmade : w.files.makeDirectories true output = (.ok (), fs))
    (hrender : Ends (r.renderDirectory pathLimit root output) { w with files := fs } Q R) :
    Ends (r.renderTree root output) w Q R :=
  ends_renderTree_of_made (isDirectory_of_find hroot) hmade hrender

end Renderer

end Scaffold.Tree
