import Mathlib.Tactic.Lemma
import Scaffold.Proofs.FileSystem.Gaining
import Scaffold.Proofs.FileSystem.Making
import Scaffold.Proofs.FileSystem.Outcome

/-!
# Paths that stay in a directory

Two dots lead back out of the directory that was entered last. Where no links lie, this can be told
from the names alone, and so can where a path leads that goes on from a directory.

* `resolve?`: where some names lead from a location, unless they leave the directory that locations
  are told from.
* `LeadsWithin`: a path stays in a directory and leads, by its names, to a location at or below it.
* `write_of_within`, `gains_of_makeDirectories`: what is written, or made on the way to it, lies
  where the names of the path say.
-/

namespace Scaffold

/-! ## Paths as they are read -/

/-- A path has only names that it can be read with. -/
def Path.Proper (p : Path) : Prop :=
  ∀ n ∈ p.names, n ≠ "" ∧ n ≠ "." ∧ '/' ∉ n.toList

instance (p : Path) : Decidable p.Proper :=
  inferInstanceAs (Decidable (∀ n ∈ p.names, _))

/-- No piece of a split text holds the separator. -/
lemma Text.notMem_of_mem_splitPieces {separator : Char} {cs piece : List Char}
    (h : piece ∈ (splitPieces separator cs).1 :: (splitPieces separator cs).2) :
    separator ∉ piece := by
  induction cs generalizing piece with
  | nil =>
      obtain rfl : piece = [] := by simpa [splitPieces] using h
      exact List.not_mem_nil
  | cons c cs ih =>
      rw [splitPieces] at h
      by_cases hc : c = separator
      · simp only [if_pos hc] at h
        rcases List.mem_cons.mp h with rfl | h
        · exact List.not_mem_nil
        · exact ih h
      · simp only [if_neg hc] at h
        rcases List.mem_cons.mp h with rfl | h
        · rw [List.mem_cons, not_or]
          exact ⟨fun heq => hc heq.symm, ih List.mem_cons_self⟩
        · exact ih (List.mem_cons_of_mem _ h)

namespace Path

variable {p q : Path} {n : String} {c : Char}

/-- A path that is read from a text is proper. -/
lemma proper_ofString (s : String) : (ofString s).Proper := by
  intro n hn
  obtain ⟨hpiece, hname⟩ := List.mem_filter.mp hn
  obtain ⟨cs, hcs, rfl⟩ := List.mem_map.mp hpiece
  have hslash := Text.notMem_of_mem_splitPieces hcs
  simp only [isName, ne_eq, Bool.and_eq_true, decide_eq_true_eq] at hname
  exact ⟨hname.1, hname.2, by rwa [String.toList_ofList]⟩

/-- Proper paths make a proper one. -/
lemma Proper.join (hp : p.Proper) (hq : q.Proper) : (p.join q).Proper := by
  unfold Path.join
  split
  · exact hq
  · intro n hn
    rcases List.mem_append.mp hn with hn | hn
    · exact hp n hn
    · exact hq n hn

/-- The parent of a proper path is proper. -/
lemma Proper.of_parent (hp : p.Proper) : p.parent.Proper :=
  fun n hn => hp n (List.dropLast_subset _ hn)

/-- The characters of a name stand in the text of the path. -/
lemma mem_toString_of_mem_names (hn : n ∈ p.names) (hc : c ∈ n.toList) :
    c ∈ p.toString.toList := by
  rw [toString_of_names_ne_nil (List.ne_nil_of_mem hn), String.toList_append]
  refine List.mem_append_right _ ?_
  generalize p.names = ns at hn
  induction ns with
  | nil => cases hn
  | cons m ms ih =>
      by_cases hms : ms = []
      · subst hms
        obtain rfl := List.mem_singleton.mp hn
        simpa using hc
      · obtain ⟨k, ks, rfl⟩ := List.exists_cons_of_ne_nil hms
        rw [String.intercalate_cons_cons, String.toList_append, String.toList_append]
        rcases List.mem_cons.mp hn with rfl | hn
        · simp [hc]
        · exact List.mem_append_right _ (ih hn)

end Path

namespace FileSystem

open Relation

variable {fs fs₀ fs' : FileSystem} {followLast existingOk : Bool} {k : Nat} {p q : Path}
  {out d l m : Location} {n : String} {ns ms names : List String} {kind : Kind} {r : Place}
  {content : ByteArray} {outcome : Except Failure Unit}

/-! ## Names that resolve -/

/-- Where some names lead from a location in a directory, if no two dots lead out of the
directory. -/
def resolve? : Location → List String → Option Location
  | d, [] => some d
  | d, n :: ns =>
    if n = "." then resolve? d ns
    else if n = ".." then if d = [] then none else resolve? d.dropLast ns
    else resolve? (d ++ [n]) ns

/-- Names lead on from where the names before them lead. -/
lemma resolve?_append (d : Location) (ns ms : List String) :
    resolve? d (ns ++ ms) = (resolve? d ns).bind (resolve? · ms) := by
  induction ns generalizing d with
  | nil => rfl
  | cons n ns ih =>
      rw [List.cons_append, resolve?, resolve?]
      split
      · exact ih d
      split
      · split
        · rfl
        · exact ih d.dropLast
      · exact ih (d ++ [n])

/-- Where a walk along some names may arrive: at a directory, at a file, or where one of the names
is missing. -/
inductive Arrives (fs : FileSystem) (names : List String) : Location → Place → Prop
  | directory (l : Location) : Arrives fs names l (.present l .directory)
  | file {d : Location} {n : String} {content : ByteArray} :
    n ∈ names → IsStep n → fs.get? (d ++ [n]) = some (.file content) →
      Arrives fs names (d ++ [n]) (.present (d ++ [n]) (.file content))
  | absent {d : Location} {n : String} :
    n ∈ names → IsStep n → fs.get? (d ++ [n]) = none →
      Arrives fs names (d ++ [n]) (.absent d n)

/-- One more name in front changes nothing of where a walk arrives. -/
lemma Arrives.cons (h : Arrives fs names l r) : Arrives fs (n :: names) l r := by
  cases h with
  | directory => exact .directory l
  | file hn hstep hget => exact .file (List.mem_cons_of_mem _ hn) hstep hget
  | absent hn hstep hget => exact .absent (List.mem_cons_of_mem _ hn) hstep hget

/-- A walk in a directory without links arrives where its names lead. -/
lemma arrives_of_walk (hlinks : ∀ l target, out <+: l → fs.get? l ≠ some (.link target))
    (hresolve : resolve? d ns = some m)
    (hwalk : fs.walk followLast k (out ++ d) ns = .ok r) : Arrives fs ns (out ++ m) r := by
  induction ns generalizing d with
  | nil =>
      rw [walk_nil, Except.ok.injEq] at hwalk
      obtain rfl := hwalk
      obtain rfl := Option.some.inj hresolve
      exact .directory _
  | cons n ns ih =>
      rw [resolve?] at hresolve
      rw [walk_cons] at hwalk
      by_cases hdot : n = "."
      · rw [if_pos hdot] at hresolve hwalk
        exact (ih hresolve hwalk).cons
      by_cases hup : n = ".."
      · rw [if_neg hdot, if_pos hup] at hresolve hwalk
        by_cases hd : d = []
        · rw [if_pos hd] at hresolve
          cases hresolve
        · rw [if_neg hd] at hresolve
          rw [List.dropLast_append_of_ne_nil hd] at hwalk
          exact (ih hresolve hwalk).cons
      rw [if_neg hdot, if_neg hup] at hresolve hwalk
      by_cases hsize : nameLimit < n.utf8ByteSize
      · rw [if_pos hsize] at hwalk
        cases hwalk
      rw [if_neg hsize, List.append_assoc] at hwalk
      have hstep : IsStep n := ⟨hdot, hup, by omega⟩
      cases hget : fs.get? (out ++ (d ++ [n])) with
      | none =>
          rw [hget] at hwalk
          by_cases hns : ns = []
          · subst hns
            obtain rfl := Option.some.inj hresolve
            obtain rfl := Except.ok.inj hwalk
            rw [← List.append_assoc] at hget ⊢
            exact .absent List.mem_cons_self hstep hget
          · simp [hns] at hwalk
      | some e =>
          rw [hget] at hwalk
          cases e with
          | directory => exact (ih hresolve hwalk).cons
          | file content =>
              by_cases hns : ns = []
              · subst hns
                obtain rfl := Option.some.inj hresolve
                obtain rfl := Except.ok.inj hwalk
                rw [← List.append_assoc] at hget ⊢
                exact .file List.mem_cons_self hstep hget
              · simp [hns] at hwalk
          | link target => exact absurd hget (hlinks _ target (List.prefix_append out _))

/-! ## Paths within a directory -/

/-- A path goes on from a directory at or below `out`, and does not leave `out` from there. By its
names it leads to the location `l`. -/
def LeadsWithin (fs : FileSystem) (out : Location) (p : Path) (l : Location) : Prop :=
  ∃ q d ns m, p = q.below ns ∧ fs.find q = .ok (out ++ d, .directory) ∧ resolve? d ns = some m ∧
    l = out ++ m

/-- A path that goes on from the directory itself. -/
lemma leadsWithin_below (hfind : fs.find p = .ok (out, .directory))
    (hresolve : resolve? [] ns = some m) : fs.LeadsWithin out (p.below ns) (out ++ m) :=
  ⟨p, [], ns, m, rfl, by rwa [List.append_nil], hresolve, rfl⟩

/-- What stays in a directory leads to a place in it. -/
lemma LeadsWithin.below (h : fs.LeadsWithin out p l) : out <+: l := by
  obtain ⟨q, d, ns, m, -, -, -, rfl⟩ := h
  exact List.prefix_append out m

/-- Where a path leads stays so when more is made. -/
lemma LeadsWithin.of_grows (h : fs.LeadsWithin out p l) (hgrows : Grows fs fs') :
    fs'.LeadsWithin out p l := by
  obtain ⟨q, d, ns, m, hp, hfind, hresolve, hl⟩ := h
  exact ⟨q, d, ns, m, hp, find_of_grows hgrows hfind, hresolve, hl⟩

/-- A path that is within a directory leads to a directory, or its parent is within it as well. -/
lemma LeadsWithin.parent (h : fs.LeadsWithin out p l) :
    (∃ l', fs.find p = .ok (l', .directory)) ∨ ∃ l', fs.LeadsWithin out p.parent l' := by
  obtain ⟨q, d, ns, m, rfl, hfind, hresolve, rfl⟩ := h
  rcases List.eq_nil_or_concat ns with rfl | ⟨ns, n, rfl⟩
  · rw [Path.below_nil]
    exact .inl ⟨_, hfind⟩
  · rw [List.concat_eq_append] at hresolve ⊢
    rw [resolve?_append, Option.bind_eq_some_iff] at hresolve
    obtain ⟨m', hm', -⟩ := hresolve
    have hparent : (q.below (ns ++ [n])).parent = q.below ns := by
      simp [Path.parent, Path.below, ← List.append_assoc]
    rw [hparent]
    exact .inr ⟨_, q, d, ns, m', rfl, hfind, hm', rfl⟩

section locating

variable (hlinks : ∀ l target, out <+: l → fs.get? l ≠ some (.link target))

include hlinks

/-- A path that is within a directory leads where its names lead. A link at its end is no matter, if
it is followed or the path does not lead to a directory. -/
lemma arrives_of_locate (hwithin : fs.LeadsWithin out p l)
    (hlast : followLast = true ∨ ∀ l', fs.find p ≠ .ok (l', .directory))
    (hlocate : fs.locate followLast p = .ok r) : Arrives fs p.names l r := by
  obtain ⟨q, d, ns, m, rfl, hfind, hresolve, rfl⟩ := hwithin
  have hmore : ns ≠ [] ∨ followLast = true := by
    rcases hlast with hlast | hnot
    · exact .inr hlast
    · refine .inl ?_
      rintro rfl
      rw [Path.below_nil] at hnot
      exact hnot _ hfind
  obtain ⟨-, -, -, hwalk⟩ := locate_eq_ok_iff.mp hlocate
  rw [find_eq_ok_iff, locate_eq_ok_iff] at hfind
  obtain ⟨-, -, -, hwalk'⟩ := hfind
  obtain ⟨k, hk⟩ := walk_append (walks_of_walk hwalk')
  have hrest := (hk followLast ns hmore).symm.trans hwalk
  have harrives := arrives_of_walk hlinks hresolve hrest
  -- the names that come before the directory are no matter
  have hnames : (q.below ns).names = q.names ++ ns := rfl
  rw [hnames]
  generalize q.names = before
  clear hnames hwalk hwalk' hk hlocate hlast
  induction before with
  | nil => exact harrives
  | cons n before ih => exact ih.cons

/-- What a path leads to that is within a directory lies at or below it. -/
lemma eq_of_find_of_within {e : Entry} (hwithin : fs.LeadsWithin out p l)
    (hfind : fs.find p = .ok (m, e)) : m = l := by
  have harrives := arrives_of_locate hlinks hwithin (.inl rfl) (find_eq_ok_iff.mp hfind)
  cases harrives with
  | directory => rfl
  | file => rfl

end locating

/-- The last name of a location, if there is one, is plain. -/
def EndsPlain (l : Location) : Prop :=
  ∀ d n, l = d ++ [n] → IsPlainName n

/-- A name on a path that can be handed to the system is plain, if a step leads along it. -/
lemma isPlainName_of_mem_names (hproper : p.Proper) (hn : n ∈ p.names) (hstep : IsStep n)
    (hlocate : fs.locate followLast p = .ok r) : IsPlainName n where
  ne_empty := (hproper n hn).1
  ne_here := hstep.1
  ne_above := hstep.2.1
  slash_notMem := (hproper n hn).2.2
  null_notMem hnull :=
    (locate_eq_ok_iff.mp hlocate).1 (Path.mem_toString_of_mem_names hn hnull)

/-- A location with a plain last name ends plainly. -/
lemma endsPlain_append (hname : IsPlainName n) : EndsPlain (d ++ [n]) := by
  intro d' n' heq
  obtain ⟨-, hn⟩ := List.append_inj' heq rfl
  rwa [← List.singleton_inj.mp hn]

/-! ## What is made for an entry -/

/-- An entry of some kind at `m` may be made when one is made at a path: it is that one, or a
directory that the path passes. All of these stay in the directory `out`. -/
def MadeFor (fs : FileSystem) (out : Location) (p : Path) (kind : Kind) (m : Location)
    (kind' : Kind) : Prop :=
  EndsPlain m ∧
    ∃ q, Passes p q ∧ fs.LeadsWithin out q m ∧ (q = p ∧ kind' = kind ∨ kind' = .directory)

/-- What is made for a path in a directory lies in that directory. -/
lemma MadeFor.below {kind' : Kind} (h : fs.MadeFor out p kind m kind') : out <+: m := by
  obtain ⟨-, q, -, hwithin, -⟩ := h
  exact hwithin.below

/-- What is made for the parent of a path is made for the path. -/
lemma MadeFor.of_parent {x : Location × Entry}
    (h : fs.MadeFor out p.parent .directory x.1 x.2.kind) :
    fs.MadeFor out p .directory x.1 x.2.kind := by
  obtain ⟨hplain, q, hpasses, hwithin, hkind⟩ := h
  exact ⟨hplain, q, hpasses.of_parent, hwithin, .inr (hkind.elim And.right id)⟩

variable (hgrows : Grows fs₀ fs)
  (hlinks : ∀ l target, out <+: l → fs.get? l ≠ some (.link target))

include hgrows hlinks

/-- A file that is written at a path within a directory lies where the names of the path lead. -/
lemma gains_of_write (hproper : p.Proper) (hwithin : fs₀.LeadsWithin out p l)
    (hwrite : fs.write p content = .ok fs') :
    Gains (fun x => fs₀.MadeFor out p .file x.1 x.2.kind) fs fs' := by
  unfold write at hwrite
  cases hlocate : fs.locate true p with
  | error f => simp [hlocate, bind, Except.bind] at hwrite
  | ok r =>
      have harrives := arrives_of_locate hlinks (hwithin.of_grows hgrows) (.inl rfl) hlocate
      have hmade : ∀ {d n}, l = d ++ [n] → n ∈ p.names → IsStep n →
          fs₀.MadeFor out p .file l (Entry.file content).kind := by
        rintro d n rfl hn hstep
        exact ⟨endsPlain_append (isPlainName_of_mem_names hproper hn hstep hlocate),
          p, .refl p, hwithin, .inl ⟨rfl, rfl⟩⟩
      cases harrives with
      | directory => simp [hlocate, bind, Except.bind] at hwrite
      | @file d n old hn hstep hget =>
          simp only [hlocate, bind, Except.bind, Except.ok.injEq] at hwrite
          rw [← hwrite, ← deposit_file]
          refine .intro (hmade rfl hn hstep)
            (takes_singleton ?_ (Entry.file_kind_ne_link content) (by simp))
          intro e he
          rw [hget] at he
          rw [← Option.some.inj he]
          rfl
      | @absent d n hn hstep hget =>
          simp only [hlocate, bind, Except.bind, Except.ok.injEq] at hwrite
          rw [← hwrite, ← deposit_file]
          refine .intro (hmade rfl hn hstep)
            (takes_singleton ?_ (Entry.file_kind_ne_link content) (by simp))
          intro e he
          rw [hget] at he
          cases he

/-- A directory that is made at a path within a directory lies where the names of the path lead. -/
lemma gains_of_makeDirectory (hproper : p.Proper) (hwithin : fs₀.LeadsWithin out p l)
    (hmake : fs.makeDirectory p = .ok fs') :
    Gains (fun x => fs₀.MadeFor out p .directory x.1 x.2.kind) fs fs' := by
  have hnot : ∀ l', fs.find p ≠ .ok (l', .directory) := by
    intro l' hfind
    rw [makeDirectory_of_find hfind] at hmake
    cases hmake
  unfold makeDirectory make at hmake
  cases hlocate : fs.locate false p with
  | error f => simp [hlocate, bind, Except.bind] at hmake
  | ok r =>
      have harrives := arrives_of_locate hlinks (hwithin.of_grows hgrows) (.inr hnot) hlocate
      cases harrives with
      | directory => simp [hlocate, bind, Except.bind] at hmake
      | file => simp [hlocate, bind, Except.bind] at hmake
      | @absent d n hn hstep hget =>
          simp only [hlocate, bind, Except.bind, Except.ok.injEq] at hmake
          rw [← hmake, ← deposit_directory_of_absent hget]
          refine .intro ⟨?_, p, .refl p, hwithin, .inr rfl⟩
            (takes_singleton ?_ Entry.directory_kind_ne_link (by simp))
          · exact endsPlain_append (isPlainName_of_mem_names hproper hn hstep hlocate)
          · intro e he
            rw [hget] at he
            cases he

/-- The last directory made for a path within a directory. -/
lemma gains_of_makeLast (hproper : p.Proper) (hwithin : fs₀.LeadsWithin out p l)
    (hlast : fs.makeLast existingOk p = (outcome, fs')) :
    ReflTransGen (Gains fun x => fs₀.MadeFor out p .directory x.1 x.2.kind) fs fs' := by
  unfold makeLast at hlast
  split at hlast
  · rename_i hmake
    obtain ⟨-, rfl⟩ := Prod.mk.inj hlast
    exact .single (gains_of_makeDirectory hgrows hlinks hproper hwithin hmake)
  · obtain ⟨-, rfl⟩ := Prod.mk.inj hlast
    exact .refl
  · obtain ⟨rfl, -⟩ := excuse_spec hlast
    exact .refl

omit hgrows hlinks in
/-- Directories that are made for a path within a directory lie where the path passes, and in that
directory. What lies above the directory is there, so the parents that are looked at stay within. -/
lemma gains_of_makeWithParents (hgrows : Grows fs₀ fs)
    (hlinks : ∀ l target, out <+: l → fs.get? l ≠ some (.link target)) (hproper : p.Proper)
    (hwithin : fs₀.LeadsWithin out p l) (h : makeWithParents k fs existingOk p = (outcome, fs')) :
    ReflTransGen (Gains fun x => fs₀.MadeFor out p .directory x.1 x.2.kind) fs fs' := by
  induction k generalizing existingOk p l outcome fs' with
  | zero => exact gains_of_makeLast hgrows hlinks hproper hwithin h
  | succ k ih =>
      unfold makeWithParents at h
      split at h
      · rename_i hmake
        obtain ⟨-, rfl⟩ := Prod.mk.inj h
        exact .single (gains_of_makeDirectory hgrows hlinks hproper hwithin hmake)
      · rename_i hmake
        by_cases hnames : p.names = []
        · rw [if_pos hnames] at h
          obtain ⟨-, rfl⟩ := Prod.mk.inj h
          exact .refl
        · rw [if_neg hnames] at h
          rcases hwithin.parent with ⟨l', hfind⟩ | ⟨l', hparent⟩
          · rw [makeDirectory_of_find (find_of_grows hgrows hfind)] at hmake
            cases hmake
          · have hparents : ∀ {outcome fs''},
                makeWithParents k fs true p.parent = (outcome, fs'') →
                ReflTransGen (Gains fun x => fs₀.MadeFor out p .directory x.1 x.2.kind) fs fs'' :=
              fun hmade => gains_mono (fun x hx => hx.of_parent) (ih hproper.of_parent hparent hmade)
            split at h
            · rename_i fs'' hmade
              have hgains := hparents hmade
              have hlinks' : ∀ l target, out <+: l → fs''.get? l ≠ some (.link target) :=
                fun l target hl => get?_ne_link_of_gains hgains (fun t => hlinks l t hl) target
              exact hgains.trans (gains_of_makeLast (hgrows.trans (grows_of_gains hgains)) hlinks'
                hproper hwithin h)
            · rename_i hmade
              obtain ⟨-, rfl⟩ := Prod.mk.inj h
              exact hparents hmade
      · obtain ⟨rfl, -⟩ := excuse_spec h
        exact .refl

/-- Making a directory at a path within a directory, with those above it, makes directories in it
and nothing else, also when this fails on the way. -/
lemma gains_of_makeDirectories (hproper : p.Proper) (hwithin : fs₀.LeadsWithin out p l)
    (h : fs.makeDirectories existingOk p = (outcome, fs')) :
    ReflTransGen (Gains fun x => fs₀.MadeFor out p .directory x.1 x.2.kind) fs fs' :=
  gains_of_makeWithParents hgrows hlinks hproper hwithin h

end FileSystem

end Scaffold
