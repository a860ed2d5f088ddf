import Mathlib.Tactic.Lemma
import Scaffold.Proofs.Template.Joining
import Scaffold.Proofs.Tree.Delivering

/-!
# Rendering a file and copying it

A template file is decoded, rendered and encoded again, and any other file is copied byte for byte.
For a file whose bytes are text without a directive that comes to the same.

* `openBytes_infix`: an opening bracket in a text is two bytes of its encoding.
* `Writable`: a file can be written at a path. `Writable.exists_write` says that its content does not
  matter.
* `run_renderFile_of_text`, `run_copy`: what rendering such a file and copying any file do.
* `renderFile_agrees_copy`: rendering and copying leave the same files, and rendering a file whose bytes
  are not text changes nothing.
-/

namespace Scaffold

/-! ## Brackets as bytes -/

namespace Template

/-- The bytes of an opening bracket. -/
def openBytes : List UInt8 := [0x7B, 0x25]

/-- The bytes of the opening bracket. -/
lemma utf8Encode_openChars : openChars.utf8Encode.data.toList = openBytes := rfl

/-- An opening bracket in a text is two bytes of its encoding. -/
lemma openBytes_infix {text : String} (h : openChars <:+: text.toList) :
    openBytes <:+: text.toByteArray.data.toList := by
  obtain ⟨before, after, htext⟩ := h
  have hparts : text = String.ofList before ++ String.ofList openChars ++ String.ofList after := by
    rw [← String.toList_inj]
    simp [htext]
  rw [hparts, String.toByteArray_append, String.toByteArray_append]
  refine ⟨(String.ofList before).toByteArray.data.toList,
    (String.ofList after).toByteArray.data.toList, ?_⟩
  simp [utf8Encode_openChars]

end Template

namespace FileSystem

variable {fs fs' : FileSystem} {p q : Path} {l : Location} {e : Entry} {r : Place}
  {content content' : ByteArray}

/-! ## Paths at which a file can be written -/

/-- Some file can be written at a path. -/
def Writable (fs : FileSystem) (p : Path) : Prop :=
  ∃ content fs', fs.write p content = .ok fs'

/-- What can be written at a path does not depend on the content. -/
lemma Writable.exists_write (h : fs.Writable p) (content : ByteArray) :
    ∃ fs', fs.write p content = .ok fs' := by
  obtain ⟨content', fs', hwrite⟩ := h
  obtain ⟨d, n, -, hlocate, htakes, -, -⟩ := write_eq_ok hwrite
  rw [write, hlocate, placeIn]
  cases hget : fs.get? (d ++ [n]) with
  | none => exact ⟨_, rfl⟩
  | some e =>
      cases e with
      | directory =>
          -- a directory does not take a file
          cases htakes.present _ List.mem_cons_self _ hget
      | file old => exact ⟨_, rfl⟩
      | link target => exact ⟨_, rfl⟩

/-- What is written at a path can be read there. -/
lemma read_of_write (h : fs.write p content = .ok fs') : fs'.read p = .ok content := by
  obtain ⟨d, n, -, -, -, -, hfind⟩ := write_eq_ok h
  exact read_of_find hfind

end FileSystem

namespace Tree.Renderer

open FileSystem Template

variable {r : Renderer} {fs fs' : FileSystem} {source target : Path} {content : ByteArray}
  {w : Workspace}

/-- Paths that do not lead to one location do not lead to the same entry. -/
lemma sameEntry_of_not_samePlace (hread : fs.read source = .ok content)
    (hwritable : fs.Writable target) (hplace : ¬ SamePlace fs source target) :
    fs.sameEntry source target = .ok false := by
  obtain ⟨l, hsource⟩ := find_of_read hread
  obtain ⟨content', fs', hwrite⟩ := hwritable
  obtain ⟨d, n, -, hlocate, -, -, -⟩ := write_eq_ok hwrite
  unfold placeIn at hlocate
  cases hget : fs.get? (d ++ [n]) with
  | none =>
      simp only [hget] at hlocate
      have htarget : fs.find target = .error (.system .noEntry target) := by
        simp [find, hlocate, bind, Except.bind]
      simp [sameEntry, hsource, htarget]
  | some e =>
      simp only [hget] at hlocate
      have htarget := find_eq_ok_iff.mpr hlocate
      have hne : l ≠ d ++ [n] := by
        rintro rfl
        exact hplace ⟨_, _, _, hsource, htarget⟩
      simp [sameEntry, hsource, htarget, hne]

/-! ## One file -/

/-- Rendering a file whose bytes are text without a bracket writes these bytes. -/
lemma run_renderFile_of_text (hread : w.files.read source = .ok content)
    (hvalid : content.IsValidUTF8) (hopen : ¬ openBytes <:+: content.data.toList)
    (hwrite : w.files.write target content = .ok fs') :
    (r.renderFile source target).run w = .ok () { w with files := fs' } := by
  obtain ⟨template, hdecode⟩ := Text.Utf8.exists_decode hvalid
  have hencode := Text.Utf8.toByteArray_of_decode hdecode
  have htext : ¬ openChars <:+: template.toList :=
    fun h => hopen (hencode ▸ openBytes_infix h)
  have hrender : r.renderText template = .ok template := render_of_text htext r.bindings
  have hends : Ends (r.renderFile source target) w (fun _ w' => w' = { w with files := fs' })
      fun _ _ => False := by
    unfold renderFile Work.readTemplate Work.writeText
    refine Ends.bind (Ends.bind (Work.ends_ask (fun bytes hbytes => ?_) fun f hf => ?_))
    · obtain rfl := Except.ok.inj (hread.symm.trans hbytes)
      refine Work.ends_lift (fun _ h => ?_) fun _ h => by cases hdecode.symm.trans h
      obtain rfl := Except.ok.inj (hdecode.symm.trans h)
      refine Ends.bind (Work.ends_lift (fun _ h => ?_) fun _ h => by cases hrender.symm.trans h)
      obtain rfl := Except.ok.inj (hrender.symm.trans h)
      rw [← hencode] at hwrite
      refine Ends.bind (Work.ends_lift (fun _ h => ?_) fun _ h => by cases h)
      obtain rfl := Host.encode_eq_ok h
      refine Work.ends_write_ample (fun _ h => ?_) fun _ h => by cases hwrite.symm.trans h
      rw [Except.ok.inj (hwrite.symm.trans h)]
    · cases hread.symm.trans hf
  obtain ⟨_, _, hrun, rfl⟩ := hends.exists_run_ok
  exact hrun

/-- Copying a file to another place writes its bytes. -/
lemma run_copy (hread : w.files.read source = .ok content)
    (hplace : ¬ SamePlace w.files source target)
    (hwrite : w.files.write target content = .ok fs') :
    (Work.copy source target).run w = .ok () { w with files := fs' } := by
  have hsame := sameEntry_of_not_samePlace hread ⟨content, fs', hwrite⟩ hplace
  have hends : Ends (Work.copy source target) w (fun _ w' => w' = { w with files := fs' })
      fun _ _ => False := by
    unfold Work.copy
    refine Ends.bind (Work.ends_ask (fun same h => ?_) fun _ h => by cases hsame.symm.trans h)
    obtain rfl := Except.ok.inj (hsame.symm.trans h)
    refine Ends.bind (Work.ends_ask (fun bytes h => ?_) fun _ h => by cases hread.symm.trans h)
    obtain rfl := Except.ok.inj (hread.symm.trans h)
    refine Work.ends_write_ample (fun _ h => ?_) fun _ h => by cases hwrite.symm.trans h
    rw [Except.ok.inj (hwrite.symm.trans h)]
  obtain ⟨_, _, hrun, rfl⟩ := hends.exists_run_ok
  exact hrun

/-- Rendering a file whose bytes are not text changes nothing. -/
lemma run_renderFile_of_not_text (hread : w.files.read source = .ok content) {m : Text.Utf8.Malformed}
    (hdecode : Text.Utf8.decode content = .error m) :
    (r.renderFile source target).run w = .error (.failed .readTemplate source (.undecodable m)) w := by
  have hends : Ends (r.renderFile source target) w (fun _ _ => False) fun problem w' =>
      problem = .failed .readTemplate source (.undecodable m) ∧ w' = w := by
    unfold renderFile Work.readTemplate
    refine Ends.bind (Ends.bind (Work.ends_ask (fun bytes h => ?_) fun _ h => by
      cases hread.symm.trans h))
    obtain rfl := Except.ok.inj (hread.symm.trans h)
    refine Work.ends_lift (fun _ h => by cases hdecode.symm.trans h) fun _ h => ?_
    rw [Except.error.inj (hdecode.symm.trans h)]
    exact ⟨rfl, rfl⟩
  obtain ⟨_, _, hrun, rfl, rfl⟩ := hends.exists_run_error
  exact hrun

/-- **Rendering and copying agree.** Take a file whose bytes are UTF-8 text and hold no opening bracket,
and a path at which a file can be written and which does not lead to that file. Rendering the file to
that path and copying it there both succeed and leave the same files, in which the path has the bytes of
the source. A file whose bytes are not UTF-8 text is not rendered: there is a problem with reading it,
and nothing has changed. -/
theorem renderFile_agrees_copy (r : Renderer) (source target : Path)
    (hread : w.files.read source = .ok content) :
    (content.IsValidUTF8 → ¬ openBytes <:+: content.data.toList → w.files.Writable target →
      ¬ SamePlace w.files source target →
      ∃ fs', (r.renderFile source target).run w = .ok () { w with files := fs' } ∧
        (Work.copy source target).run w = .ok () { w with files := fs' } ∧
        fs'.read target = .ok content) ∧
    (¬ content.IsValidUTF8 →
      ∃ m, (r.renderFile source target).run w =
        .error (.failed .readTemplate source (.undecodable m)) w) := by
  refine ⟨fun hvalid hopen hwritable hplace => ?_, fun hinvalid => ?_⟩
  · obtain ⟨fs', hwrite⟩ := hwritable.exists_write content
    exact ⟨fs', run_renderFile_of_text hread hvalid hopen hwrite, run_copy hread hplace hwrite,
      read_of_write hwrite⟩
  · obtain ⟨m, hdecode⟩ := Text.Utf8.exists_decode_error hinvalid
    exact ⟨m, run_renderFile_of_not_text hread hdecode⟩

/-- A text with a byte order mark, a line ending of two characters and a lone brace, and a file whose one
byte is no text. -/
def mixedFiles : FileSystem where
  entries := [(["a"], .file "\uFEFF1\r\n\x7b\u00E9".toByteArray), (["b"], .file ⟨#[0xFF]⟩)]

/-- The text is rendered as it is copied, byte for byte, and the file that is no text is not rendered. -/
theorem renderFile_agrees_copy_mixed :
    (∃ fs', (Renderer.renderFile {} ⟨.root, ["a"]⟩ ⟨.root, ["o"]⟩).run ⟨mixedFiles, []⟩ =
        .ok () ⟨fs', []⟩ ∧
      (Work.copy ⟨.root, ["a"]⟩ ⟨.root, ["o"]⟩).run ⟨mixedFiles, []⟩ = .ok () ⟨fs', []⟩ ∧
      fs'.read ⟨.root, ["o"]⟩ = .ok "\uFEFF1\r\n\x7b\u00E9".toByteArray) ∧
    ∃ m, (Renderer.renderFile {} ⟨.root, ["b"]⟩ ⟨.root, ["o"]⟩).run ⟨mixedFiles, []⟩ =
      .error (.failed .readTemplate ⟨.root, ["b"]⟩ (.undecodable m)) ⟨mixedFiles, []⟩ := by
  have htext : mixedFiles.read ⟨.root, ["a"]⟩ = .ok "\uFEFF1\r\n\x7b\u00E9".toByteArray := rfl
  have hbytes : mixedFiles.read ⟨.root, ["b"]⟩ = .ok ⟨#[0xFF]⟩ := rfl
  have htarget : mixedFiles.find ⟨.root, ["o"]⟩ = .error (.system .noEntry ⟨.root, ["o"]⟩) := rfl
  refine ⟨(renderFile_agrees_copy {} _ _ htext).1 (String.isValidUTF8 _) (by decide)
    ⟨.empty, _, rfl⟩ ?_, (renderFile_agrees_copy {} _ _ hbytes).2 (by decide)⟩
  rintro ⟨l, e, e', -, hfind⟩
  cases htarget.symm.trans hfind

end Tree.Renderer

end Scaffold
