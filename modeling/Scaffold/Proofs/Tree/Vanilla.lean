import Mathlib.Data.List.Nodup
import Mathlib.Tactic.Lemma
import Scaffold.Proofs.Project.Naming
import Scaffold.Proofs.Tree.Bundled
import Scaffold.Proofs.Tree.Conventions
import Scaffold.Proofs.Tree.Faultless

/-!
# Rendering the bundled template

* `forest`: the bundled template as a tree. `vanilla_eq` says that it has the entries of the template.
* `places`: where these entries are taken for a module of some name. `projectFiles`: the files among
  them.
* `renders_forest`: all names and templates of the bundled template render for every project, and the
  names to plain ones.
* `renderTemplate_vanilla`: what rendering it into a fresh output gives.
-/

namespace Scaffold.Tree.Bundled

open Template FileSystem Work

variable {s : Settings} {identifier module n : String} {place : Location} {v : Visit}

/-! ## The template as a tree -/

/-- The entries of the directory of what the program loads. -/
def resourceEntries : Forest :=
  .directory "assets"
    (.file "app.js" script.toByteArray <| .file "style.css" styleSheet.toByteArray .nil) <|
  .file "index.html.lte" page.toByteArray .nil

/-- The entries of the directory of the module. -/
def moduleEntries : Forest :=
  .directory "Resources" resourceEntries <| .file "main.swift.lte" mainSource.toByteArray .nil

/-- The bundled template. -/
def forest : Forest :=
  .file "Makefile" makefile.toByteArray <|
  .file "Package.swift.lte" packageManifest.toByteArray <|
  .file "README.md.lte" readme.toByteArray <|
  .directory "Sources" (.directory "__swift_module_name__" moduleEntries .nil) <|
  .file "_gitignore" ignoreList.toByteArray <|
  .file "velox.json.lte" appManifest.toByteArray .nil

/-- The tree has the entries of the template. -/
lemma vanilla_eq :
    (forest.visits [] []).map (fun v => (v.above ++ [v.name], v.entry)) = vanilla := rfl

/-- The rendering of the template for a project. -/
def renderer (s : Settings) (identifier : String) : Renderer :=
  { bindings := s.bindings identifier }

/-- None of the entries is passed over. -/
lemma visits_forest : (renderer s identifier).visits forest = forest.visits [] [] := rfl

/-! ## Names -/

/-- The names of the files, with those of the files made from them, and whether they are templates. -/
def fileNames : List (String × String × Bool) :=
  [("Makefile", "Makefile", false), ("Package.swift.lte", "Package.swift", true),
    ("README.md.lte", "README.md", true), ("app.js", "app.js", false),
    ("style.css", "style.css", false), ("index.html.lte", "index.html", true),
    ("main.swift.lte", "main.swift", true), ("_gitignore", ".gitignore", false),
    ("velox.json.lte", "velox.json", true)]

/-- The names of the files render as they are listed. -/
lemma fileName_of_mem {x : String × String × Bool} (h : x ∈ fileNames) :
    (renderer s identifier).fileName x.1 = .ok x.2 := by
  have hall : ∀ x ∈ fileNames,
      ¬ Conventions.default.modulePlaceholder.toList <:+: x.1.toList ∧
        Conventions.default.stripSuffix ((Conventions.default.renames.lookup x.1).getD x.1) = x.2 ∧
        ¬ openChars <:+: x.2.1.toList := by
    decide
  obtain ⟨hplace, hstem, hopen⟩ := hall x h
  exact Conventions.fileName_of_text hplace hstem hopen

/-- All directories keep their names, but for that of the module. -/
lemma directoryName_of_mem (h : n ∈ ["Sources", "Resources", "assets"]) :
    (renderer s identifier).directoryName n = .ok n := by
  have hall : ∀ n ∈ ["Sources", "Resources", "assets"],
      ¬ Conventions.default.modulePlaceholder.toList <:+: n.toList ∧
        ¬ openChars <:+: n.toList := by
    decide
  obtain ⟨hplace, hopen⟩ := hall n h
  exact Conventions.directoryName_of_text hplace hopen

/-- The placeholder gives the name of the module, which is not rendered any further. -/
lemma directoryName_placeholder :
    (renderer s identifier).directoryName "__swift_module_name__" = .ok s.moduleName := by
  have hplaced : Conventions.default.placeModule (s.bindings identifier) "__swift_module_name__" =
      s.moduleName := by
    apply String.toList_injective
    show (Text.replaceAll "__swift_module_name__" "__swift_module_name__" s.moduleName).toList = _
    simp [Text.replaceAll, Text.substitute]
  have hopen : ¬ openChars <:+: s.moduleName.toList := by
    intro h
    exact Project.notMem_toModuleName (by decide) s.displayName (h.subset (List.mem_cons_self))
  show Conventions.default.directoryName (s.bindings identifier) "__swift_module_name__" = _
  rw [Conventions.directoryName, hplaced, render_of_text hopen]

/-! ## Places and products -/

/-- Where the entries of the template are taken if the module has some name, in the order of the
visits. -/
def places (module : String) : List Location :=
  [["Makefile"], ["Package.swift"], ["README.md"], ["Sources"], ["Sources", module],
    ["Sources", module, "Resources"], ["Sources", module, "Resources", "assets"],
    ["Sources", module, "Resources", "assets", "app.js"],
    ["Sources", module, "Resources", "assets", "style.css"],
    ["Sources", module, "Resources", "index.html"], ["Sources", module, "main.swift"],
    [".gitignore"], ["velox.json"]]

/-- The files of the project, in the order in which they are made. -/
def projectFiles (module : String) : List Location :=
  [["Makefile"], ["Package.swift"], ["README.md"],
    ["Sources", module, "Resources", "assets", "app.js"],
    ["Sources", module, "Resources", "assets", "style.css"],
    ["Sources", module, "Resources", "index.html"], ["Sources", module, "main.swift"],
    [".gitignore"], ["velox.json"]]

/-- The places of the project are those that are listed, in order. -/
lemma place?_visits :
    (forest.visits [] []).map (renderer s identifier).place? = (places s.moduleName).map some := by
  have hfiles : ∀ x ∈ fileNames, (renderer s identifier).fileName x.1 = .ok x.2 :=
    fun x hx => fileName_of_mem hx
  have hdirectories : ∀ n ∈ ["Sources", "Resources", "assets"],
      (renderer s identifier).directoryName n = .ok n := fun n hn => directoryName_of_mem hn
  simp only [fileNames, List.forall_mem_cons, List.not_mem_nil, false_imp_iff, implies_true,
    and_true] at hfiles hdirectories
  simp [forest, moduleEntries, resourceEntries, Forest.visits, Renderer.place?,
    Renderer.directoryNames?, Renderer.targetName?, hfiles, hdirectories, directoryName_placeholder,
    places, Except.toOption, Except.map]

/-- The visits of files leave the files of the project. -/
lemma files_visits (s : Settings) (identifier : String) :
    (forest.visits [] []).filterMap
        (fun v => v.content.bind fun _ => (renderer s identifier).place? v) =
      projectFiles s.moduleName := by
  have hplaces : (forest.visits [] []).map (renderer s identifier).place? = _ := place?_visits
  simp only [forest, moduleEntries, resourceEntries, Forest.visits, List.not_mem_nil, if_false,
    List.nil_append, List.append_nil, List.cons_append, List.map_cons, List.map_nil, places,
    List.cons.injEq, and_true] at hplaces
  simp [forest, moduleEntries, resourceEntries, Forest.visits, hplaces, projectFiles]

/-- Every visit has one of the places that are listed. -/
lemma exists_place (hv : v ∈ forest.visits [] []) :
    ∃ place ∈ places s.moduleName, (renderer s identifier).place? v = some place := by
  have hmem := List.mem_map_of_mem (f := (renderer s identifier).place?) hv
  rw [place?_visits] at hmem
  obtain ⟨place, hplace, heq⟩ := List.mem_map.mp hmem
  exact ⟨place, hplace, heq.symm⟩

/-- No two entries are taken to one place, whatever the module is called. -/
lemma nodup_places (module : String) : (places module).Nodup := by
  simp [places]

/-- No two visits have one place. -/
lemma eq_of_place? {v' : Visit} (hv : v ∈ forest.visits [] []) (hv' : v' ∈ forest.visits [] [])
    (h : (renderer s identifier).place? v = (renderer s identifier).place? v') : v = v' := by
  have hnodup : ((forest.visits [] []).map (renderer s identifier).place?).Nodup := by
    rw [place?_visits]
    exact (nodup_places s.moduleName).map fun _ _ h => Option.some.inj h
  exact List.inj_on_of_nodup_map hnodup hv hv' h

/-- All names in the places are plain if that of the module is. -/
lemma plain_of_mem_places (hmodule : IsPlainName module) :
    ∀ place ∈ places module, ∀ n ∈ place, IsPlainName n := by
  have hnames : ∀ n ∈ ["Makefile", "Package.swift", "README.md", "Sources", "Resources", "assets",
      "app.js", "style.css", "index.html", "main.swift", ".gitignore", "velox.json"],
      IsPlainName n := by
    decide
  simp only [List.forall_mem_cons, List.not_mem_nil, false_imp_iff, implies_true, and_true] at hnames
  simp [places, hnames, hmodule]

/-- What is made of a file of the template is there for every project. -/
lemma isSome_product? {x : String × String × Bool} {above : List String} {t : String}
    (hx : x ∈ fileNames) (ht : x.2.2 = true → t ∈ templates) :
    ((renderer s identifier).product? ⟨above, x.1, some t.toByteArray⟩).isSome := by
  have hname : (renderer s identifier).fileName x.1 = .ok x.2 := fileName_of_mem hx
  obtain ⟨n, stem, isTemplate⟩ := x
  cases isTemplate with
  | false => simp [Renderer.product?, Renderer.content?, hname]
  | true =>
      obtain ⟨text, htext⟩ := exists_render_of_mem_templates s identifier (ht rfl)
      have htext' : (renderer s identifier).renderText t = .ok text := htext
      simp [Renderer.product?, Renderer.content?, hname, Text.Utf8.decode_toByteArray, htext',
        Except.toOption]

/-- Every visit has a product. -/
lemma isSome_product?_of_mem_visits :
    ∀ v ∈ forest.visits [] [], ((renderer s identifier).product? v).isSome := by
  have hfile : ∀ x ∈ fileNames, ∀ above t, (x.2.2 = true → t ∈ templates) →
      ((renderer s identifier).product? ⟨above, x.1, some t.toByteArray⟩).isSome :=
    fun x hx above t ht => isSome_product? hx ht
  simp only [fileNames, List.forall_mem_cons, List.not_mem_nil, false_imp_iff, implies_true,
    and_true] at hfile
  obtain ⟨hmakefile, hpackage, hreadme, hscript, hstyle, hpage, hmain, hignore, hmanifest⟩ := hfile
  have hdirectory : ∀ above n, ((renderer s identifier).product? ⟨above, n, none⟩).isSome :=
    fun _ _ => rfl
  have hmem : packageManifest ∈ templates ∧ readme ∈ templates ∧ page ∈ templates ∧
      mainSource ∈ templates ∧ appManifest ∈ templates := by
    simp [templates]
  obtain ⟨hpackage', hreadme', hpage', hmain', hmanifest'⟩ := hmem
  simp only [forest, moduleEntries, resourceEntries, Forest.visits, List.not_mem_nil, if_false,
    List.nil_append, List.append_nil, List.cons_append, List.forall_mem_cons, false_imp_iff,
    implies_true, and_true]
  exact ⟨hmakefile _ _ (by simp), hpackage _ _ fun _ => hpackage', hreadme _ _ fun _ => hreadme',
    hdirectory _ _, hdirectory _ _, hdirectory _ _, hdirectory _ _, hscript _ _ (by simp),
    hstyle _ _ (by simp), hpage _ _ fun _ => hpage', hmain _ _ fun _ => hmain',
    hignore _ _ (by simp), hmanifest _ _ fun _ => hmanifest'⟩

/-- The name of a module is the name of a directory. -/
lemma isPlainName_moduleName (s : Settings) : IsPlainName s.moduleName :=
  Project.isPlainName_toModuleName s.displayName

/-- All of the bundled template renders, and the names to plain ones. -/
lemma renders_forest (s : Settings) (identifier : String) :
    (renderer s identifier).Renders forest := by
  intro v hv
  obtain ⟨place, hmem, hplace⟩ := exists_place (s := s) hv
  obtain ⟨t, ht, htplace⟩ := Renderer.exists_targetName?_of_place? hplace
  have hplain := plain_of_mem_places (isPlainName_moduleName s) place hmem t htplace
  exact ⟨⟨t, ht, hplain⟩, isSome_product?_of_mem_visits v hv⟩

/-! ## Limits -/

/-- The longest of the places, and of the paths in the template. -/
def longest (module : String) : Location :=
  ["Sources", module, "Resources", "assets", "style.css"]

/-- The system takes a name for the module: as that of a directory, and in the longest of the paths
that it is a part of. -/
structure Accepts (output : Path) (module : String) : Prop where
  name : module.utf8ByteSize ≤ nameLimit
  path : (output.below (longest module)).toString.utf8ByteSize < pathLimit

/-- What the system takes for the module is within the limits wherever it is needed. -/
lemma Accepts.fits {output : Path} (h : Accepts output module) (hplace : place ∈ places module) :
    Fits (output.below place) := by
  have hsizes : ∀ x ∈ [("Makefile", 8), ("Package.swift", 13), ("README.md", 9), ("Sources", 7),
      ("Resources", 9), ("assets", 6), ("app.js", 6), ("style.css", 9), ("index.html", 10),
      ("main.swift", 10), (".gitignore", 10), ("velox.json", 10)], x.1.utf8ByteSize = x.2 := by
    decide
  simp only [List.forall_mem_cons, List.not_mem_nil, false_imp_iff, implies_true, and_true]
    at hsizes
  have hall : ∀ place ∈ places module, place ≠ [] ∧
      Path.extent place ≤ Path.extent (longest module) ∧
        ∀ n ∈ place, n.utf8ByteSize ≤ nameLimit := by
    have hname := h.name
    have hlimit : nameLimit = 255 := rfl
    simp [places, longest, Path.extent, hsizes]
    omega
  obtain ⟨hne, hextent, hnames⟩ := hall place hplace
  exact fits_below h.path (by simp [longest]) hne hextent hnames

/-- The paths in the template are within the limits if the longest is. -/
lemma fits_source {root : Path}
    (h : (root.below (longest "__swift_module_name__")).toString.utf8ByteSize < pathLimit)
    (hv : v ∈ forest.visits [] []) : Fits (root.below (v.above ++ [v.name])) := by
  have hall : ∀ v ∈ forest.visits [] [],
      Path.extent (v.above ++ [v.name]) ≤ Path.extent (longest "__swift_module_name__") ∧
        ∀ n ∈ v.above ++ [v.name], n.utf8ByteSize ≤ nameLimit := by
    decide +kernel
  obtain ⟨hextent, hnames⟩ := hall v hv
  exact fits_below h (by simp [longest]) (by simp) hextent hnames

/-! ## The rendering -/

/-- A visit of the template is made if the system takes the name of the module. -/
lemma exists_suits {root output : Path}
    (hsource : (root.below (longest "__swift_module_name__")).toString.utf8ByteSize < pathLimit)
    (haccepts : Accepts output s.moduleName) (hv : v ∈ forest.visits [] []) :
    ∃ place e, (renderer s identifier).Suits root output v place e := by
  obtain ⟨place, hmem, hplace⟩ := exists_place (s := s) hv
  obtain ⟨e, he⟩ := Option.isSome_iff_exists.mp (isSome_product?_of_mem_visits v hv)
  exact ⟨place, e, hplace, he, plain_of_mem_places (isPlainName_moduleName s) place hmem,
    fits_source hsource hv, haccepts.fits hmem⟩

/-- The files of the project, as they are written into a directory. -/
lemma written_visits (output : Path) :
    (renderer s identifier).written output (forest.visits [] []) =
      (projectFiles s.moduleName).map output.below := by
  rw [← files_visits s identifier, List.map_filterMap]
  refine List.filterMap_congr fun v _ => ?_
  unfold Renderer.written?
  cases v.content with
  | none => rfl
  | some content => rfl

/-- The files of the project are the places of the files of the template. -/
lemma mem_projectFiles_iff (s : Settings) (identifier : String) :
    place ∈ projectFiles s.moduleName ↔
      ∃ v ∈ forest.visits [] [], ∃ content, v.content = some content ∧
        (renderer s identifier).place? v = some place := by
  rw [← files_visits s identifier, List.mem_filterMap]
  simp only [Option.bind_eq_some_iff]

/-- Where the visits have left what they leave in an empty directory, the files in it are those of the
project. -/
lemma exists_file_iff {fs₁ fs' : FileSystem} {out rest : Location}
    (hout : fs₁.get? out = some .directory)
    (hempty : ∀ rest, rest ≠ [] → fs₁.get? (out ++ rest) = none)
    (hmade : ∀ v ∈ forest.visits [] [], ∀ place e, (renderer s identifier).place? v = some place →
      (renderer s identifier).product? v = some e → fs'.get? (out ++ place) = some e)
    (hkept : ∀ l, (∀ v ∈ forest.visits [] [], ∀ place,
      (renderer s identifier).place? v = some place → l ≠ out ++ place) →
        fs'.get? l = fs₁.get? l) :
    (∃ content, fs'.get? (out ++ rest) = some (.file content)) ↔
      rest ∈ projectFiles s.moduleName := by
  have hproduct : ∀ v ∈ forest.visits [] [], (renderer s identifier).place? v = some rest →
      ∃ e, fs'.get? (out ++ rest) = some e ∧ e.kind = v.kind := by
    intro v hv hplace
    obtain ⟨e, he⟩ := Option.isSome_iff_exists.mp (isSome_product?_of_mem_visits v hv)
    exact ⟨e, hmade v hv rest e hplace he, Renderer.kind_of_product? he⟩
  rw [mem_projectFiles_iff s identifier]
  constructor
  · rintro ⟨content, hget⟩
    by_cases hvisited : ∃ v ∈ forest.visits [] [], (renderer s identifier).place? v = some rest
    · obtain ⟨v, hv, hplace⟩ := hvisited
      obtain ⟨e, he, hkind⟩ := hproduct v hv hplace
      rw [hget, Option.some.injEq] at he
      subst he
      cases hcontent : v.content with
      | none => simp [Visit.kind, hcontent, Entry.kind] at hkind
      | some content' => exact ⟨v, hv, content', hcontent, hplace⟩
    · rw [hkept] at hget
      · by_cases hrest : rest = []
        · rw [hrest, List.append_nil, hout] at hget
          cases hget
        · rw [hempty rest hrest] at hget
          cases hget
      · intro v hv place hplace heq
        obtain rfl := List.append_cancel_left heq
        exact hvisited ⟨v, hv, hplace⟩
  · rintro ⟨v, hv, content, hcontent, hplace⟩
    obtain ⟨e, he, hkind⟩ := hproduct v hv hplace
    rw [Visit.kind, hcontent] at hkind
    cases e with
    | directory => cases hkind
    | file content => exact ⟨content, he⟩
    | link target => cases hkind

/-- **The bundled template renders for every project.** Whatever the project is called, the name of its
module is plain and has neither an opening brace nor a percent sign in it, and the nine files of the
project differ from each other and from those of another project only in that name. Let the bundled
template lie in the directory of the templates, and let the output be fresh for it. Then a rendering
never ends with a problem of a template, whatever else may go wrong with the files. If the output can be
made, the paths in the template are not too long and the system takes the name of the module, the
rendering succeeds: it answers with the paths of the files of the project, every entry of the template
has left what it is said to leave, files lie in the output at these paths and nowhere else, and outside
of it nothing happens but that it is made. -/
theorem renderTemplate_vanilla (s : Settings) (identifier : String) :
    (IsPlainName s.moduleName ∧ '{' ∉ s.moduleName.toList ∧ '%' ∉ s.moduleName.toList) ∧
    ((projectFiles s.moduleName).Nodup ∧ (projectFiles s.moduleName).length = 9 ∧
      ∀ module, projectFiles s.moduleName =
        (projectFiles module).map fun place => place.set 1 s.moduleName) ∧
    ∀ {fs : FileSystem} {templates output : Path} {src : Location}, fs.Rooted →
      fs.find (Catalog.pathOf templates "vanilla") = .ok (src, .directory) →
      fs.Holds src forest → Fresh fs src output →
      (∀ events problem w',
        (renderTemplate (renderer s identifier) templates "vanilla" output).run ⟨fs, events⟩ =
          .error problem w' → problem.OfFiles) ∧
      ∀ {fs₁ : FileSystem} {out : Location}, fs.makeDirectories true output = (.ok (), fs₁) →
        fs₁.find output = .ok (out, .directory) →
        ((Catalog.pathOf templates "vanilla").below
          (longest "__swift_module_name__")).toString.utf8ByteSize < pathLimit →
        Accepts output s.moduleName →
        ∃ fs', (renderTemplate (renderer s identifier) templates "vanilla" output).Yields fs
            ((projectFiles s.moduleName).map output.below) fs' ∧
          (∀ v ∈ forest.visits [] [], ∃ place e, (renderer s identifier).place? v = some place ∧
            (renderer s identifier).product? v = some e ∧ fs'.get? (out ++ place) = some e) ∧
          (∀ rest, (∃ content, fs'.get? (out ++ rest) = some (.file content)) ↔
            rest ∈ projectFiles s.moduleName) ∧
          ∀ l, ¬ out <+: l → fs'.get? l = fs₁.get? l := by
  have hmark : ∀ c, Text.isMark c = true → c ∉ s.moduleName.toList :=
    fun c hc => Project.notMem_toModuleName hc s.displayName
  have hnodup : (projectFiles s.moduleName).Nodup := by simp [projectFiles]
  refine ⟨⟨isPlainName_moduleName s, hmark _ (by decide), hmark _ (by decide)⟩,
    ⟨hnodup, rfl, fun _ => rfl⟩, ?_⟩
  intro fs templates output src hrooted hroot hholds hfresh
  have hrenders := renders_forest s identifier
  refine ⟨fun events problem w' hrun => ?_, fun {fs₁ out} hmade hout hsource haccepts => ?_⟩
  · have hspares : (renderTemplate (renderer s identifier) templates "vanilla" output).Spares
        ⟨fs, events⟩ := spares_renderTemplate hrooted hroot hholds hfresh hrenders
    exact hspares.of_run_error hrun
  · have hapart := hfresh.apart hrooted hroot hholds hmade hout
    have hsuits : ∀ v ∈ (renderer s identifier).visits forest, ∃ place e,
        (renderer s identifier).Suits (Catalog.pathOf templates "vanilla") output v place e :=
      fun v hv => exists_suits hsource haccepts hv
    obtain ⟨fs', hyields, himage, hkept⟩ := yields_renderTemplate hrooted hroot hholds hfresh hmade
      hout hsuits fun v hv v' hv' h => eq_of_place? hv hv' h
    rw [visits_forest, written_visits] at hyields
    refine ⟨fs', hyields, fun v hv => ?_, fun rest => ?_, fun l hl => ?_⟩
    · obtain ⟨place, e, hv'⟩ := hsuits v hv
      exact ⟨place, e, hv'.place_eq, hv'.product_eq, himage v hv place e hv'.place_eq hv'.product_eq⟩
    · exact exists_file_iff (hapart.rooted.get?_of_find hout) hapart.empty himage hkept
    · refine hkept l fun v _ place _ heq => hl ?_
      rw [heq]
      exact List.prefix_append out place

/-- A file system with nothing in it but the bundled template. -/
def installed : FileSystem :=
  install {} ["t"]

/-- The same files with an output directory. -/
def installedOutput : FileSystem :=
  installed.put ["p"] .directory

/-- The settings of a project whose name reads like a path and a template. -/
def crookedSettings : Settings :=
  { projectName := some "../\x7b% ßeta %\x7d", workingDirectory := ⟨.root, ["work"]⟩ }

/-- The files of `installed` lie in directories. -/
lemma installed_rooted : installed.Rooted := by
  refine rooted_of_entries ?_
  decide

/-- They hold the template as it is. -/
lemma installed_holds : installed.Holds ["t", "template-vanilla"] forest := by
  have hassets : installed.children
      ["t", "template-vanilla", "Sources", "__swift_module_name__", "Resources", "assets"] =
        ["app.js", "style.css"] :=
    children_of_perm (by decide) (by decide)
  have hresources : installed.children
      ["t", "template-vanilla", "Sources", "__swift_module_name__", "Resources"] =
        ["assets", "index.html.lte"] :=
    children_of_perm (by decide) (by decide)
  have hmodule : installed.children
      ["t", "template-vanilla", "Sources", "__swift_module_name__"] =
        ["Resources", "main.swift.lte"] :=
    children_of_perm (by decide) (by decide)
  have hsources : installed.children ["t", "template-vanilla", "Sources"] =
      ["__swift_module_name__"] :=
    children_of_perm (by decide) (by decide)
  have hmoduleEntries : installed.HoldsEntries
      ["t", "template-vanilla", "Sources", "__swift_module_name__"] moduleEntries :=
    ⟨by decide, rfl, hresources,
      ⟨by decide, rfl, hassets, ⟨by decide, rfl, by decide, rfl, trivial⟩, by decide, rfl, trivial⟩,
      by decide, rfl, trivial⟩
  refine ⟨children_of_perm (by decide) (by decide), by decide, rfl, by decide, rfl,
    by decide, rfl, by decide, rfl, hsources, ?_, by decide, rfl, by decide, rfl, trivial⟩
  exact ⟨by decide, rfl, hmodule, hmoduleEntries, trivial⟩

/-- A project with quotes, brackets and directives in its settings has all its files. -/
theorem renderTemplate_vanilla_crooked : crookedSettings.moduleName = "SSeta" ∧
    ∃ fs', (renderTemplate (renderer crookedSettings "\x7b% identifier %\x7d") ⟨.root, ["t"]⟩ "vanilla"
        ⟨.root, ["p"]⟩).Yields installed
          ((projectFiles "SSeta").map fun place => ⟨.root, "p" :: place⟩) fs' := by
  have hmodule : crookedSettings.moduleName = "SSeta" := by decide
  have hmade : installed.makeDirectories false ⟨.root, ["p"]⟩ = (.ok (), installedOutput) := rfl
  have hout : installedOutput.find ⟨.root, ["p"]⟩ = .ok (["p"], .directory) := rfl
  have hfresh : Fresh installed ["t", "template-vanilla"] ⟨.root, ["p"]⟩ := by
    refine fresh_of_makeDirectories installed_rooted hmade hout (by decide) fun l hl => ?_
    refine get?_put_of_ne installed .directory ?_
    rintro rfl
    revert hl
    decide
  have haccepts : Accepts ⟨.root, ["p"]⟩ crookedSettings.moduleName := by
    rw [hmodule]
    exact ⟨by decide, by decide⟩
  have hroot : installed.find (Catalog.pathOf ⟨.root, ["t"]⟩ "vanilla") =
      .ok (["t", "template-vanilla"], .directory) := rfl
  obtain ⟨-, -, hrender⟩ := renderTemplate_vanilla crookedSettings "\x7b% identifier %\x7d"
  obtain ⟨fs', hyields, -⟩ := (hrender installed_rooted hroot installed_holds hfresh).2
    (makeDirectories_true_of_false hmade) hout (by decide) haccepts
  rw [hmodule] at hyields
  exact ⟨hmodule, fs', hyields⟩

end Scaffold.Tree.Bundled
