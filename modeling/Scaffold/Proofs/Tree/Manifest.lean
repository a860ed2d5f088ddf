import Mathlib.Tactic.Lemma
import Scaffold.Proofs.Json.Scanning
import Scaffold.Proofs.Template.Printing
import Scaffold.Proofs.Tree.Bundled

/-!
# The manifest of an application

The bundled template `appManifest` puts the name of a project and the identifier of the application
between quotes as they are. Whether that gives a text in JSON depends on their characters.

* `manifestText`: the characters of the manifest. `render_appManifest` says that the template renders
  to them.
* `manifest`: the value that the manifest is meant for.
* `manifest_isWritten_iff`: the manifest is written for this value exactly when the name and the
  identifier hold no quote, no backslash and no control character.
-/

namespace Scaffold.Tree.Bundled

open Template Json

/-! ## The text -/

/-- What stands before the name of the product, without the quote. -/
def beforeName : String :=
  "\x7b\n  \"productName\": "

/-- What stands between the name of the product and the identifier, without the quotes. -/
def beforeIdentifier : String :=
  ",\n  \"identifier\": "

/-- What stands between the identifier and the title of the window, without the quotes. -/
def beforeTitle : String :=
  ",\n  \"app\": \x7b\n    \"windows\": [\n      \x7b\n        \"title\": "

/-- What stands behind the title of the window, without the quote. -/
def afterTitle : String :=
  ",\n        \"width\": 800,\n        \"height\": 600\n      \x7d\n    ]\n  \x7d\n\x7d\n"

/-- The statements of the template. -/
def manifestStatements : List Statement :=
  [.text (String.ofList (beforeName.toList ++ ['"'])), .variable "project_name",
    .text (String.ofList ('"' :: beforeIdentifier.toList ++ ['"'])), .variable "identifier",
    .text (String.ofList ('"' :: beforeTitle.toList ++ ['"'])), .variable "project_name",
    .text (String.ofList ('"' :: afterTitle.toList))]

/-- The characters of the manifest of an application with a name and an identifier. -/
def manifestText (name identifier : String) : List Char :=
  beforeName.toList ++ '"' :: (name.toList ++ '"' :: (beforeIdentifier.toList ++
    '"' :: (identifier.toList ++ '"' :: (beforeTitle.toList ++
      '"' :: (name.toList ++ '"' :: afterTitle.toList)))))

/-- The manifest of the template is the printed form of its statements. -/
lemma toList_appManifest : appManifest.toList = printAll manifestStatements := by
  rw [appManifest]
  repeat rw [toList_lines_cons, String.toList_ofList]
  rw [toList_lines_nil]
  simp only [manifestStatements, printAll_cons, printAll_nil, print_text, print_variable, separator,
    directive, String.toList_ofList]
  rw [beforeName, beforeIdentifier, beforeTitle, afterTitle]
  repeat rw [String.toList_ofList]
  decide +kernel

/-- Characters without an opening bracket are the content of a text. -/
lemma isTextContent_ofList {cs : List Char} (hne : cs ≠ []) (h : ¬ openChars <:+: cs) :
    IsTextContent (String.ofList cs) :=
  ⟨by simpa using hne, by rwa [String.toList_ofList]⟩

/-- The statements of the manifest can be printed. -/
lemma printable_manifestStatements : Printable manifestStatements := by
  have hname : IsVariableName "project_name" :=
    ⟨⟨'p', _, rfl, by decide, List.all_eq_true.mp (by decide)⟩, by decide⟩
  have hidentifier : IsVariableName "identifier" :=
    ⟨⟨'i', _, rfl, by decide, List.all_eq_true.mp (by decide)⟩, by decide⟩
  have hbeforeName : ¬ openChars <:+: beforeName.toList ++ ['"'] := by
    rw [beforeName, String.toList_ofList]
    decide
  have hbeforeIdentifier : ¬ openChars <:+: '"' :: beforeIdentifier.toList ++ ['"'] := by
    rw [beforeIdentifier, String.toList_ofList]
    decide
  have hbeforeTitle : ¬ openChars <:+: '"' :: beforeTitle.toList ++ ['"'] := by
    rw [beforeTitle, String.toList_ofList]
    decide
  have hafterTitle : ¬ openChars <:+: '"' :: afterTitle.toList := by
    rw [afterTitle, String.toList_ofList]
    decide
  simp only [Printable, manifestStatements, allBuiltFrom_cons, allBuiltFrom_nil, builtFrom_text,
    builtFrom_variable, and_true]
  exact ⟨isTextContent_ofList (by simp) hbeforeName, hname,
    isTextContent_ofList (by simp) hbeforeIdentifier, hidentifier,
    isTextContent_ofList (by simp) hbeforeTitle, hname,
    isTextContent_ofList (by simp) hafterTitle⟩

/-- The manifest of the template is read as those statements. -/
lemma parse_appManifest : parse appManifest = .ok manifestStatements := by
  have hprint : print manifestStatements = appManifest := by
    rw [print, ← toList_appManifest, String.ofList_toList]
  rw [← hprint]
  exact parse_print printable_manifestStatements

/-- The template renders to the manifest of the application. -/
lemma render_appManifest (s : Settings) (identifier : String) :
    render appManifest (s.bindings identifier) =
      .ok (String.ofList (manifestText s.displayName identifier)) := by
  have hname : (s.bindings identifier).find "project_name" = .ok s.displayName := rfl
  have hidentifier : (s.bindings identifier).find "identifier" = .ok identifier := rfl
  rw [render, parse_appManifest]
  simp only [manifestStatements, evaluateAll, evaluate, hname, hidentifier, bind, Except.bind, pure,
    Except.pure, Except.ok.injEq, manifestText]
  rw [← String.toList_inj]
  simp only [String.toList_append, String.toList_ofList, String.toList_empty, List.append_assoc,
    List.cons_append, List.nil_append, List.append_nil]

/-! ## The value -/

/-- The manifest of an application with a name and an identifier. -/
def manifest (name identifier : String) : Value :=
  .object [("productName", .string name), ("identifier", .string identifier),
    ("app", .object [("windows", .array [.object [("title", .string name),
      ("width", .number "800"), ("height", .number "600")]])])]

/-- The tokens of `beforeName`. -/
def nameTokens : List Json.Token :=
  [.symbol '\x7b', .string "productName", .symbol ':']

/-- The tokens of `beforeIdentifier`. -/
def identifierTokens : List Json.Token :=
  [.symbol ',', .string "identifier", .symbol ':']

/-- The tokens of `beforeTitle`. -/
def titleTokens : List Json.Token :=
  [.symbol ',', .string "app", .symbol ':', .symbol '\x7b', .string "windows", .symbol ':',
    .symbol '[', .symbol '\x7b', .string "title", .symbol ':']

/-- The tokens of `afterTitle`. -/
def endTokens : List Json.Token :=
  [.symbol ',', .string "width", .symbol ':', .number "800", .symbol ',', .string "height",
    .symbol ':', .number "600", .symbol '\x7d', .symbol ']', .symbol '\x7d', .symbol '\x7d']

/-- The tokens of a manifest: what is fixed, with three strings in between. -/
lemma tokens_manifest (name identifier : String) :
    (manifest name identifier).tokens = nameTokens ++ Json.Token.string name ::
      (identifierTokens ++ Json.Token.string identifier ::
        (titleTokens ++ Json.Token.string name :: endTokens)) := rfl

/-- The tokens in front of the name. -/
lemma scan_beforeName : scan beforeName.toList = some nameTokens := by
  rw [beforeName, String.toList_ofList]
  decide +kernel

/-- The tokens between the name and the identifier. -/
lemma scan_beforeIdentifier : scan beforeIdentifier.toList = some identifierTokens := by
  rw [beforeIdentifier, String.toList_ofList]
  decide +kernel

/-- The tokens between the identifier and the title. -/
lemma scan_beforeTitle : scan beforeTitle.toList = some titleTokens := by
  rw [beforeTitle, String.toList_ofList]
  decide +kernel

/-- The tokens behind the title. -/
lemma scan_afterTitle : scan afterTitle.toList = some endTokens := by
  rw [afterTitle, String.toList_ofList]
  decide +kernel

/-- The text is written for the manifest exactly when the name and the identifier can stand between
quotes as they are. -/
lemma manifest_isWritten_iff (name identifier : String) :
    (manifest name identifier).IsWritten (String.ofList (manifestText name identifier)) ↔
      (∀ c ∈ name.toList, isPlain c = true) ∧ ∀ c ∈ identifier.toList, isPlain c = true := by
  have hnameEnd : beforeName.toList.getLast? = some ' ' := by
    rw [beforeName, String.toList_ofList]
    decide
  have hidentifierEnd : beforeIdentifier.toList.getLast? = some ' ' := by
    rw [beforeIdentifier, String.toList_ofList]
    decide
  have htitleEnd : beforeTitle.toList.getLast? = some ' ' := by
    rw [beforeTitle, String.toList_ofList]
    decide
  have hspace : ∀ c ∈ some ' ', isBare c = false := by
    rintro _ ⟨⟩
    decide
  have hidentifier : [',', '\n'] <+: beforeIdentifier.toList := by
    rw [beforeIdentifier, String.toList_ofList]
    decide
  have htitle : [',', '\n'] <+: beforeTitle.toList := by
    rw [beforeTitle, String.toList_ofList]
    decide
  have hend : [',', '\n'] <+: afterTitle.toList := by
    rw [afterTitle, String.toList_ofList]
    decide
  rw [Value.IsWritten, String.toList_ofList, tokens_manifest, manifestText,
    scan_quoted_iff scan_beforeName (hnameEnd ▸ hspace)
      (hidentifier.trans (List.prefix_append _ _)),
    scan_quoted_iff scan_beforeIdentifier (hidentifierEnd ▸ hspace)
      (htitle.trans (List.prefix_append _ _)),
    scan_quoted_iff scan_beforeTitle (htitleEnd ▸ hspace) hend]
  simp only [scan_afterTitle, and_true]
  exact ⟨fun h => ⟨h.1, h.2.1⟩, fun h => ⟨h.1, h.2, h.1⟩⟩

/-- **The projects whose manifest is in JSON.** For every project the template of the manifest
renders. The text is written for the manifest with the name and the identifier in their places exactly
when neither of them holds a quote, a backslash or a control character. -/
theorem exists_render_appManifest (s : Settings) (identifier : String) :
    ∃ text, render appManifest (s.bindings identifier) = .ok text ∧
      ((manifest s.displayName identifier).IsWritten text ↔
        (∀ c ∈ s.displayName.toList, isPlain c = true) ∧ ∀ c ∈ identifier.toList, isPlain c = true) :=
  ⟨_, render_appManifest s identifier, manifest_isWritten_iff s.displayName identifier⟩

/-- A project with a quote in its name. -/
def quotedProject : Settings where
  projectName := some "a\"b"
  workingDirectory := ⟨.root, ["work"]⟩

/-- The manifest of `quotedProject` is in JSON for no value at all. -/
theorem not_isWritten_of_quote :
    ∃ text, render appManifest (quotedProject.bindings "com.example.app") = .ok text ∧
      ∀ v : Value, ¬ v.IsWritten text := by
  have hrender := render_appManifest quotedProject "com.example.app"
  have hname : quotedProject.displayName = "a\"b" := by decide
  have hscan : scan (manifestText "a\"b" "com.example.app") = none := by
    rw [manifestText, beforeName, beforeIdentifier, beforeTitle, afterTitle]
    repeat rw [String.toList_ofList]
    decide +kernel
  rw [hname] at hrender
  have hnone (v : Value) : ¬ v.IsWritten (String.ofList (manifestText "a\"b" "com.example.app")) := by
    rw [Value.IsWritten, String.toList_ofList, hscan]
    nofun
  exact Exists.intro _ (And.intro hrender hnone)

end Scaffold.Tree.Bundled
