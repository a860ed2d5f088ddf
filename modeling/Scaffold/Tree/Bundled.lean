import Scaffold.FileSystem.Basic

/-!
# The bundled template

The template `vanilla`: a small desktop application with a window, a page in it, and one command
that the page can call. It is installed into a file system as a tree of files.

* `Bundled.vanilla`: the entries of the template, by their locations in it.
* `Bundled.install`: the template put into a directory of a file system.
-/

namespace Scaffold.Tree.Bundled

/-! ## Files -/

/-- A text of lines, each of which is ended. -/
def lines (ls : List String) : String :=
  String.join (ls.map (· ++ "\n"))

/-- The makefile, with which a project is set up, built and run. -/
def makefile : String := lines [
  "SWIFT ?= swift",
  "",
  ".PHONY: bootstrap build run",
  "",
  "bootstrap:",
  "\t$(SWIFT) package resolve",
  "",
  "build:",
  "\t$(SWIFT) build",
  "",
  "run:",
  "\t$(SWIFT) run"]

/-- The manifest of the package. -/
def packageManifest : String := lines [
  "// swift-tools-version: 5.9",
  "import PackageDescription",
  "",
  "let package = Package(",
  "  name: \"\x7b% package_name %\x7d\",",
  "  platforms: [",
  "    .macOS(.v13)",
  "  ],",
  "  dependencies: [",
  "    \x7b% velox_dependency %\x7d",
  "  ],",
  "  targets: [",
  "    .executableTarget(",
  "      name: \"\x7b% swift_module_name %\x7d\",",
  "      dependencies: [",
  "        .product(name: \"VeloxRuntimeWry\", package: \"velox\")",
  "      ],",
  "      resources: [",
  "        .copy(\"Resources\")",
  "      ]",
  "    )",
  "  ]",
  ")"]

/-- The first thing to read. -/
def readme : String := lines [
  "# \x7b% project_name %\x7d",
  "",
  "A desktop app built with [Velox](https://github.com/velox-apps/velox).",
  "",
  "## Getting started",
  "",
  "```sh",
  "make bootstrap",
  "swift build",
  "swift run \x7b% swift_module_name %\x7d",
  "```",
  "\x7b% if velox_local %\x7d",
  "This project depends on a local Velox checkout. Keep it in place or switch",
  "`Package.swift` back to the GitHub dependency before sharing the project.",
  "\x7b% else %\x7d",
  "Velox is fetched from GitHub on the first build.",
  "\x7b% endif %\x7d",
  "Set `VELOX_DEV_URL` to load a dev server instead of the bundled UI."]

/-- The script of the page. -/
def script : String := lines [
  "async function invoke(command, args = \x7b\x7d) \x7b",
  "  const response = await fetch(`ipc://localhost/$\x7bcommand\x7d`, \x7b",
  "    method: \"POST\",",
  "    headers: \x7b \"Content-Type\": \"application/json\" \x7d,",
  "    body: JSON.stringify(args)",
  "  \x7d);",
  "  const data = await response.json();",
  "  if (data.error) \x7b",
  "    throw new Error(data.error);",
  "  \x7d",
  "  return data.result;",
  "\x7d",
  "",
  "const form = document.querySelector(\"#form\");",
  "const nameEl = document.querySelector(\"#name\");",
  "const messageEl = document.querySelector(\"#message\");",
  "",
  "form.addEventListener(\"submit\", async (e) => \x7b",
  "  e.preventDefault();",
  "  try \x7b",
  "    const name = nameEl.value || \"World\";",
  "    const message = await invoke(\"greet\", \x7b name \x7d);",
  "    messageEl.textContent = message;",
  "  \x7d catch (err) \x7b",
  "    messageEl.textContent = \"Error: \" + err.message;",
  "  \x7d",
  "\x7d);",
  "",
  "console.log(\"Velox app loaded from bundled assets!\");"]

/-- The style of the page. -/
def styleSheet : String := lines [
  "body \x7b",
  "  font-family: -apple-system, BlinkMacSystemFont, sans-serif;",
  "  margin: 0;",
  "  display: flex;",
  "  justify-content: center;",
  "  padding-top: 15vh;",
  "\x7d",
  "",
  "main \x7b",
  "  text-align: center;",
  "\x7d",
  "",
  "input,",
  "button \x7b",
  "  font-size: 1em;",
  "  padding: 0.4em 0.8em;",
  "\x7d"]

/-- The page that the program shows. -/
def page : String := lines [
  "<!DOCTYPE html>",
  "<html lang=\"en\">",
  "  <head>",
  "    <meta charset=\"UTF-8\" />",
  "    <title>\x7b% project_name %\x7d</title>",
  "    <link rel=\"stylesheet\" href=\"assets/style.css\" />",
  "  </head>",
  "  <body>",
  "    <main>",
  "      <h1>Welcome to \x7b% project_name %\x7d</h1>",
  "      <form id=\"form\">",
  "        <input id=\"name\" placeholder=\"Enter a name...\" />",
  "        <button type=\"submit\">Greet</button>",
  "      </form>",
  "      <p id=\"message\"></p>",
  "    </main>",
  "    <script src=\"assets/app.js\"></script>",
  "  </body>",
  "</html>"]

/-- The program. -/
def mainSource : String := lines [
  "import Foundation",
  "import VeloxRuntimeWry",
  "",
  "let app = VeloxApp(",
  "  identifier: \"\x7b% identifier %\x7d\",",
  "  title: \"\x7b% project_name %\x7d\",",
  "  assets: Bundle.module.resourceURL!.appendingPathComponent(\"Resources\")",
  ")",
  "",
  "app.command(\"greet\") \x7b (args: [String: String]) in",
  "  let name = args[\"name\"] ?? \"World\"",
  "  return \"Hello, \\(name)! Greetings from \x7b% swift_module_name %\x7d.\"",
  "\x7d",
  "",
  "app.run()"]

/-- What the version control passes over. -/
def ignoreList : String := lines [
  ".build/",
  ".swiftpm/",
  "*.xcodeproj",
  "DerivedData/",
  ".DS_Store"]

/-- The manifest of the application. -/
def appManifest : String := lines [
  "\x7b",
  "  \"productName\": \"\x7b% project_name %\x7d\",",
  "  \"identifier\": \"\x7b% identifier %\x7d\",",
  "  \"app\": \x7b",
  "    \"windows\": [",
  "      \x7b",
  "        \"title\": \"\x7b% project_name %\x7d\",",
  "        \"width\": 800,",
  "        \"height\": 600",
  "      \x7d",
  "    ]",
  "  \x7d",
  "\x7d"]

/-! ## The tree -/

/-- The directory of the sources of the module. -/
def moduleDirectory : Location := ["Sources", "__swift_module_name__"]

/-- The directory of what the program loads when it runs. -/
def resources : Location := moduleDirectory ++ ["Resources"]

/-- A file with a text. -/
def textFile (s : String) : Entry :=
  .file s.toByteArray

/-- The entries of the template, every directory before what lies in it. -/
def vanilla : List (Location × Entry) :=
  [(["Makefile"], textFile makefile),
    (["Package.swift.lte"], textFile packageManifest),
    (["README.md.lte"], textFile readme),
    (["Sources"], .directory),
    (moduleDirectory, .directory),
    (resources, .directory),
    (resources ++ ["assets"], .directory),
    (resources ++ ["assets", "app.js"], textFile script),
    (resources ++ ["assets", "style.css"], textFile styleSheet),
    (resources ++ ["index.html.lte"], textFile page),
    (moduleDirectory ++ ["main.swift.lte"], textFile mainSource),
    (["_gitignore"], textFile ignoreList),
    (["velox.json.lte"], textFile appManifest)]

/-- A file system in which a directory holds the bundled template. -/
def install (fs : FileSystem) (root : Location) : FileSystem :=
  let home := root ++ ["template-vanilla"]
  vanilla.foldl (fun fs x => fs.put (home ++ x.1) x.2)
    ((fs.put root .directory).put home .directory)

end Scaffold.Tree.Bundled
