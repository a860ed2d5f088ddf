import Scaffold.Text.Blank
import Scaffold.Text.Capital
import Scaffold.Text.Case
import Scaffold.Text.Letter
import Scaffold.Text.Numeral
import Scaffold.Text.Printable
import Scaffold.Text.Quoted
import Scaffold.Text.Replace
import Scaffold.Text.Utf8
import Scaffold.Template.Render
import Scaffold.Template.Descent
import Scaffold.Template.Stream
import Scaffold.Project.Name
import Scaffold.Path
import Scaffold.FileSystem.Access
import Scaffold.Tree.Bundled
import Scaffold.Tree.Catalog
import Scaffold.Tree.Target
import Scaffold.Settings.Conventions
import Scaffold.Settings.Environment
import Scaffold.Host
import Scaffold.Subprocess
import Scaffold.Terminal
import Scaffold.Shell.Run
import Scaffold.CommandLine.Run
import Scaffold.Main
import Scaffold.Proofs.Template.Grammar
import Scaffold.Proofs.Text.Classes
import Scaffold.Proofs.Template.Scanning
import Scaffold.Proofs.Template.Printing
import Scaffold.Proofs.Template.Tracing
import Scaffold.Proofs.Template.Provenance
import Scaffold.Proofs.Template.Joining
import Scaffold.Proofs.Template.Branching
import Scaffold.Proofs.FileSystem.Naming
import Scaffold.Proofs.FileSystem.Overlay
import Scaffold.Proofs.FileSystem.Finding
import Scaffold.Proofs.FileSystem.Hosting
import Scaffold.Proofs.FileSystem.Making
import Scaffold.Proofs.Tree.Forest
import Scaffold.Proofs.Tree.Working
import Scaffold.Proofs.Tree.Image
import Scaffold.Proofs.Tree.Visiting
import Scaffold.Proofs.Ending
import Scaffold.Proofs.FileSystem.Outcome
import Scaffold.Proofs.FileSystem.Rooted
import Scaffold.Proofs.FileSystem.Gaining
import Scaffold.Proofs.FileSystem.Resolving
import Scaffold.Proofs.FileSystem.Changing
import Scaffold.Proofs.FileSystem.Counting
import Scaffold.Proofs.FileSystem.Refusing
import Scaffold.Proofs.FileSystem.Clearing
import Scaffold.Proofs.FileSystem.Needing
import Scaffold.Proofs.FileSystem.Onward
import Scaffold.Proofs.FileSystem.Providing
import Scaffold.Proofs.FileSystem.Relaying
import Scaffold.Proofs.Tree.Stopping
import Scaffold.Proofs.Tree.Tracking
import Scaffold.Proofs.Tree.Adding
import Scaffold.Proofs.Tree.Noting
import Scaffold.Proofs.Tree.Depth
import Scaffold.Proofs.Tree.Delivering
import Scaffold.Proofs.Tree.Itinerary
import Scaffold.Proofs.Tree.FailFast
import Scaffold.Proofs.Tree.Confinement
import Scaffold.Proofs.Tree.Preparing
import Scaffold.Proofs.Tree.Emptying
import Scaffold.Proofs.Tree.Lookup
import Scaffold.Proofs.Tree.Reporting
import Scaffold.Proofs.CommandLine.Creating
import Scaffold.Proofs.CommandLine.Consent
import Scaffold.Proofs.CommandLine.NewProject
import Scaffold.Proofs.CommandLine.UnknownTemplate
import Scaffold.Proofs.CommandLine.Unattended
import Scaffold.Proofs.CommandLine.Reporting
import Scaffold.Proofs.Tree.Destination
import Scaffold.Proofs.Template.Shape
import Scaffold.Proofs.Template.Descent
import Scaffold.Proofs.Template.Brackets
import Scaffold.Proofs.Template.Viability
import Scaffold.Proofs.Template.Rereading
import Scaffold.Proofs.Template.Spacing
import Scaffold.Proofs.Template.Streaming
import Scaffold.Proofs.Template.Interpolating
import Scaffold.Proofs.Text.Casing
import Scaffold.Proofs.Text.Replacing
import Scaffold.Proofs.Project.Naming
import Scaffold.Proofs.Project.Words
import Scaffold.Proofs.Project.Identifier
import Scaffold.Proofs.Project.Normalising
import Scaffold.Proofs.Project.Whereabouts
import Scaffold.Proofs.Json.Value
import Scaffold.Proofs.Json.Scanning
import Scaffold.Proofs.Template.Binding
import Scaffold.Proofs.Tree.Bundled
import Scaffold.Proofs.Tree.Manifest
import Scaffold.Proofs.Tree.Conventions
import Scaffold.Proofs.Tree.Faultless
import Scaffold.Proofs.Tree.Vanilla
import Scaffold.Proofs.Tree.Copying
import Scaffold.Proofs.Tree.Repeating
import Scaffold.Proofs.Tree.Placing
import Scaffold.Proofs.Tree.Discovery
