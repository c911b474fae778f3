import EntityViews.Binary64.Layout
import EntityViews.Command
import EntityViews.CommandLine
import EntityViews.Declaration.Reader
import EntityViews.Declaration.Writer
import EntityViews.Entity.Normalize
import EntityViews.Entity.Writer
import EntityViews.EntityOptions
import EntityViews.Journal
import EntityViews.Json.Printer
import EntityViews.Main
import EntityViews.Manifest.File
import EntityViews.Proofs.FirstRefusal
import EntityViews.Proofs.NamedEntries
import EntityViews.Proofs.View.Unrolling
import EntityViews.Settings.File
import EntityViews.Source.Reader
import EntityViews.Source.Text
import EntityViews.View.Form
import EntityViews.Proofs.Entity.Compilation
import EntityViews.Proofs.Registry.Lookup
import EntityViews.Proofs.View.DepthLimits
import EntityViews.Proofs.View.Composition
import EntityViews.Proofs.View.Walks
import EntityViews.Proofs.View.Wording
import EntityViews.Proofs.View.FirstOffence
import EntityViews.Proofs.View.Traces
import EntityViews.Proofs.View.Fuel
import EntityViews.Proofs.Journal.Definitions
import EntityViews.Proofs.View.Reentry
import EntityViews.Proofs.Registry.Integrity
import EntityViews.Proofs.View.Forms
import EntityViews.Proofs.View.Integrity
import EntityViews.Proofs.Command.Answers
import EntityViews.Proofs.Command.Check
import EntityViews.Registry.Call
import EntityViews.Proofs.View.WellFormed
import EntityViews.Proofs.Registry.History
import EntityViews.Proofs.View.Dependence
import EntityViews.Proofs.Manifest.RoundTrip
import EntityViews.Proofs.Entity.Exactness
import EntityViews.Proofs.View.Uploads
import EntityViews.Proofs.Settings.Precedence
import EntityViews.Proofs.Journal.Repositories
import EntityViews.Proofs.Declaration.Grammar
import EntityViews.Proofs.Manifest.Registering
import EntityViews.Proofs.Json.Collapsed
import EntityViews.Proofs.View.PropertyOrder
import EntityViews.Proofs.View.Renderings
import EntityViews.Proofs.Log.Logfmt
import EntityViews.Proofs.Entity.Corrections
import EntityViews.Proofs.Registry.Queries
import EntityViews.Proofs.Settings.Startup
import EntityViews.Proofs.View.CreateUpdate
import EntityViews.Proofs.View.Identifiers
import EntityViews.Proofs.Json.Texts
import EntityViews.Proofs.View.Lossless
