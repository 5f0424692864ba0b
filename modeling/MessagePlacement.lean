import MessagePlacement.Main
import MessagePlacement.Session
import MessagePlacement.Proofs.Segments
import MessagePlacement.Proofs.Splitting
import MessagePlacement.Proofs.Text.CaseVariants
import MessagePlacement.Proofs.Language
import MessagePlacement.Proofs.Filling
import MessagePlacement.Proofs.Lookup
import MessagePlacement.Proofs.Sorting
import MessagePlacement.Proofs.History
import MessagePlacement.Proofs.Registry
import MessagePlacement.Proofs.Registry.Additions
import MessagePlacement.Proofs.Tree.Location
import MessagePlacement.Proofs.Tree.Traversal
import MessagePlacement.Proofs.Tree.Insertion
import MessagePlacement.Proofs.Tree.Entries
import MessagePlacement.Proofs.Tree.Structure
import MessagePlacement.Proofs.Configuration.Faults
import MessagePlacement.Proofs.Loading
import MessagePlacement.Proofs.Loading.Causes
import MessagePlacement.Proofs.CommandLine.Planning
import MessagePlacement.Proofs.CommandLine.Endings
import MessagePlacement.Proofs.Tree.Preorder
import MessagePlacement.Proofs.Tree.Contents
import MessagePlacement.Proofs.Tree.Flattening
import MessagePlacement.Proofs.Tree.Likeness
import MessagePlacement.Proofs.Plan.Assignment
import MessagePlacement.Proofs.Plan.Level
import MessagePlacement.Proofs.Plan.Folding
import MessagePlacement.Proofs.Plan.Depth
import MessagePlacement.Proofs.Plan.Shape
import MessagePlacement.Proofs.Plan.Message
import MessagePlacement.Proofs.Plan.Namespace
import MessagePlacement.Proofs.Plan.Comparison
import MessagePlacement.Proofs.Plan.Order
import MessagePlacement.Proofs.Plan.Subtree
import MessagePlacement.Proofs.Layout.Contents
import MessagePlacement.Proofs.Layout.Refusal
import MessagePlacement.Proofs.Layout.Groups
import MessagePlacement.Proofs.Layout.Coverage
import MessagePlacement.Proofs.Layout.Directory
import MessagePlacement.Proofs.Layout.Collision
import MessagePlacement.Proofs.Layout.Reference
import MessagePlacement.Proofs.Layout.Ancestor
import MessagePlacement.Proofs.Layout.Namespace
import MessagePlacement.Proofs.Layout.Division
import MessagePlacement.Proofs.Layout.Package
import MessagePlacement.Proofs.Layout.Growth
import MessagePlacement.Proofs.Layout.Locality
import MessagePlacement.Proofs.Session.Operations
import MessagePlacement.Proofs.Session.Start
import MessagePlacement.Proofs.Session.Lifecycle
import MessagePlacement.Proofs.Session.Order
import MessagePlacement.Proofs.Outcome
import MessagePlacement.Proofs.Json.Scalar
import MessagePlacement.Proofs.Json.RoundTrip
import MessagePlacement.Proofs.Json.Errors
import MessagePlacement.Proofs.Report.Entries
import MessagePlacement.Proofs.Report.Reading
import MessagePlacement.Proofs.Report.Consistency
import MessagePlacement.Proofs.Files.Route
import MessagePlacement.Proofs.Files.Passage
import MessagePlacement.Proofs.Files.Making
import MessagePlacement.Proofs.Files.Writing
import MessagePlacement.Proofs.Toml.Keys
import MessagePlacement.Proofs.Configuration.Fields
import MessagePlacement.Proofs.Configuration.Languages
import MessagePlacement.Proofs.Libraries
import MessagePlacement.Proofs.Configuration.Document
import MessagePlacement.Proofs.Configuration.Table
import MessagePlacement.Proofs.Configuration.Source
import MessagePlacement.Proofs.Configuration.Precedence
import MessagePlacement.Proofs.Configuration.Faults
import MessagePlacement.Proofs.Loading
import MessagePlacement.Proofs.Loading.Causes
import MessagePlacement.Proofs.CommandLine.Planning
import MessagePlacement.Proofs.CommandLine.Endings
import MessagePlacement.Proofs.Tree.Preorder
