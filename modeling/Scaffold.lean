import Scaffold.CommandLine.Flag
import Scaffold.CommandLine.Given
import Scaffold.CommandLine.Invocation
import Scaffold.CommandLine.Run
import Scaffold.Host.Basic
import Scaffold.Host.FileTree
import Scaffold.Host.Workspace
import Scaffold.Json.Basic
import Scaffold.Json.Members
import Scaffold.Json.Parser
import Scaffold.Json.Pointer
import Scaffold.Json.Printer
import Scaffold.Log
import Scaffold.Main
import Scaffold.Mock.AfterScript
import Scaffold.Mock.Location
import Scaffold.Mock.Rules
import Scaffold.Mock.Synthesis
import Scaffold.Mock.Writer
import Scaffold.Number.Double
import Scaffold.Number.Layout
import Scaffold.Number.Reading
import Scaffold.Number.Shortest
import Scaffold.Output.Directive
import Scaffold.Output.Report
import Scaffold.Output.Roots
import Scaffold.Output.Walk
import Scaffold.Output.Writer
import Scaffold.Path
import Scaffold.Path.Rendered
import Scaffold.Project
import Scaffold.Proofs.FileTree.Again
import Scaffold.Proofs.FileTree.Change
import Scaffold.Proofs.FileTree.Content
import Scaffold.Proofs.FileTree.Ensured
import Scaffold.Proofs.FileTree.Fresh
import Scaffold.Proofs.FileTree.Growth
import Scaffold.Proofs.FileTree.Overlay
import Scaffold.Proofs.FileTree.Parent
import Scaffold.Proofs.FileTree.Put
import Scaffold.Proofs.FileTree.Rooted
import Scaffold.Proofs.Host.Disk
import Scaffold.Proofs.Host.Journal
import Scaffold.Proofs.Host.Onward
import Scaffold.Proofs.Host.Preservation
import Scaffold.Proofs.Host.ProjectLookup
import Scaffold.Proofs.Host.Put
import Scaffold.Proofs.Host.Simulation
import Scaffold.Proofs.Json.Equality
import Scaffold.Proofs.Json.Member
import Scaffold.Proofs.Json.Numeral
import Scaffold.Proofs.Json.Printed
import Scaffold.Proofs.Json.ReadBack
import Scaffold.Proofs.Mock.Account
import Scaffold.Proofs.Mock.Confinement
import Scaffold.Proofs.Mock.Conformance
import Scaffold.Proofs.Mock.Default
import Scaffold.Proofs.Mock.Depth
import Scaffold.Proofs.Mock.File
import Scaffold.Proofs.Mock.Naming
import Scaffold.Proofs.Mock.Nesting
import Scaffold.Proofs.Mock.PageList
import Scaffold.Proofs.Mock.PageRule
import Scaffold.Proofs.Mock.Preservation
import Scaffold.Proofs.Mock.RuleOrder
import Scaffold.Proofs.Mock.Sharing
import Scaffold.Proofs.Output.Confinement
import Scaffold.Proofs.Output.Extraction
import Scaffold.Proofs.Output.Join
import Scaffold.Proofs.Output.Marker
import Scaffold.Proofs.Output.Merge
import Scaffold.Proofs.Output.Residue
import Scaffold.Proofs.Output.Settlement
import Scaffold.Proofs.Path.Components
import Scaffold.Proofs.Path.Parent
import Scaffold.Proofs.Path.Rendered
import Scaffold.Proofs.Path.Route
import Scaffold.Proofs.Path.Stack
import Scaffold.Proofs.Plan.Again
import Scaffold.Proofs.Plan.Basic
import Scaffold.Proofs.Plan.Effect
import Scaffold.Proofs.Plan.Induction
import Scaffold.Proofs.Plan.Mock
import Scaffold.Proofs.Plan.Output
import Scaffold.Proofs.Plan.Roots
import Scaffold.Proofs.Plan.Run
import Scaffold.Proofs.Plan.Settled
import Scaffold.Proofs.Plan.Unit
import Scaffold.Proofs.Plan.Walk
import Scaffold.Proofs.Plan.Written
import Scaffold.Proofs.Render.Binding
import Scaffold.Proofs.Render.Registration
import Scaffold.Proofs.Run.FirstVisit
import Scaffold.Proofs.Run.Idempotence
import Scaffold.Proofs.Run.Invariant
import Scaffold.Proofs.Run.Keeping
import Scaffold.Proofs.Run.Prepared
import Scaffold.Proofs.Run.Removal
import Scaffold.Proofs.Run.ServerFile
import Scaffold.Proofs.Run.ServerSettings
import Scaffold.Proofs.Run.ServerText
import Scaffold.Proofs.Run.Sparing
import Scaffold.Proofs.Run.Survival
import Scaffold.Proofs.Spec.Attribute
import Scaffold.Proofs.Spec.Change
import Scaffold.Proofs.Spec.Codec
import Scaffold.Proofs.Spec.Comparison
import Scaffold.Proofs.Spec.Decoded
import Scaffold.Proofs.Spec.DerivedField
import Scaffold.Proofs.Spec.Normalization
import Scaffold.Proofs.Spec.Resolution
import Scaffold.Proofs.Text.Segment
import Scaffold.Proofs.Text.Words
import Scaffold.Proofs.Walk.Account
import Scaffold.Proofs.Walk.Asset
import Scaffold.Proofs.Walk.ConfigPath
import Scaffold.Proofs.Walk.Containment
import Scaffold.Proofs.Walk.Discovery
import Scaffold.Proofs.Walk.Download
import Scaffold.Proofs.Walk.File
import Scaffold.Proofs.Walk.Helper
import Scaffold.Proofs.Walk.Landing
import Scaffold.Proofs.Walk.Removal
import Scaffold.Proofs.Walk.Roles
import Scaffold.Proofs.Walk.Scan
import Scaffold.Proofs.Walk.Scope
import Scaffold.Proofs.Walk.Tracking
import Scaffold.Proofs.Walk.Visit
import Scaffold.Proofs.Yaml.WellFormed
import Scaffold.Render.Context
import Scaffold.Render.Registry
import Scaffold.Run.Args
import Scaffold.Run.Config
import Scaffold.Run.Generate
import Scaffold.Run.LogConfig
import Scaffold.Run.LogRecord
import Scaffold.Run.Policy
import Scaffold.Run.ServerConfig
import Scaffold.Run.Settings
import Scaffold.Script.Evaluator
import Scaffold.Script.Library
import Scaffold.Script.Machine
import Scaffold.Script.Operator
import Scaffold.Script.Parser
import Scaffold.Script.Syntax
import Scaffold.Script.Token
import Scaffold.Script.Value
import Scaffold.Spec.Document
import Scaffold.Spec.Entity
import Scaffold.Spec.Export
import Scaffold.Spec.Load
import Scaffold.Spec.Shape
import Scaffold.Template.Condition
import Scaffold.Template.Helper
import Scaffold.Template.Parser
import Scaffold.Template.Piece
import Scaffold.Template.Reader
import Scaffold.Template.Render
import Scaffold.Template.Syntax
import Scaffold.Template.Value
import Scaffold.Text.Blank
import Scaffold.Text.Case
import Scaffold.Text.CaseTables
import Scaffold.Text.CharClasses
import Scaffold.Text.Quoted
import Scaffold.Text.Segment
import Scaffold.Text.Words
import Scaffold.Yaml.Cursor
import Scaffold.Yaml.Data
import Scaffold.Yaml.Node
import Scaffold.Yaml.Scalar
import Scaffold.Yaml.Token
