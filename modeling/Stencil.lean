import Stencil.Api.Document
import Stencil.Api.Fault
import Stencil.Api.Groups
import Stencil.Api.Operations
import Stencil.Api.Schemas
import Stencil.Api.Types
import Stencil.CommandLine.Command
import Stencil.CommandLine.Footprint
import Stencil.CommandLine.Run
import Stencil.CommandLine.Usage
import Stencil.Compilation
import Stencil.Decimal.Reading
import Stencil.Decimal.Shortest
import Stencil.Directories
import Stencil.Engine
import Stencil.Error
import Stencil.Files.Disk
import Stencil.Files.Tree
import Stencil.Files.Path
import Stencil.Log
import Stencil.Main
import Stencil.Manifest.Basic
import Stencil.Manifest.Decode
import Stencil.Manifest.Load
import Stencil.Manifest.Rules
import Stencil.Render.Context
import Stencil.Render.Options
import Stencil.Render.Pass
import Stencil.Render.Report
import Stencil.Render.Scope
import Stencil.Render.Writer
import Stencil.Repository
import Stencil.Source.Address
import Stencil.Source.Format
import Stencil.Source.Load
import Stencil.Target.Location
import Stencil.Target.Reference
import Stencil.Template.Arithmetic
import Stencil.Template.Blanks
import Stencil.Template.Check
import Stencil.Template.Dump
import Stencil.Template.Evaluate
import Stencil.Template.Fault
import Stencil.Template.Filter
import Stencil.Template.Formula
import Stencil.Template.Function
import Stencil.Template.Library
import Stencil.Template.Scope
import Stencil.Template.Statement
import Stencil.Template.Syntax
import Stencil.Template.Token
import Stencil.Text.Alphanumeric
import Stencil.Text.Cluster
import Stencil.Text.Letter
import Stencil.Text.LetterCase
import Stencil.Text.Pattern
import Stencil.Text.Spans
import Stencil.Text.WholeCase
import Stencil.Text.WordCharacter
import Stencil.Text.Words
import Stencil.Toml.Read
import Stencil.Toml.Scalar
import Stencil.Toml.Table
import Stencil.Toml.Text
import Stencil.Value.Basic
import Stencil.Value.Datum
import Stencil.Value.Dump
import Stencil.Value.Json
import Stencil.Value.Plain
import Stencil.Value.Pointer
import Stencil.Value.Text
import Stencil.Yaml.Cursor
import Stencil.Yaml.Node
import Stencil.Yaml.Read
import Stencil.Yaml.Resolve
import Stencil.Yaml.Scalar
import Stencil.Yaml.Token
import Stencil.Proofs.Path.Components
import Stencil.Proofs.Target.Names
import Stencil.Proofs.Template.Pages
import Stencil.Proofs.Template.Parts
import Stencil.Proofs.Engine
import Stencil.Proofs.Compilation.Targets
import Stencil.Proofs.Pass.Steps
import Stencil.Proofs.Pass.Calls
import Stencil.Proofs.Pass.Records
import Stencil.Proofs.Pass.Preview
import Stencil.Proofs.Pass.Confinement
import Stencil.Proofs.Api.Grouping
import Stencil.Proofs.Api.Acceptance
import Stencil.Proofs.Value.Pointers
import Stencil.Proofs.Value.Keys
import Stencil.Proofs.Api.Schemas
import Stencil.Proofs.Api.Abbreviation
import Stencil.Proofs.Files.Places
import Stencil.Proofs.Files.Growth
import Stencil.Proofs.Pass.Output
import Stencil.Proofs.Pass.Filters
import Stencil.Proofs.Pass.Warnings
import Stencil.Proofs.Pass.Models
import Stencil.Proofs.Repository.Scan
import Stencil.Proofs.Manifest.Templates
import Stencil.Proofs.Path.Inside
import Stencil.Proofs.Compilation.Reads
import Stencil.Proofs.Api.Routes
import Stencil.Proofs.Compilation.Names
import Stencil.Proofs.Target.Resolution
import Stencil.Proofs.Pass.Shown
import Stencil.Proofs.Api.Parameters
import Stencil.Proofs.Manifest.Rules
import Stencil.Proofs.Text.Letters
import Stencil.Proofs.Text.Words
import Stencil.Proofs.Text.Cases
import Stencil.Proofs.Text.Humps
import Stencil.Proofs.Target.References
import Stencil.Proofs.Target.Variables
import Stencil.Proofs.Api.Identifiers
import Stencil.Proofs.Manifest.Records
import Stencil.Proofs.Manifest.Spellings
