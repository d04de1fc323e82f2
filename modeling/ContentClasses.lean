import ContentClasses.Association
import ContentClasses.CommandLine.Arguments
import ContentClasses.CommandLine.Run
import ContentClasses.CommandLine.Switch
import ContentClasses.Diagnostics.Collector
import ContentClasses.Diagnostics.Level
import ContentClasses.Diagnostics.Reader
import ContentClasses.Files.Cause
import ContentClasses.Files.Path
import ContentClasses.Files.System
import ContentClasses.Files.Tree
import ContentClasses.Found
import ContentClasses.Generation.Error
import ContentClasses.Generation.Run
import ContentClasses.Java.Emitter
import ContentClasses.Java.Imports
import ContentClasses.Java.Profile
import ContentClasses.Java.Source
import ContentClasses.Json.Printer
import ContentClasses.Json.Problem
import ContentClasses.Json.Reader
import ContentClasses.Json.Scan
import ContentClasses.Json.Skip
import ContentClasses.Json.Value
import ContentClasses.Main
import ContentClasses.Model.Batch
import ContentClasses.Model.Build
import ContentClasses.Model.ClassSpec
import ContentClasses.Model.Json
import ContentClasses.Naming.Codename
import ContentClasses.Naming.FreeName
import ContentClasses.Naming.Identifier
import ContentClasses.Number.Binary64
import ContentClasses.Number.Shortest
import ContentClasses.Output.Directory
import ContentClasses.Proofs.Diagnostics.Collector
import ContentClasses.Proofs.Files.Growth
import ContentClasses.Proofs.Files.Operations
import ContentClasses.Proofs.Files.Path
import ContentClasses.Proofs.Generation.Calls
import ContentClasses.Proofs.Generation.Success
import ContentClasses.Proofs.Java.Emitter
import ContentClasses.Proofs.Model.ClassNames
import ContentClasses.Proofs.Model.Fields
import ContentClasses.Proofs.Model.Findings
import ContentClasses.Proofs.Model.Report
import ContentClasses.Proofs.Naming.Codename
import ContentClasses.Proofs.Naming.FreeName
import ContentClasses.Proofs.Naming.Identifier
import ContentClasses.Proofs.Output.Directory
import ContentClasses.Proofs.Text.Pieces
import ContentClasses.Schema.ContentType
import ContentClasses.Schema.Reader
import ContentClasses.Schema.TypeDescriptor
import ContentClasses.Settings.Basic
import ContentClasses.Settings.Decode
import ContentClasses.Settings.Environment
import ContentClasses.Settings.Fault
import ContentClasses.Settings.Host
import ContentClasses.Settings.Json
import ContentClasses.Settings.KeyPath
import ContentClasses.Settings.Layer
import ContentClasses.Settings.Load
import ContentClasses.Settings.Shape
import ContentClasses.Settings.Written
import ContentClasses.Text.Capital
import ContentClasses.Text.Glyphless
import ContentClasses.Text.Quoted
import ContentClasses.Text.Resemblance
import ContentClasses.Text.WordSet
import ContentClasses.Toml.DateTime
import ContentClasses.Toml.Document
import ContentClasses.Toml.Numbers
import ContentClasses.Toml.Scan
import ContentClasses.Toml.Strings
import ContentClasses.Toml.Value
import ContentClasses.Toml.Written
import ContentClasses.Proofs.Files.Confinement
import ContentClasses.Proofs.Java.Containment
import ContentClasses.Proofs.Java.Imports
import ContentClasses.Proofs.Java.Source
import ContentClasses.Proofs.Java.Layout
import ContentClasses.Proofs.Java.References
import ContentClasses.Proofs.Naming.Member
import ContentClasses.Proofs.Java.Escaping
import ContentClasses.Proofs.Java.Identifiers
import ContentClasses.Proofs.Naming.Holders
import ContentClasses.Proofs.Model.Holders
import ContentClasses.Proofs.Model.Batches
import ContentClasses.Proofs.Java.Siblings
import ContentClasses.Proofs.Java.Batches
import ContentClasses.Proofs.Json.Form
import ContentClasses.Proofs.Json.Choices
import ContentClasses.Proofs.Json.Printed
import ContentClasses.Proofs.Json.Records
import ContentClasses.Proofs.Json.Yields
import ContentClasses.Proofs.Model.Dump
import ContentClasses.Proofs.Schema.Distinct
import ContentClasses.Proofs.Schema.Encoding
import ContentClasses.Proofs.Settings.Decode
import ContentClasses.Proofs.Settings.Lookup
import ContentClasses.Proofs.Settings.Reload
import ContentClasses.Proofs.Files.Directories
import ContentClasses.Proofs.Files.Rewriting
import ContentClasses.Proofs.Java.Regeneration
import ContentClasses.Proofs.CommandLine.Arguments
import ContentClasses.Proofs.CommandLine.Effects
import ContentClasses.Proofs.Settings.Groups
import ContentClasses.Proofs.Settings.Parts
import ContentClasses.Proofs.Settings.Shapes
import ContentClasses.Proofs.Settings.Leaves
import ContentClasses.Proofs.Settings.Layering
import ContentClasses.Proofs.Settings.Sources
import ContentClasses.Proofs.Settings.Leafwise
import ContentClasses.Proofs.Settings.Variables
import ContentClasses.Proofs.Settings.Overrides
import ContentClasses.Proofs.Java.Literals
import ContentClasses.Proofs.Json.Inside
import ContentClasses.Proofs.Schema.BareList
import ContentClasses.Proofs.Naming.Letters
import ContentClasses.Proofs.Naming.Pattern
import ContentClasses.Proofs.Naming.Reversal
import ContentClasses.Proofs.Model.Reversal
import ContentClasses.Proofs.Schema.Elements
import ContentClasses.Proofs.Naming.Accessor
import ContentClasses.Proofs.Naming.Counting
