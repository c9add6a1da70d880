import ServiceWiring.Text.Blank
import ServiceWiring.Text.Case
import ServiceWiring.Text.Hidden
import ServiceWiring.Text.Letter
import ServiceWiring.Text.Quoted
import ServiceWiring.Text.SnakeCase
import ServiceWiring.Text.Line
import ServiceWiring.Json.Reader
import ServiceWiring.Json.Writer
import ServiceWiring.Value.Plain
import ServiceWiring.Sorted
import ServiceWiring.Kind.Registry
import ServiceWiring.DeclaredType
import ServiceWiring.Registration
import ServiceWiring.Document
import ServiceWiring.Mark.Resolution
import ServiceWiring.Registration.Plan
import ServiceWiring.Diagnostic
import ServiceWiring.Pass
import ServiceWiring.Report
import ServiceWiring.Yaml.Cursor
import ServiceWiring.Yaml.Reader
import ServiceWiring.Toml.Quoted
import ServiceWiring.Toml.Reader
import ServiceWiring.FileTree
import ServiceWiring.Manifest
import ServiceWiring.Log.Filter
import ServiceWiring.Settings
import ServiceWiring.Settings.Layers
import ServiceWiring.Batch
import ServiceWiring.Preview
import ServiceWiring.CommandLine
import ServiceWiring.Program
import ServiceWiring.CommandLine.Usage
import ServiceWiring.Main
import ServiceWiring.Proofs.FirstOccurrences
import ServiceWiring.Proofs.Grouping
import ServiceWiring.Proofs.Encounter
import ServiceWiring.Proofs.Planning
import ServiceWiring.Proofs.Rendering
import ServiceWiring.Proofs.Tracing
import ServiceWiring.Proofs.Skipping
import ServiceWiring.Proofs.TypeName
import ServiceWiring.Proofs.Imports
import ServiceWiring.Proofs.Display
import ServiceWiring.Proofs.Contiguity
import ServiceWiring.Proofs.EmissionOrder
import ServiceWiring.Proofs.ReportLayout
import ServiceWiring.Proofs.ReportOrder
import ServiceWiring.Proofs.Reordering
import ServiceWiring.Proofs.Saving
import ServiceWiring.Proofs.DirectoryName
import ServiceWiring.Proofs.Separation
import ServiceWiring.Proofs.Summation
import ServiceWiring.Proofs.Highest
import ServiceWiring.Proofs.Foretelling
import ServiceWiring.Proofs.DataForms
import ServiceWiring.Proofs.GenericNames
import ServiceWiring.Proofs.Resolution
import ServiceWiring.Proofs.ReportText
import ServiceWiring.Proofs.Overriding
import ServiceWiring.Proofs.Registering
import ServiceWiring.Proofs.VisibleKinds
import ServiceWiring.Proofs.Filtering
import ServiceWiring.Proofs.Counting
import ServiceWiring.Proofs.LabelLines
import ServiceWiring.Proofs.FunctionNames
import ServiceWiring.Proofs.ArgumentPaths
import ServiceWiring.Proofs.Loading
import ServiceWiring.Proofs.Spelling
import ServiceWiring.Proofs.LastRegistered
import ServiceWiring.Proofs.NameSearch
