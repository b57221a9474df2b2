import EntityDiagram.Catalog
import EntityDiagram.Diagram.Minimal
import EntityDiagram.Diagram.Recorder
import EntityDiagram.Diagram.Recording
import EntityDiagram.Diagram.TableName
import EntityDiagram.Main
import EntityDiagram.Proofs.Catalog.Failures
import EntityDiagram.Proofs.Catalog.Snapshot
import EntityDiagram.Proofs.Collection
import EntityDiagram.Proofs.CommandLine.Arrangement
import EntityDiagram.Proofs.CommandLine.Escapes
import EntityDiagram.Proofs.CommandLine.ExitCode
import EntityDiagram.Proofs.Diagram.Assembly
import EntityDiagram.Proofs.Diagram.Columns
import EntityDiagram.Proofs.Diagram.Containers
import EntityDiagram.Proofs.Diagram.DeclaredColumns
import EntityDiagram.Proofs.Diagram.Distinct
import EntityDiagram.Proofs.Diagram.Escaped
import EntityDiagram.Proofs.Diagram.Hashed
import EntityDiagram.Proofs.Diagram.Keys
import EntityDiagram.Proofs.Diagram.Levels
import EntityDiagram.Proofs.Diagram.Recording
import EntityDiagram.Proofs.Diagram.References
import EntityDiagram.Proofs.Diagram.Rendering
import EntityDiagram.Proofs.Diagram.Sheet
import EntityDiagram.Proofs.Diagram.Unambiguous
import EntityDiagram.Proofs.Diagram.Walk
import EntityDiagram.Proofs.Document.Acceptance
import EntityDiagram.Proofs.Document.Complaints
import EntityDiagram.Proofs.Document.Fronts
import EntityDiagram.Proofs.Document.LongForm
import EntityDiagram.Proofs.Document.Models
import EntityDiagram.Proofs.Document.Nesting
import EntityDiagram.Proofs.Document.Reading
import EntityDiagram.Proofs.Document.Refusal
import EntityDiagram.Proofs.Document.Report
import EntityDiagram.Proofs.Document.Unicode
import EntityDiagram.Proofs.FileSystem.Directories
import EntityDiagram.Proofs.FileSystem.Places
import EntityDiagram.Proofs.FileSystem.Writing
import EntityDiagram.Proofs.Generation.Forecast
import EntityDiagram.Proofs.Generation.Independence
import EntityDiagram.Proofs.Generation.Interleaving
import EntityDiagram.Proofs.Generation.Outputs
import EntityDiagram.Proofs.Generation.Requested
import EntityDiagram.Proofs.Pipeline
import EntityDiagram.Proofs.Renderer
import EntityDiagram.Proofs.Structure.Address
import EntityDiagram.Proofs.Structure.Declared
import EntityDiagram.Proofs.Structure.Growth
import EntityDiagram.Proofs.Structure.Kept
import EntityDiagram.Proofs.Structure.Outline
import EntityDiagram.Proofs.Structure.Roots
import EntityDiagram.Proofs.Structure.WellNamed
import EntityDiagram.Proofs.Text.Identifier
import EntityDiagram.Proofs.Text.Line
import EntityDiagram.Proofs.Text.Reserved
import EntityDiagram.Proofs.Yaml.Levels
import EntityDiagram.Schema.Fields
import EntityDiagram.Stamp
import EntityDiagram.Structure.Outline
import EntityDiagram.Text.DecimalDigit
