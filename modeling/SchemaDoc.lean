import SchemaDoc.Compile.Program
import SchemaDoc.Main
import SchemaDoc.Proofs.CommandLine.Reporting
import SchemaDoc.Proofs.CommandLine.Serving
import SchemaDoc.Proofs.Description.Frame
import SchemaDoc.Proofs.Description.OptionRetention
import SchemaDoc.Proofs.Description.Rerun
import SchemaDoc.Proofs.Description.RoundTrip
import SchemaDoc.Proofs.Description.ScanOrder
import SchemaDoc.Proofs.Description.TextSafety
import SchemaDoc.Proofs.Descriptor.Enumeration
import SchemaDoc.Proofs.Descriptor.Requirement
import SchemaDoc.Proofs.Editing.EntryRemoval
import SchemaDoc.Proofs.Job.Extraction
import SchemaDoc.Watch.Filter
import SchemaDoc.Watch.Watcher
import SchemaDoc.Proofs.Watch.Rebuilds
import SchemaDoc.Proofs.Editing.Session
import SchemaDoc.Proofs.Editing.DisplayColumn
import SchemaDoc.Proofs.Editing.LineComment
import SchemaDoc.Proofs.Comment.Packing
import SchemaDoc.Proofs.Description.Rewrapping
import SchemaDoc.Proofs.Description.OpenedLine
import SchemaDoc.Proofs.Editing.StatementRemoval
import SchemaDoc.Proofs.Description.Accumulation
import SchemaDoc.Proofs.Description.Documentation
import SchemaDoc.Proofs.Description.RestoredCount
import SchemaDoc.Proofs.Description.SpanRegion
import SchemaDoc.Proofs.Description.Annotations
