import CohortFilter.Json.Reader
import CohortFilter.Mode
import CohortFilter.Shape
import CohortFilter.Filter.Field.Decode
import CohortFilter.Filter.State.Decode
import CohortFilter.Query.Printer
import CohortFilter.Warning
import CohortFilter.Compile
import CohortFilter.Aggregation.QueryInfo
import CohortFilter.Resolve
import CohortFilter.CommandLine.Invocation
import CohortFilter.Main
import CohortFilter.Proofs.Meaning
import CohortFilter.Proofs.Leaves
import CohortFilter.Proofs.References
import CohortFilter.Proofs.Depth
import CohortFilter.Proofs.Unresolved
import CohortFilter.Proofs.RoundTrip
import CohortFilter.Proofs.Documents
import CohortFilter.Proofs.Storage
import CohortFilter.Proofs.Dependence
import CohortFilter.Proofs.Inlining
import CohortFilter.Proofs.Naming
import CohortFilter.Proofs.Planning
import CohortFilter.Proofs.Restriction
import CohortFilter.Proofs.Nesting
import CohortFilter.Proofs.Merging
import CohortFilter.Proofs.Reordering
import CohortFilter.Proofs.FieldOrder
import CohortFilter.Proofs.Warnings
import CohortFilter.Proofs.Anchoring
import CohortFilter.Proofs.Spelling
import CohortFilter.Proofs.Repetition
import CohortFilter.Proofs.Scanning
import CohortFilter.Proofs.Tokens
import CohortFilter.Proofs.Reading
import CohortFilter.Proofs.Commands
import CohortFilter.Proofs.Printed
import CohortFilter.Proofs.Placeholders
import CohortFilter.Proofs.NullValues
import CohortFilter.Proofs.Likeness
import CohortFilter.Proofs.Counterparts
import CohortFilter.Proofs.MemberOrder
import CohortFilter.Proofs.ModeChoice
import CohortFilter.Proofs.MarkerNames
import CohortFilter.Proofs.Tags
import CohortFilter.Proofs.ErrorPlaces
import CohortFilter.Proofs.Partition
