import CriteriaSql.Lookup.Stage
import CriteriaSql.Schema.Catalog
import CriteriaSql.Proofs.Placeholder.Statements
import CriteriaSql.Proofs.Shape.Statements
import CriteriaSql.Proofs.Restriction
import CriteriaSql.Proofs.BatchTable
import CriteriaSql.Proofs.Comparison
import CriteriaSql.Proofs.Path.Steps
import CriteriaSql.Proofs.Path.Reachability
import CriteriaSql.Proofs.Lookup.Filtering
import CriteriaSql.Proofs.Lookup.Direction
import CriteriaSql.Proofs.Catalog
import CriteriaSql.Proofs.JoinClause
import CriteriaSql.Proofs.LikePattern
import CriteriaSql.Proofs.Lookup.Chain
import CriteriaSql.Proofs.Alternatives
import CriteriaSql.Proofs.Lookup.Contribution
import CriteriaSql.Proofs.Path.EndKeys
import CriteriaSql.Proofs.Variants
import CriteriaSql.Proofs.Write.Insertion
import CriteriaSql.Proofs.Write.Upsert
import CriteriaSql.Proofs.Write.IdArgument
import CriteriaSql.Proofs.JoinArgument
import CriteriaSql.Proofs.Write.Batch
import CriteriaSql.Proofs.Write.Update
import CriteriaSql.Proofs.Write.Identity
import CriteriaSql.Proofs.SameRows
import CriteriaSql.Proofs.Conjunction.Conditions
import CriteriaSql.Proofs.Path.Levels
import CriteriaSql.Proofs.OwnerUnion
import CriteriaSql.Proofs.NullArguments
import CriteriaSql.Proofs.Order.Keywords
import CriteriaSql.Proofs.Containment
import CriteriaSql.Proofs.Template.Grammar
import CriteriaSql.Proofs.Template.Rendering
import CriteriaSql.Proofs.TableName
import CriteriaSql.Proofs.Name.Suffix
import CriteriaSql.Proofs.Name.Parts
import CriteriaSql.Proofs.Placeholder.Nested
import CriteriaSql.Proofs.Path.Acceptance
import CriteriaSql.Proofs.Path.Places
import CriteriaSql.Proofs.JoinedId
import CriteriaSql.Proofs.Reading.Integers
import CriteriaSql.Proofs.Reading.Failures
import CriteriaSql.Proofs.Reading.Unsupported
import CriteriaSql.Proofs.Lookup.Keys
import CriteriaSql.Proofs.ColumnLists
import CriteriaSql.Proofs.Path.Orientation
import CriteriaSql.Proofs.Paging
