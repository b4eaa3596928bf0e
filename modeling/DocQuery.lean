import DocQuery.Evaluation.Evaluator
import DocQuery.Predicate.Document
import DocQuery.Schema.Stock
import DocQuery.Store
import DocQuery.Evaluation.Direct
import DocQuery.Proofs.Answering
import DocQuery.Proofs.Batches
import DocQuery.Proofs.Settling
import DocQuery.Proofs.Requests
import DocQuery.Proofs.Displaying
import DocQuery.Proofs.DirectEvaluation
import DocQuery.Proofs.Alike
import DocQuery.Proofs.Sharing
import DocQuery.Proofs.DistinctKeys
import DocQuery.Proofs.Coalescing
import DocQuery.Evaluation.Schedule
import DocQuery.Proofs.Interleaving
import DocQuery.Proofs.Schedules
import DocQuery.Proofs.Numerals
import DocQuery.Proofs.Tokens
import DocQuery.Proofs.ValueText
import DocQuery.Predicate.WellFormed
import DocQuery.Proofs.PredicateText
import DocQuery.Proofs.PredicateForm
import DocQuery.Proofs.PredicateRoundTrip
import DocQuery.Predicate.Grammar
import DocQuery.Proofs.LiteralGrammar
import DocQuery.Proofs.ListGrammar
import DocQuery.Proofs.PredicateGrammar
import DocQuery.Evaluation.Registry
import DocQuery.Proofs.Registering
import DocQuery.Evaluation.Trace
import DocQuery.Proofs.Tracing
import DocQuery.Schema.Hidden
import DocQuery.Proofs.Hiding
import DocQuery.Schema.Conformity
import DocQuery.Proofs.Rendering
import DocQuery.Proofs.Fitting
import DocQuery.Proofs.Progress
import DocQuery.Proofs.SafeSchedules
import DocQuery.Predicate.Alike
import DocQuery.Proofs.Matching
import DocQuery.Evaluation.Ending
import DocQuery.Proofs.Ending
import DocQuery.Projection.Grammar
import DocQuery.Proofs.ParameterGrammar
import DocQuery.Proofs.ProjectionGrammar
import DocQuery.Projection.WellFormed
import DocQuery.Proofs.ProjectionRoundTrip
import DocQuery.Proofs.SharedPasses
import DocQuery.Proofs.Routing
import DocQuery.Predicate.DocumentGrammar
import DocQuery.Proofs.DocumentGrammar
import DocQuery.Proofs.ValueReading
import DocQuery.Proofs.DocumentText
import DocQuery.Paging
import DocQuery.Proofs.Paging
import DocQuery.Check
import DocQuery.Predicate.Checks
import DocQuery.Projection.Checks
import DocQuery.Proofs.Checks
import DocQuery.Proofs.PredicateChecks
import DocQuery.Proofs.ProjectionChecks
import DocQuery.Proofs.Transforms
import DocQuery.Proofs.Faults
import DocQuery.Proofs.Failures
import DocQuery.Proofs.Revalidation
import DocQuery.Sorting
import DocQuery.Proofs.Sorting
import DocQuery.Proofs.Validated
import DocQuery.Proofs.Narrowing
import DocQuery.Proofs.Wildcards
import DocQuery.Predicate.DocumentLevels
import DocQuery.Proofs.FieldBinding
import DocQuery.Value.Floats
import DocQuery.Predicate.Floats
import DocQuery.Proofs.Floats
import DocQuery.Proofs.DocumentPrinting
import DocQuery.Proofs.OutputKeys
import DocQuery.Evaluation.Report
import DocQuery.Proofs.Reporting
import DocQuery.Proofs.OrderText
import DocQuery.Text.Bytes
import DocQuery.LogBuffer
import DocQuery.Proofs.LogLines
import DocQuery.Proofs.SingleQuotes
import DocQuery.Text.Scan
import DocQuery.Predicate.Scan
import DocQuery.Projection.Scan
import DocQuery.Proofs.Boundaries
import DocQuery.Proofs.MixedKinds
import DocQuery.Proofs.Equality
import DocQuery.Proofs.Paths
