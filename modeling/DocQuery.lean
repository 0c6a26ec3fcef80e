import DocQuery.Main
import DocQuery.Proofs.Verdict
import DocQuery.Proofs.Joining
import DocQuery.Proofs.Registration
import DocQuery.Proofs.Negation
import DocQuery.Proofs.Grammar.Word
import DocQuery.Proofs.Grammar.Subquery
import DocQuery.Proofs.Grammar.Operand
import DocQuery.Proofs.Grammar.Meaning
import DocQuery.Proofs.Grammar.Finding
import DocQuery.Proofs.Grammar.Compilation
import DocQuery.Proofs.Grammar.Pruning
import DocQuery.Proofs.Strictness
import DocQuery.Proofs.Registration.Content
import DocQuery.Proofs.Registration.Announcement
import DocQuery.Proofs.Grammar.Reading
import DocQuery.Proofs.PatternFlags
import DocQuery.Proofs.PatternLiteral
import DocQuery.Proofs.NormalForm
import DocQuery.Proofs.Spelling
import DocQuery.Proofs.Grammar.Spelled
import DocQuery.Proofs.Storage
import DocQuery.Proofs.Acceptance
import DocQuery.Proofs.Conjunction
import DocQuery.Proofs.Equalities
import DocQuery.Proofs.Rounding
import DocQuery.Proofs.ValueEquality
import DocQuery.Proofs.Order.Number
import DocQuery.Proofs.Order.Trichotomy
import DocQuery.Proofs.Order.Documents
import DocQuery.Proofs.Sorting.Merging
import DocQuery.Proofs.Sorting.Runs
import DocQuery.Proofs.Sorting.Documents
import DocQuery.Proofs.Filtering
import DocQuery.Proofs.Dependence
import DocQuery.Proofs.Transition
import DocQuery.Proofs.Arrangement
import DocQuery.Proofs.Answering
import DocQuery.Proofs.Formats
import DocQuery.Proofs.ValueEquality.Integers
import DocQuery.Proofs.SingleField
import DocQuery.Proofs.Transition.Decomposition
import DocQuery.Proofs.Formula
import DocQuery.Proofs.Construction
import DocQuery.Proofs.Views
import DocQuery.Proofs.RoundTrip.Terms
import DocQuery.Proofs.NormalForm.Patterns
import DocQuery.Proofs.Projection
import DocQuery.Proofs.Remainder
import DocQuery.Proofs.Containment
import DocQuery.Proofs.LogLines
