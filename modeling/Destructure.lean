import Destructure.Fixture.Run
import Destructure.Main
import Destructure.Outline.Evaluation
import Destructure.Outline.Pattern
import Destructure.Proofs.Pattern.Analysis
import Destructure.Proofs.Pattern.Acceptance
import Destructure.Proofs.Matching.Reading
import Destructure.Proofs.Matching.Accumulator
import Destructure.Proofs.Matching.Binders
import Destructure.Proofs.Guard.Evaluation
import Destructure.Proofs.MatchExpr.Selection
import Destructure.Proofs.MatchExpr.Trace
import Destructure.Proofs.Matching.Plan
import Destructure.Proofs.Matching.Visits
import Destructure.Proofs.Matching.Calls
import Destructure.Proofs.Guard.Calls
import Destructure.Proofs.MatchExpr.Calls
import Destructure.Proofs.Matching.Safety
import Destructure.Proofs.CommandLine.Safety
import Destructure.Proofs.Value.Equality
import Destructure.Proofs.Matching.Construction
import Destructure.Proofs.Registry.Translation
import Destructure.Proofs.Config.Tree
import Destructure.Proofs.Registry.FirstFailure
import Destructure.Proofs.Pattern.Rejection
import Destructure.Proofs.Pattern.Limits
import Destructure.Proofs.Matching.Renaming
import Destructure.Proofs.MatchExpr.Visibility
import Destructure.Proofs.Value.Transitivity
import Destructure.Proofs.Matching.Congruence
import Destructure.Proofs.Regex.GroupNames
import Destructure.Proofs.Pattern.Shape
import Destructure.Proofs.Matching.Target
import Destructure.Proofs.Pattern.Frame
import Destructure.Proofs.Matching.Interchange
import Destructure.Proofs.Matching.Flattening
import Destructure.Proofs.Clause.Head
import Destructure.Proofs.Regex.Forms
import Destructure.Proofs.MatchExpr.Splitting
import Destructure.Proofs.Pattern.Reordering
import Destructure.Proofs.Matching.Reordering
import Destructure.Proofs.Value.Equivalence
import Destructure.Proofs.CommandLine.RoundTrip
import Destructure.Proofs.Guard.Connectives
import Destructure.Proofs.Guard.Comparison
import Destructure.Proofs.Regex.Views
import Destructure.Proofs.Fixture.Cases
import Destructure.Proofs.Fixture.Escapes
import Destructure.Proofs.Config.Reading
import Destructure.Proofs.CommandLine.Options
import Destructure.Proofs.Registry.Contents
import Destructure.Proofs.Registry.Order
