import StudyPower.Design.Declaration
import StudyPower.Outcome.Declaration
import StudyPower.Request
import StudyPower.Proofs.Bundle.Clusters
import StudyPower.Proofs.Bundle.ClusterCorrelations
import StudyPower.Proofs.Bundle.CovariateCorrelation
import StudyPower.Proofs.Bundle.Observations
import StudyPower.Proofs.Contrast.Interaction
import StudyPower.Proofs.Contrast.MainEffect
import StudyPower.Proofs.Contrast.Size
import StudyPower.Proofs.Bundle.Guided
import StudyPower.Proofs.Bundle.Dimensions
import StudyPower.Proofs.Bundle.RowLabels
import StudyPower.Proofs.Bundle.Computable
import StudyPower.Proofs.Bundle.JointCovariance
import StudyPower.Proofs.Bundle.Preview
import StudyPower.Proofs.Bundle.Escapes
import StudyPower.Proofs.Computation.Stages
import StudyPower.Proofs.Computation.Calls
import StudyPower.Proofs.Computation.Waits
import StudyPower.Proofs.Computation.Run
import StudyPower.Proofs.Computation.Disclosure
import StudyPower.Proofs.Design.Draft
import StudyPower.Proofs.Request
import StudyPower.Proofs.Bundle.Modes
import StudyPower.Proofs.Bundle.CellMeans
import StudyPower.Proofs.Contrast.Mappings
import StudyPower.Proofs.Contrast.PolynomialBlock
import StudyPower.Proofs.Bundle.Finiteness
import StudyPower.Proofs.Covariance.Structure
import StudyPower.Proofs.Covariance.Decay
import StudyPower.Proofs.Bundle.SweepSize
import StudyPower.Proofs.Design.Edits
import StudyPower.Proofs.Mat.Chain
import StudyPower.Proofs.Settings
import StudyPower.Proofs.Stopwatch
import StudyPower.Datum.Form
import StudyPower.Computation.Raise
import StudyPower.Proofs.Scalar.Rounding
import StudyPower.Proofs.Computation.Timing
import StudyPower.Proofs.Computation.Schedules
