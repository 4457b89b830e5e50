import SharpLint.Config.Json
import SharpLint.Main
import SharpLint.Proofs.Check.BlockingCalls
import SharpLint.Proofs.Check.CalledNames
import SharpLint.Proofs.Check.Coverage
import SharpLint.Proofs.Check.Decisions
import SharpLint.Proofs.Check.MethodLengths
import SharpLint.Proofs.Check.Placement
import SharpLint.Proofs.Check.Places
import SharpLint.Proofs.Check.Previews
import SharpLint.Proofs.Check.Rethrows
import SharpLint.Proofs.Check.ShownParameters
import SharpLint.Proofs.Command.Analysis
import SharpLint.Proofs.Config.Decoding
import SharpLint.Proofs.Files.Scans
import SharpLint.Proofs.Linter.Cancellation
import SharpLint.Proofs.Linter.Invariants
import SharpLint.Proofs.Linter.Relaxation
import SharpLint.Proofs.Linter.Schedules
import SharpLint.Proofs.Linter.Shape
import SharpLint.Proofs.Names.Decomposition
import SharpLint.Proofs.Names.Placeholders
import SharpLint.Proofs.Report.Lossless
import SharpLint.Proofs.Syntax.Access
import SharpLint.Proofs.Syntax.DocRuns
import SharpLint.Proofs.Syntax.FirstFault
import SharpLint.Proofs.Syntax.Layout
import SharpLint.Proofs.Syntax.TopmostTexts
