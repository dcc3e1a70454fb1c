import ExprCalc.Arithmetic.Unfolding
import ExprCalc.Grammar.Meaning
import ExprCalc.Main
import ExprCalc.Proofs.Literal
import ExprCalc.Proofs.Derivation
import ExprCalc.Proofs.Recognition
import ExprCalc.Proofs.ExactValue
import ExprCalc.Proofs.Attempt
import ExprCalc.Proofs.Nesting
import ExprCalc.Proofs.RecursionDepth
import ExprCalc.Proofs.Evaluation
import ExprCalc.Proofs.Interchange
import ExprCalc.Proofs.Construction
import ExprCalc.Proofs.Remainders
import ExprCalc.Proofs.GrammarTermination
import ExprCalc.Proofs.BatchLines
import ExprCalc.Proofs.OpenReferences
import ExprCalc.Proofs.Layout
import ExprCalc.Proofs.Printing
import ExprCalc.Proofs.ExitStatus
import ExprCalc.Proofs.Arguments
import ExprCalc.Proofs.Invocation
import ExprCalc.Proofs.DepthOfParts
import ExprCalc.Proofs.Sequencing
import ExprCalc.Proofs.Repetition
import ExprCalc.Proofs.ExactNumerals
import ExprCalc.Proofs.Reports
import ExprCalc.Proofs.Spans
import ExprCalc.Proofs.Ambiguity
