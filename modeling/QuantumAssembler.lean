import QuantumAssembler.Text.WhiteSpace
import QuantumAssembler.Text.Lines
import QuantumAssembler.Language.Segment
import QuantumAssembler.Language.TokenStream
import QuantumAssembler.Unicode.Normalization
import QuantumAssembler.Language.Sentence
import QuantumAssembler.Decimal.Positional
import QuantumAssembler.Decimal.Reading
import QuantumAssembler.Scalar.Polar
import QuantumAssembler.Scalar.Written
import QuantumAssembler.Measurement
import QuantumAssembler.GateMatrix
import QuantumAssembler.Machine.Report
import QuantumAssembler.Program
import QuantumAssembler.Report.Caret
import QuantumAssembler.Report.Json
import QuantumAssembler.Settings.Written
import QuantumAssembler.Console.Arguments
import QuantumAssembler.Console.LogFilter
import QuantumAssembler.Console.Directory
import QuantumAssembler.Console.Invocation
import QuantumAssembler.Main
import QuantumAssembler.Proofs.Machine.Standard
import QuantumAssembler.Proofs.Machine.BitMachine
import QuantumAssembler.Proofs.Language.Grammar
import QuantumAssembler.Proofs.Language.Coverage
import QuantumAssembler.Proofs.Program.Run
import QuantumAssembler.Proofs.Unicode.Normalization
import QuantumAssembler.Proofs.Language.Division
import QuantumAssembler.Proofs.Language.LineByLine
import QuantumAssembler.Proofs.Language.WellFormed
import QuantumAssembler.Proofs.Language.WrittenForm
import QuantumAssembler.Proofs.Machine.Dispatch
import QuantumAssembler.Proofs.Machine.RegisterShape
import QuantumAssembler.Proofs.Machine.Calls
import QuantumAssembler.Proofs.Machine.Variables
import QuantumAssembler.Proofs.Machine.Copies
import QuantumAssembler.Proofs.Unicode.Composition
import QuantumAssembler.Proofs.Text.Margins
import QuantumAssembler.Proofs.Language.Margins
import QuantumAssembler.Proofs.Program.Tracing
import QuantumAssembler.Proofs.Console.Agreement
import QuantumAssembler.Proofs.Machine.Independence
import QuantumAssembler.Proofs.DenseMatrix.Storage
import QuantumAssembler.Proofs.Machine.Snapshot
import QuantumAssembler.Proofs.Program.Listing
import QuantumAssembler.Proofs.Program.Bits
import QuantumAssembler.Proofs.DenseMatrix.Shape
import QuantumAssembler.Proofs.DenseMatrix.Formula
import QuantumAssembler.Proofs.Decimal.Rounding
import QuantumAssembler.Proofs.Decimal.Doubles
import QuantumAssembler.Proofs.Decimal.Nearest
import QuantumAssembler.Proofs.Decimal.Shortest
import QuantumAssembler.Proofs.Decimal.RoundTrip
import QuantumAssembler.Proofs.Scalar.RoundTrip
import QuantumAssembler.Proofs.Scalar.Ring
import QuantumAssembler.Proofs.DenseMatrix.OfMatrix
import QuantumAssembler.Proofs.DenseMatrix.Ring
import QuantumAssembler.Proofs.DenseMatrix.Transpose
import QuantumAssembler.Proofs.DenseMatrix.Kronecker
import QuantumAssembler.Proofs.Measurement.Unitary
import QuantumAssembler.Proofs.Scalar.Modulus
import QuantumAssembler.Proofs.DenseMatrix.InnerProduct
import QuantumAssembler.Proofs.Scalar.PartialReal
import QuantumAssembler.Proofs.DenseMatrix.Numbers
import QuantumAssembler.Proofs.DenseMatrix.Euclidean
import QuantumAssembler.Proofs.Measurement.Probability
import QuantumAssembler.Proofs.Measurement.Amplitude
import QuantumAssembler.Proofs.Text.Position
import QuantumAssembler.Proofs.Language.ViablePrefix
import QuantumAssembler.Proofs.Language.CursorPlace
import QuantumAssembler.Proofs.Language.Places
import QuantumAssembler.Proofs.Language.Lexemes
import QuantumAssembler.Proofs.Language.Recovery
import QuantumAssembler.Proofs.Report.Caret
import QuantumAssembler.Proofs.Scalar.Grammar
import QuantumAssembler.Proofs.Decimal.Root
import QuantumAssembler.Proofs.Decimal.Undefined
import QuantumAssembler.Proofs.Measurement.Undefined
import QuantumAssembler.Proofs.DenseMatrix.Hermitian
import QuantumAssembler.Proofs.DenseMatrix.Metric
import QuantumAssembler.Proofs.Measurement.Expectation
import QuantumAssembler.Proofs.Measurement.Evolution
import QuantumAssembler.Proofs.Algebra.Mismatch
import QuantumAssembler.Proofs.Decimal.Number
import QuantumAssembler.Proofs.Decimal.Correct
import QuantumAssembler.Proofs.Scalar.Division
import QuantumAssembler.Proofs.Decimal.Arctangent
import QuantumAssembler.Proofs.Scalar.Angle
import QuantumAssembler.Proofs.Settings.Literal
import QuantumAssembler.Proofs.Settings.RoundTrip
