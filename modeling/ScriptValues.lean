import ScriptValues.Rounding
import ScriptValues.Double
import ScriptValues.Double.Arithmetic
import ScriptValues.Double.Bits
import ScriptValues.Double.Integer
import ScriptValues.Numeral
import ScriptValues.Numeral.Writer
import ScriptValues.Decimal
import ScriptValues.Decimal.Notation
import ScriptValues.Decimal.Rounding
import ScriptValues.Decimal.Group
import ScriptValues.Decimal.Printer
import ScriptValues.Decimal.Fixed
import ScriptValues.Decimal.Precision
import ScriptValues.Decimal.Literal
import ScriptValues.Decimal.Reader
import ScriptValues.Radix
import ScriptValues.Text.CodeTable
import ScriptValues.Text.Invisible
import ScriptValues.Text.Blank
import ScriptValues.Text.Quoted
import ScriptValues.Text.LetterCase.Tables
import ScriptValues.Text.LetterCase
import ScriptValues.Text.NormalForm.Tables
import ScriptValues.Text.NormalForm
import ScriptValues.Text.Normalizer
import ScriptValues.NumericText
import ScriptValues.Position
import ScriptValues.Text.Search
import ScriptValues.Text.Operations
import ScriptValues.Value
import ScriptValues.Value.Text
import ScriptValues.Value.Coercion
import ScriptValues.Value.Equality
import ScriptValues.Sequence
import ScriptValues.Globals
import ScriptValues.Host
import ScriptValues.ScriptError
import ScriptValues.Method.Scalar
import ScriptValues.Method.String
import ScriptValues.Method.Array
import ScriptValues.Invocation
import ScriptValues.Console
import ScriptValues.Literal
import ScriptValues.Inspection
import ScriptValues.Demo
import ScriptValues.CommandLine
import ScriptValues.Main
import ScriptValues.Proofs.Numeral
import ScriptValues.Proofs.Nearest
import ScriptValues.Proofs.Units
import ScriptValues.Proofs.DecimalValue
import ScriptValues.Proofs.ShortestDigits
import ScriptValues.Proofs.FewestDigits
import ScriptValues.Proofs.DecimalPrinter
import ScriptValues.Proofs.NumberText
import ScriptValues.Proofs.WholeNumber
import ScriptValues.Proofs.WholeDigits
import ScriptValues.Proofs.IntegerWriter
import ScriptValues.Proofs.RadixText
import ScriptValues.Proofs.LiteralGaps
import ScriptValues.Proofs.LiteralText
import ScriptValues.Proofs.FailedCalls
import ScriptValues.Proofs.FractionDigits
import ScriptValues.Proofs.FractionMargin
import ScriptValues.Proofs.RadixValue
import ScriptValues.Proofs.RadixIdentity
import ScriptValues.Proofs.TextLength
import ScriptValues.Proofs.Equality
import ScriptValues.Proofs.ExactPositions
import ScriptValues.Proofs.Timers
import ScriptValues.Proofs.Splices
import ScriptValues.Proofs.CodePoints
import ScriptValues.Proofs.IndexKeys
import ScriptValues.Proofs.TextElements
import ScriptValues.Proofs.CarriedDigits
import ScriptValues.Proofs.ExponentialText
import ScriptValues.Proofs.PrecisionText
import ScriptValues.Proofs.NearestDouble
import ScriptValues.Proofs.IntegerText
import ScriptValues.Proofs.TrailingBits
import ScriptValues.Proofs.FoldedDigits
import ScriptValues.Proofs.NotationAgreement
import ScriptValues.Proofs.DecimalReader
import ScriptValues.Proofs.NumberGrammar
import ScriptValues.Proofs.DecimalStart
import ScriptValues.Proofs.DigitLoops
import ScriptValues.Proofs.PlainIntegers
import ScriptValues.Proofs.RadixNumeral
import ScriptValues.Proofs.EqualityLaws
import ScriptValues.Proofs.ArrayCalls
import ScriptValues.Proofs.SpliceUndo
import ScriptValues.Proofs.WordResidues
import ScriptValues.Proofs.TextSearch
import ScriptValues.Proofs.SplitParts
import ScriptValues.Proofs.MissingArguments
import ScriptValues.Proofs.IdentityTurns
import ScriptValues.Proofs.LiteralErrors
import ScriptValues.Proofs.PrintedLines
import ScriptValues.Proofs.LiteralCharacters
