import Calculator.Main
import Calculator.Raising
import Calculator.Parser.Session
import Calculator.Parser.Stepper
import Calculator.Tree.OfToken
import Calculator.Proofs.Grammar
import Calculator.Proofs.Recognition
import Calculator.Proofs.Alike
import Calculator.Proofs.Rewriting
import Calculator.Proofs.Rules
import Calculator.Proofs.ExactValue
import Calculator.Proofs.Lexing
import Calculator.Proofs.Written
import Calculator.Proofs.RoundTrip
import Calculator.Proofs.LongestCut
import Calculator.Proofs.LongestReading
import Calculator.Proofs.Places
import Calculator.Proofs.Answer
import Calculator.Proofs.Echo
import Calculator.Proofs.Cells
import Calculator.Proofs.InStore
import Calculator.Proofs.Endings
import Calculator.Proofs.Binary64
import Calculator.Proofs.RoundedValue
import Calculator.Proofs.DoubleValue
import Calculator.Proofs.ShortNumbers
import Calculator.Proofs.Reentry
import Calculator.Proofs.Released
import Calculator.Proofs.UnplacedCells
import Calculator.Proofs.Placings
import Calculator.Proofs.LineBreaks
import Calculator.Proofs.Transcript
import Calculator.Proofs.History
import Calculator.Proofs.DigitLimit
import Calculator.Proofs.ViablePrefix
import Calculator.Proofs.Counter
import Calculator.Proofs.Sites
import Calculator.Proofs.FirstFailure
import Calculator.Proofs.Owned
import Calculator.Proofs.Redexes
import Calculator.Proofs.Derivation
import Calculator.Proofs.Substitution
import Calculator.Proofs.Survivors
import Calculator.Proofs.Lifecycle
import Calculator.Proofs.Unambiguous
import Calculator.Proofs.Columns
import Calculator.Proofs.Failures
import Calculator.Proofs.Reports
import Calculator.Proofs.Stepping
import Calculator.Proofs.SteppedReading
import Calculator.Proofs.SessionRuns
import Calculator.Proofs.EndOfInput
import Calculator.Proofs.Joined
import Calculator.Proofs.Quoting
import Calculator.Proofs.TokenLog
import Calculator.Proofs.Charts
import Calculator.Proofs.Walks
import Calculator.Proofs.Turns
