import Calculator.Decimal.ReadBack
import Calculator.Desk
import Calculator.Grammar
import Calculator.Proofs.Arrows
import Calculator.Proofs.Balance
import Calculator.Proofs.Browsing
import Calculator.Proofs.CanonicalText
import Calculator.Proofs.Coherence
import Calculator.Proofs.Compilation
import Calculator.Proofs.Conservation
import Calculator.Proofs.Continuation
import Calculator.Proofs.DoubleBits
import Calculator.Proofs.Factorial
import Calculator.Proofs.HistoryLog
import Calculator.Proofs.HistoryPanel
import Calculator.Proofs.Keyboard
import Calculator.Proofs.Keypad
import Calculator.Proofs.Locality
import Calculator.Proofs.Malformed
import Calculator.Proofs.ModeIndependence
import Calculator.Proofs.Normalizing
import Calculator.Proofs.Pointing
import Calculator.Proofs.PostfixLine
import Calculator.Proofs.Reentry
import Calculator.Proofs.Reproduction
import Calculator.Proofs.Rounding
import Calculator.Proofs.Scanning
import Calculator.Proofs.Slices
import Calculator.Proofs.StackDepth
import Calculator.Proofs.Stacking
import Calculator.Proofs.Stages
import Calculator.Proofs.Surplus
import Calculator.Proofs.Surroundings
import Calculator.Proofs.Truncation
import Calculator.Proofs.Verdict
import Calculator.Rpn.Checker
import Calculator.Rpn.Depth
import Calculator.Screen
import Calculator.SelfTest
import Calculator.Storage.Number
