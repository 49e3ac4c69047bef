import Calculator.Expression.Grammar
import Calculator.Expression.Postorder
import Calculator.Globals
import Calculator.Json.Reader
import Calculator.Log.Line
import Calculator.Log.Stages
import Calculator.Main
import Calculator.Proofs.Infix
import Calculator.Report
import Calculator.Session
import Calculator.Settings.File
import Calculator.Text.Echo
import Calculator.Text.Quoted
import Calculator.Text.Utf8.Lemmas
import Calculator.Token.Balance
import Calculator.Token.Offence
import Calculator.Proofs.Acceptance
import Calculator.Proofs.Display
import Calculator.Proofs.Placement
import Calculator.Proofs.Rendering
import Calculator.Proofs.Policies
import Calculator.Proofs.Transcript
import Calculator.Proofs.Parentheses
import Calculator.Proofs.Observation
import Calculator.CommandLine.Invocation
import Calculator.Proofs.SharedState
import Calculator.Proofs.Invocation
import Calculator.Proofs.Reporting
import Calculator.Proofs.MinusSigns
import Calculator.Proofs.Surplus
import Calculator.Proofs.Redundancy
import Calculator.Proofs.Stepwise
import Calculator.Proofs.DisplayReader
import Calculator.Proofs.Narration
import Calculator.Proofs.Encoding
import Calculator.Text.Utf8.Replacement
import Calculator.Proofs.EchoReader
import Calculator.Proofs.CursorCalls
import Calculator.Proofs.PendingOrder
