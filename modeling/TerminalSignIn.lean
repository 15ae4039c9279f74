import TerminalSignIn.Attempt
import TerminalSignIn.Desk
import TerminalSignIn.Environment
import TerminalSignIn.Form
import TerminalSignIn.Journal
import TerminalSignIn.Json.Parser
import TerminalSignIn.Json.Token
import TerminalSignIn.LineMode
import TerminalSignIn.Main
import TerminalSignIn.Notice
import TerminalSignIn.Program
import TerminalSignIn.Program.Arguments
import TerminalSignIn.Proofs.Desk.Gate
import TerminalSignIn.Proofs.Desk.Message
import TerminalSignIn.Proofs.Desk.Phase
import TerminalSignIn.Proofs.Desk.Run
import TerminalSignIn.Proofs.Desk.Trace
import TerminalSignIn.Proofs.Desk.Values
import TerminalSignIn.Proofs.Desk.Veil
import TerminalSignIn.Proofs.Environment.Expansion
import TerminalSignIn.Proofs.Environment.Template
import TerminalSignIn.Proofs.Form.Address
import TerminalSignIn.Proofs.Form.Fresh
import TerminalSignIn.Proofs.Form.Pattern
import TerminalSignIn.Proofs.Form.Slots
import TerminalSignIn.Proofs.Json.Margin
import TerminalSignIn.Proofs.Json.Written
import TerminalSignIn.Proofs.LineMode.Reading
import TerminalSignIn.Proofs.LineMode.Report
import TerminalSignIn.Proofs.Notice.Board
import TerminalSignIn.Proofs.Notice.Line
import TerminalSignIn.Proofs.Screen.Rows
import TerminalSignIn.Proofs.Service.Endpoint
import TerminalSignIn.Proofs.Service.Message
import TerminalSignIn.Proofs.Service.Verdict
import TerminalSignIn.Proofs.Session.Account
import TerminalSignIn.Proofs.Session.Batching
import TerminalSignIn.Proofs.Session.Bisimulation
import TerminalSignIn.Proofs.Session.Complaint
import TerminalSignIn.Proofs.Session.Delivery
import TerminalSignIn.Proofs.Session.Effect
import TerminalSignIn.Proofs.Session.Ending
import TerminalSignIn.Proofs.Session.Gate
import TerminalSignIn.Proofs.Session.Intake
import TerminalSignIn.Proofs.Session.Interleaving
import TerminalSignIn.Proofs.Session.Notice
import TerminalSignIn.Proofs.Session.Run
import TerminalSignIn.Proofs.Session.Secrecy
import TerminalSignIn.Proofs.Session.Snapshot
import TerminalSignIn.Proofs.Session.Submission
import TerminalSignIn.Proofs.Session.Twin
import TerminalSignIn.Proofs.Session.Typing
import TerminalSignIn.Proofs.Settings.Address
import TerminalSignIn.Proofs.Settings.Precedence
import TerminalSignIn.Proofs.Text.Ansi
import TerminalSignIn.Proofs.Text.Display
import TerminalSignIn.Proofs.Text.Escape
import TerminalSignIn.Proofs.Text.Normal
import TerminalSignIn.Proofs.Text.Pieces
import TerminalSignIn.Proofs.Text.Tail
import TerminalSignIn.Proofs.Text.Utf8
import TerminalSignIn.Proofs.Url.Authority
import TerminalSignIn.Proofs.Url.Host
import TerminalSignIn.Proofs.Url.Margin
import TerminalSignIn.Proofs.Url.Parser
import TerminalSignIn.Proofs.Url.Reading
import TerminalSignIn.Proofs.View.Bounds
import TerminalSignIn.Proofs.View.Layout
import TerminalSignIn.Proofs.View.Words
import TerminalSignIn.Screen
import TerminalSignIn.Service
import TerminalSignIn.Session
import TerminalSignIn.Session.Intake
import TerminalSignIn.Settings
import TerminalSignIn.Terminal.Control
import TerminalSignIn.Terminal.Event
import TerminalSignIn.Text.Basic
import TerminalSignIn.Text.Display
import TerminalSignIn.Text.Property
import TerminalSignIn.Text.Width
import TerminalSignIn.Theme
import TerminalSignIn.Toml.Parser
import TerminalSignIn.Toml.Table
import TerminalSignIn.Toml.Token
import TerminalSignIn.Url.Basic
import TerminalSignIn.Url.DomainName
import TerminalSignIn.Url.Host
import TerminalSignIn.Url.Parser
import TerminalSignIn.View.Picture
