import WebTerminal.Bench
import WebTerminal.Browser.Step
import WebTerminal.Proofs.Connection.Move
import WebTerminal.Proofs.Connection.Coherence
import WebTerminal.Proofs.Connection.Lifecycle
import WebTerminal.Proofs.Connection.Progress
import WebTerminal.Proofs.Connection.Spell
import WebTerminal.Proofs.Session.Late
import WebTerminal.Proofs.Text.Decoding
import WebTerminal.Proofs.Session.Output
import WebTerminal.Proofs.Connection.Timers
import WebTerminal.Proofs.Connection.Twins
import WebTerminal.Proofs.Connection.Anew
import WebTerminal.Proofs.Connection.Dormancy
import WebTerminal.Proofs.Session.Indicator
import WebTerminal.Proofs.Session.Sending
import WebTerminal.Proofs.Session.Keys
import WebTerminal.Proofs.Text.Typing
import WebTerminal.Proofs.Text.Rounds
import WebTerminal.Proofs.Text.Printable
import WebTerminal.Proofs.Connection.Sockets
import WebTerminal.Proofs.Connection.Account
import WebTerminal.Proofs.Session.Interference
import WebTerminal.Proofs.Browser.Simulation
import WebTerminal.Proofs.Browser.Upkeep
import WebTerminal.Proofs.Browser.Teardown
import WebTerminal.Proofs.Browser.Core
import WebTerminal.Proofs.Browser.Likeness
import WebTerminal.Proofs.Browser.Mishaps
import WebTerminal.Proofs.Browser.Reentry
import WebTerminal.Proofs.Config.Written
import WebTerminal.Proofs.Session.Delays
import WebTerminal.Proofs.Browser.Picture
import WebTerminal.Proofs.Keyboard.Survivors
import WebTerminal.Proofs.Keyboard.Frames
import WebTerminal.Proofs.Browser.Texts
import WebTerminal.Proofs.Browser.Creation
