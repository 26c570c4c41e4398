import WebTerminal.Browser.Thrown
import WebTerminal.Connection.Event
import WebTerminal.Keyboard.Encoder
import WebTerminal.Text.Quoted

/-! # Notices

What the terminal writes to its log. A notice is kept as what happened; its level and its text
follow from that. Nothing the terminal does depends on its notices. -/

namespace WebTerminal

open Browser Connection

inductive Level where
  | debug
  | info
  | warn
  | error
  deriving DecidableEq, Repr

def Level.name : Level → String
  | debug => "DEBUG"
  | info => "INFO"
  | warn => "WARN"
  | error => "ERROR"

/-- What happened. `unfocused` holds its reason as a text because two places word it differently. -/
inductive Notice where
  | lineFull (limit : Nat) (c : Char)
  | connectIgnored (s : State)
  | replacing (e : Epoch)
  | frameDropped (size : Nat) (s : State)
  | sendFailed (e : Epoch) (error : TransportError)
  | closedByUser (e : Epoch)
  | stale (signal : Signal) (e current : Epoch)
  | openIgnored (s : State)
  | messageIgnored (s : State)
  | opened (e : Epoch)
  | socketError (e : Epoch) (info : String)
  | staleTimer (e : Epoch)
  | connecting (url : String) (e : Epoch)
  | refused (error : TransportError)
  | closed (reason : CloseReason) (e : Epoch)
  | gaveUp (maxAttempts : UInt32)
  | retrying (attempt maxAttempts delay : UInt32)
  | clientReady (url : String) (mode : Mode)
  | sessionBusy
  | appendFailed (thrown : Thrown)
  | indicatorFailed (thrown : Thrown)
  | unfocused (why : String)
  | unsupportedPayload
  | socketClosed (code : Nat) (clean : Bool)
  | closeFailed (thrown : Thrown)
  deriving DecidableEq, Repr

namespace Notice

def reasonName : CloseReason → String
  | .network => "Network"
  | .user => "UserInitiated"

def stateName : State → String
  | .idle => "Idle"
  | .connecting => "Connecting"
  | .opened => "Open"
  | .closed reason => "Closed(" ++ reasonName reason ++ ")"

def signalName : Signal → String
  | .opened => "open"
  | .message _ => "message"
  | .error _ => "error"
  | .closed => "close"

def modeName : Mode → String
  | .raw => "Raw"
  | .line => "Line"

def epochName (e : Epoch) : String := s!"epoch {e.raw}"

def level : Notice → Level
  | replacing _ | closedByUser _ | opened _ | connecting _ _ | closed _ _ | clientReady _ _ => .info
  | refused _ | gaveUp _ | sessionBusy | appendFailed _ | indicatorFailed _ | unsupportedPayload =>
    .warn
  | sendFailed _ _ | socketError _ _ => .error
  | _ => .debug

def text : Notice → String
  | lineFull limit c => s!"line buffer full ({limit} bytes), dropping " ++ Text.quotedChar c
  | connectIgnored s => "connect() ignored: already " ++ stateName s
  | replacing e => "replacing connection (" ++ epochName e ++ ")"
  | frameDropped size s => s!"dropping {size}-byte frame while " ++ stateName s
  | sendFailed e error => "send failed on " ++ epochName e ++ ": " ++ error.message
  | closedByUser e => "connection closed by user (" ++ epochName e ++ ")"
  | stale signal e current =>
    "ignoring stale " ++ signalName signal ++ " callback (" ++ epochName e ++
      s!", current {current.raw})"
  | openIgnored s => "open ignored in state " ++ stateName s
  | messageIgnored s => "message ignored in state " ++ stateName s
  | opened e => "connection open (" ++ epochName e ++ ")"
  | socketError e info => "transport error on " ++ epochName e ++ ": " ++ info
  | staleTimer e => "ignoring stale retry timer for " ++ epochName e
  | connecting url e => "connecting to " ++ url ++ " (" ++ epochName e ++ ")"
  | refused error => error.message
  | closed reason e => "connection closed (" ++ reasonName reason ++ ", " ++ epochName e ++ ")"
  | gaveUp maxAttempts => s!"giving up after {maxAttempts} reconnect attempts"
  | retrying attempt maxAttempts delay => s!"retry {attempt}/{maxAttempts} in {delay} ms"
  | clientReady url mode => "terminal client for " ++ url ++ " (" ++ modeName mode ++ " mode)"
  | sessionBusy => "session busy, dropping callback"
  | appendFailed thrown => "failed to append output: " ++ thrown.inspect
  | indicatorFailed thrown => "failed to update status indicator: " ++ thrown.inspect
  | unfocused why => "failed to focus terminal: " ++ why
  | unsupportedPayload => "ignoring message with unsupported payload type"
  | socketClosed code clean => s!"socket closed (code {code}, clean {clean})"
  | closeFailed thrown => "socket close failed: " ++ thrown.message

def render (n : Notice) : String := n.level.name ++ " " ++ n.text

end Notice

/-- What encoding an input leaves to be noted about the line it was for. -/
def Encoded.notices (line : Line) : Encoded → List Notice
  | refused c => [.lineFull line.limit c]
  | _ => []

/-- A world that keeps a log. -/
class Journal (ω : Type) where
  note : Notice → ω → ω

end WebTerminal
