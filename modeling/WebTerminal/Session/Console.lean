import WebTerminal.Connection.Link
import WebTerminal.Keyboard.Keystroke
import WebTerminal.Session.Basic

/-! # Sessions at work

A console is a session with the world it acts on. What happens to the connection is shown as lines
on the screen and as a status, which is reported only when it changes. -/

namespace WebTerminal

/-- A world with a screen and a place for the status. -/
class Screen (ω : Type) where
  append : (text : String) → Session.Style → ω → ω
  clear : ω → ω
  scrollToEnd : ω → ω
  focus : ω → ω
  report : Session.Status → ω → ω

namespace Session

/-- What became of an input. -/
inductive Outcome where
  | sent
  | buffered
  | dropped
  | failed
  deriving DecidableEq, Repr

structure Console (ω : Type) where
  session : Session
  world : ω
  deriving Repr

namespace Console

variable {ω : Type}

def link (c : Console ω) : Connection.Link ω := ⟨c.session.connection, c.world⟩

def withLink (l : Connection.Link ω) (c : Console ω) : Console ω :=
  { session := { c.session with connection := l.connection }, world := l.world }

def withWorld (f : ω → ω) (c : Console ω) : Console ω := { c with world := f c.world }

def withDecoder (d : Utf8.Decoder) (c : Console ω) : Console ω :=
  { c with session := { c.session with decoder := d } }

def withEncoder (e : Encoder) (c : Console ω) : Console ω :=
  { c with session := { c.session with encoder := e } }

variable [Network ω] [Screen ω]

def noteAll (ns : List Notice) (c : Console ω) : Console ω :=
  c.withWorld fun w => ns.foldl (fun w n => Journal.note n w) w

def append (text : String) (style : Style) (c : Console ω) : Console ω :=
  c.withWorld (Screen.append text style)

def scrollToEnd (c : Console ω) : Console ω := c.withWorld Screen.scrollToEnd

/-- Shows a line of the terminal's own. -/
def announce (style : Style) (text : String) (c : Console ω) : Console ω :=
  c.append (style.tag ++ text ++ "\n") style

def report (s : Status) (c : Console ω) : Console ω :=
  if c.session.lastStatus? = some s then c
  else { session := { c.session with lastStatus? := some s }, world := Screen.report s c.world }

/-- Shows what the received bytes have completed, which may be nothing. -/
def receive (chunk : Bytes) (c : Console ω) : Console ω :=
  let decoded := c.session.decoder.push chunk
  let c := c.withDecoder decoded.2
  if decoded.1.isEmpty then c else (c.append (String.ofList decoded.1) .output).scrollToEnd

open Connection in
def present (c : Console ω) : Event → Console ω
  | .connecting url _ =>
    (c.withDecoder c.session.decoder.reset).announce .info ("Connecting to " ++ url ++ "...")
  | .refused error => c.announce .error ("Failed: " ++ error.message)
  | .connected =>
    ((c.announce .info "Connected to remote shell").report .connected).withWorld Screen.focus
  | .received chunk => c.receive chunk
  | .failed _ => c.announce .error "WebSocket error"
  | .closed .network => (c.announce .info "Connection closed").report .disconnected
  | .closed .user => (c.announce .info "Connection closed by user").report .disconnected
  | .retryScheduled attempt maxAttempts delay =>
    ((c.noteAll [.retrying attempt maxAttempts delay]).announce .info
      s!"Reconnecting ({attempt}/{maxAttempts})...").report (.reconnecting attempt maxAttempts)
  | .exhausted maxAttempts =>
    (c.announce .error "Max reconnection attempts reached").report (.exhausted maxAttempts)

def presentAll (es : List Connection.Event) (c : Console ω) : Console ω := es.foldl present c

/-- Lets the connection act and then shows the events of it. -/
def act (f : Connection.Link ω → List Connection.Event × Connection.Link ω) (c : Console ω) :
    Console ω :=
  (c.withLink (f c.link).2).presentAll (f c.link).1

def start (c : Console ω) : Console ω := (c.report .disconnected).act (·.connect)

def close (c : Console ω) : Console ω := c.act (·.close)

def reconnect (c : Console ω) : Console ω := c.act (·.reconnect)

def signal (e : Epoch) (s : Connection.Signal) (c : Console ω) : Console ω := c.act (·.signal e s)

def retryDue (e : Epoch) (c : Console ω) : Console ω := c.act (·.retryDue e)

/-- Sends a frame and says so on the screen when that fails. -/
def send (f : Frame) (c : Console ω) : Outcome × Console ω :=
  let sent := c.link.send f
  let c := c.withLink sent.2
  match sent.1 with
  | .sent => (.sent, c)
  | .dropped => (.dropped, c)
  | .failed error => (.failed, c.announce .error error.message)

def input (i : Input) (c : Console ω) : Outcome × Console ω :=
  let encoded := c.session.encoder.encode i
  let c := (c.noteAll (encoded.1.notices c.session.encoder.line)).withEncoder encoded.2
  match encoded.1 with
  | .frame f => c.send f
  | .held | .refused _ => (.buffered, c)

def press (k : Keystroke) (c : Console ω) : KeyAction × Console ω :=
  match k.action with
  | .input i => (.input i, (c.input i).2.scrollToEnd)
  | action => (action, c)

def clear (c : Console ω) : Console ω :=
  (c.withWorld Screen.clear).announce .info "Terminal cleared"

/-- Ends the session's activity, discards what was typed and received in part, and shows nothing. -/
def shutdown (c : Console ω) : Console ω :=
  let c := c.withLink c.link.shutdown
  (c.withEncoder c.session.encoder.clearLine).withDecoder c.session.decoder.reset

end Console

end Session

end WebTerminal
