import WebTerminal.Browser.Client

/-! # A browser, step by step

A page with at most one client on it. A step is something that the page's script asks of the client
or something that happens on the page. -/

namespace WebTerminal

structure Browser where
  page : Browser.Page := {}
  client? : Option Browser.Client := none

namespace Browser

/-- What a message carries. -/
inductive Payload where
  | text (s : String)
  | binary (bytes : Bytes)
  | other
  deriving DecidableEq, Repr

def Payload.bytes? : Payload → Option Bytes
  | text s => some (Utf8.encode s.toList)
  | binary bytes => some bytes
  | other => none

inductive SocketEvent where
  | opened
  | message (p : Payload)
  | error
  | closed (code : Nat) (clean : Bool)
  deriving DecidableEq, Repr

def SocketEvent.handler : SocketEvent → Handler
  | opened => .opened
  | message _ => .message
  | error => .error
  | closed _ _ => .closed

/-- What the page's script asks of a client. -/
inductive Request where
  | start
  | press (k : Keystroke)
  | clear
  | close
  | reconnect
  | dispose
  | pendingLine
  | isConnected
  | statistics
  deriving DecidableEq, Repr

/-- A keydown without a keystroke is one that no keyboard made. A socket event without a number is
for the socket made last. -/
inductive Step where
  | create (config? : Option String)
  | discard
  | request (r : Request)
  | keydown (k? : Option Keystroke)
  | click (id : ElementId)
  | socket (s? : Option SocketId) (e : SocketEvent)
  | timer
  | setThrow (h : Hazard) (v? : Option Thrown)
  | setEcho (text? : Option String)
  | remove (id : ElementId)
  deriving DecidableEq, Repr

inductive Answer where
  | none
  | created
  | refused (r : Refusal)
  | noClient
  | flag (b : Bool)
  | text (s : String)
  | statistics (s : Connection.Statistics)
  | reached (listeners : Nat)
  | key (listeners : Nat) (prevented : Bool)
  | timer (t : Timer)
  deriving Repr

def withTerminal (t : Terminal) (_ : Browser) : Browser := ⟨t.page, some t.client⟩

/-- Lets the client act, if there is one. -/
def act (f : Terminal → Terminal) (b : Browser) : Browser :=
  match b.client? with
  | none => b
  | some client => b.withTerminal (f ⟨client, b.page⟩)

def discard (b : Browser) : Browser := { b.act Terminal.dispose with client? := none }

def create (config? : Option String) (b : Browser) : Answer × Browser :=
  match Client.create config? b.discard.page with
  | (.ok client, page) => (.created, ⟨page, some client⟩)
  | (.error r, page) => (.refused r, ⟨page, none⟩)

def answerRequest (r : Request) (t : Terminal) : Answer × Terminal :=
  match r with
  | .start => (.none, t.start)
  | .press k => (.flag (t.press k).1.isInput, (t.press k).2)
  | .clear => (.none, t.clear)
  | .close => (.none, t.close)
  | .reconnect => (.none, t.reconnect)
  | .dispose => (.none, t.dispose)
  | .pendingLine => (.text t.pendingLine, t)
  | .isConnected => (.flag t.isConnected, t)
  | .statistics => (.statistics t.statistics, t)

def request (r : Request) (b : Browser) : Answer × Browser :=
  match b.client? with
  | none => (.noClient, b)
  | some client =>
    let answered := answerRequest r ⟨client, b.page⟩
    (answered.1, b.withTerminal answered.2)

/-! ## What happens on the page -/

/-- A click on the terminal focuses it, one on the button to clear it clears it. -/
def clicked (l : Listener) (b : Browser) : Browser :=
  match l with
  | .focus =>
    match b.page.focus with
    | .ok page => { b with page }
    | .error _ => b
  | .clear => b.act (·.clear)
  | .keyboard => b

def click (id : ElementId) (b : Browser) : Answer × Browser :=
  let reached := b.page.listenersTo (some id)
  (.reached reached.length, reached.foldl (fun b l => b.clicked l) b)

/-- A key that is an input does nothing else in the browser. -/
def keydown (k? : Option Keystroke) (b : Browser) : Answer × Browser :=
  let reached := (b.page.listenersTo none).length
  match k?, b.client?, reached with
  | some k, some client, _ + 1 =>
    let pressed := Terminal.press k ⟨client, b.page⟩
    (.key reached pressed.1.isInput, b.withTerminal pressed.2)
  | _, _, _ => (.key reached false, b)

/-- Hands what happened to a socket to the session, in the socket's epoch. -/
def hear (e : Epoch) (event : SocketEvent) (b : Browser) : Browser :=
  let signal (s : Connection.Signal) (b : Browser) : Browser := b.act (·.act (·.signal e s))
  match event with
  | .opened => signal .opened b
  | .message payload =>
    match payload.bytes? with
    | some chunk => signal (.message chunk) b
    | none => { b with page := b.page.note .unsupportedPayload }
  | .error => signal (.error "error") b
  | .closed code clean =>
    signal .closed { b with page := b.page.note (.socketClosed code clean) }

def socket (s? : Option SocketId) (event : SocketEvent) (b : Browser) : Answer × Browser :=
  let s := s?.getD ⟨b.page.sockets.length - 1⟩
  match b.page.sockets[s.index]? with
  | some socket =>
    if event.handler ∈ socket.handlers then (.flag true, b.hear socket.epoch event)
    else (.flag false, b)
  | none => (.flag false, b)

def timer (b : Browser) : Answer × Browser :=
  match b.page.takeTimer with
  | none => (.none, b)
  | some (t, page) => (.timer t, ({ b with page } : Browser).act (·.act (·.retryDue t.epoch)))

def perform (s : Step) (b : Browser) : Answer × Browser :=
  match s with
  | .create config? => b.create config?
  | .discard => (.none, b.discard)
  | .request r => b.request r
  | .keydown k? => b.keydown k?
  | .click id => b.click id
  | .socket s? e => b.socket s? e
  | .timer => b.timer
  | .setThrow h v? => (.none, { b with page := b.page.setThrow h v? })
  | .setEcho text? => (.none, { b with page := { b.page with echo? := text? } })
  | .remove id => (.none, { b with page := b.page.remove id })

/-- Performs the steps in order and keeps every answer. -/
def run : List Step → Browser → List Answer × Browser
  | [], b => ([], b)
  | s :: ss, b => ((b.perform s).1 :: (run ss (b.perform s).2).1, (run ss (b.perform s).2).2)

end Browser

end WebTerminal
