import WebTerminal.Browser.Element
import WebTerminal.Connection.Link
import WebTerminal.Session.Console

/-! # Pages

A page is the world of a terminal in a browser. It has elements, sockets, timers and listeners,
keeps every call made on it in order, and throws where it is told to. -/

namespace WebTerminal.Browser

/-- What the page calls: for a key that goes down, for a click on the terminal, and for a click on
the button that clears it. -/
inductive Listener where
  | keyboard
  | focus
  | clear
  deriving DecidableEq, Repr

namespace Listener

/-- The element listened to, if it is not the whole document. -/
def element? : Listener → Option ElementId
  | keyboard => none
  | focus => some .terminal
  | clear => some .clearButton

def eventName : Listener → String
  | keyboard => "keydown"
  | focus | clear => "click"

end Listener

/-- The calls on a page that can throw. -/
inductive Hazard where
  | socket
  | send
  | close
  | createElement
  | appendChild
  | classList
  | focus
  | setAttribute
  | protocol
  | host
  | listen (l : Listener)
  deriving DecidableEq, Repr

inductive Call where
  | listen (l : Listener)
  | unlisten (l : Listener)
  | attribute (id : ElementId) (name value : String)
  | append (id : ElementId) (child : Span)
  | html (id : ElementId) (content : String)
  | text (id : ElementId) (content : String)
  | scroll (id : ElementId) (top : Nat)
  | focus (id : ElementId)
  | socket (s : SocketId) (url : String)
  | binaryType (s : SocketId)
  | sendText (s : SocketId) (text : String)
  | sendBinary (s : SocketId) (bytes : Bytes)
  | close (s : SocketId)
  | setTimeout (t : TimerId) (delay : UInt32)
  | clearTimeout (t : TimerId)
  deriving DecidableEq, Repr

/-- What a socket calls when something happens to it. -/
inductive Handler where
  | opened
  | message
  | error
  | closed
  deriving DecidableEq, Repr

def Handler.all : List Handler := [.opened, .message, .error, .closed]

theorem Handler.mem_all (h : Handler) : h ∈ all := by cases h <;> decide

/-- What happens to a socket is heard by the handler for it, if the socket has that one. -/
structure Socket where
  url : String
  epoch : Epoch
  handlers : List Handler := Handler.all
  deriving DecidableEq, Repr

/-- A socket is attached while it has any handler. -/
def Socket.attached (s : Socket) : Bool := !s.handlers.isEmpty

/-- Takes all handlers off. -/
def Socket.detach (s : Socket) : Socket := { s with handlers := [] }

/-- With an echo, the page delivers a message to a socket before a send on it returns. Each time
something is to be shown one of the `whims` is used up, which says what is thrown that time. -/
structure Page where
  hasWindow : Bool := true
  hasDocument : Bool := true
  protocol : String := "http:"
  host : String := "localhost:8080"
  elements : ElementId → Element := fun _ => {}
  throws : Hazard → Option Thrown := fun _ => none
  whims : List (Hazard → Option Thrown) := []
  echo? : Option String := none
  sockets : List Socket := []
  timers : List Timer := []
  nextTimer : Nat := 0
  listeners : List Listener := []
  calls : List Call := []
  journal : List Notice := []

namespace Page

def note (n : Notice) (p : Page) : Page := { p with journal := p.journal ++ [n] }

def record (c : Call) (p : Page) : Page := { p with calls := p.calls ++ [c] }

/-- The element of an id, when it is on the page. -/
def find? (p : Page) (id : ElementId) : Option Element :=
  if (p.elements id).onPage then some (p.elements id) else none

def modify (id : ElementId) (f : Element → Element) (p : Page) : Page :=
  { p with elements := fun i => if i = id then f (p.elements i) else p.elements i }

def remove (id : ElementId) (p : Page) : Page := p.modify id ({ · with onPage := false })

def setThrow (h : Hazard) (v? : Option Thrown) (p : Page) : Page :=
  { p with throws := fun i => if i = h then v? else p.throws i }

/-! ## Elements -/

def setText (id : ElementId) (s : String) (p : Page) : Page :=
  (p.modify id ({ · with text := s })).record (.text id s)

def connectedClass : String := "connected"

/-- What is thrown when something is to be shown, and the page after that. -/
def whim (p : Page) : (Hazard → Option Thrown) × Page :=
  match p.whims with
  | [] => (p.throws, p)
  | throws :: whims => (throws, { p with whims })

def append (text : String) (style : Session.Style) (p : Page) : Page :=
  let (throws, p) := p.whim
  match throws .createElement, throws .appendChild with
  | some v, _ | none, some v => p.note (.appendFailed v)
  | none, none =>
    let child : Span := ⟨style.class?, text⟩
    (p.modify .output fun e => { e with children := e.children ++ [child] }).record
      (.append .output child)

def clear (p : Page) : Page :=
  (p.modify .output ({ · with children := [] })).record (.html .output "")

/-- Every piece of output is 20 high. -/
def scrollHeight (p : Page) : Nat :=
  match p.find? .output with
  | some e => 20 * e.children.length
  | none => 0

def scrollToEnd (p : Page) : Page := p.record (.scroll .terminal p.scrollHeight)

/-- Focuses the terminal, or yields what is thrown instead. -/
def focus (p : Page) : Except Thrown Page :=
  match p.throws .focus with
  | some v => .error v
  | none => .ok (p.record (.focus .terminal))

def indicate (connected : Bool) (p : Page) : Page :=
  let (throws, p) := p.whim
  match throws .classList with
  | some v => p.note (.indicatorFailed v)
  | none => p.modify .statusIndicator
      (if connected then .addClass connectedClass else .removeClass connectedClass)

def report (s : Session.Status) (p : Page) : Page :=
  (p.indicate s.isConnected).setText .statusText s.phase

instance : Screen Page where
  append := append
  clear := clear
  scrollToEnd := scrollToEnd
  focus p := match p.focus with
    | .ok p => p
    | .error v => p.note (.unfocused v.inspect)
  report := report

/-! ## Sockets -/

def detach (s : SocketId) (p : Page) : Page :=
  { p with sockets := p.sockets.modify s.index Socket.detach }

def hears (p : Page) (s : SocketId) (h : Handler) : Bool := p.sockets[s.index]?.any (h ∈ ·.handlers)

def dial (url : String) (e : Epoch) (p : Page) : Except TransportError SocketId × Page :=
  match p.throws .socket with
  | some v => (.error (.construction v.message), p)
  | none =>
    let s : SocketId := ⟨p.sockets.length⟩
    (.ok s, (({ p with sockets := p.sockets ++ [{ url, epoch := e }] } : Page).record
      (.socket s url)).record (.binaryType s))

/-- A message that arrives while the session is at work finds it busy and is dropped. -/
def echo (s : SocketId) (p : Page) : Page :=
  if p.echo?.isSome && p.hears s .message then p.note .sessionBusy else p

/-- Frames that are texts are sent as texts. -/
def transmit (s : SocketId) (f : Frame) (p : Page) : Except TransportError Unit × Page :=
  match p.throws .send with
  | some v => (.error (.send v.message), p)
  | none =>
    let call := match f.text? with
      | some text => .sendText s text
      | none => .sendBinary s f.bytes
    (.ok (), (p.record call).echo s)

def hangUp (s : SocketId) (p : Page) : Page :=
  let p := (p.detach s).record (.close s)
  match p.throws .close with
  | some v => p.note (.closeFailed v)
  | none => p

/-! ## Timers -/

def schedule (delay : UInt32) (e : Epoch) (p : Page) : TimerId × Page :=
  let t : TimerId := ⟨p.nextTimer⟩
  (t, ({ p with timers := p.timers ++ [⟨t, delay, e⟩], nextTimer := p.nextTimer + 1 } : Page).record
    (.setTimeout t delay))

/-- Only a timer that has not run out is cleared. -/
def cancel (t : TimerId) (p : Page) : Page :=
  if p.timers.any (·.id = t) then
    ({ p with timers := p.timers.filter (·.id ≠ t) } : Page).record (.clearTimeout t)
  else p

/-- Takes the timer that was set first. -/
def takeTimer (p : Page) : Option (Timer × Page) :=
  match p.timers with
  | [] => none
  | t :: rest => some (t, { p with timers := rest })

instance : Network Page where
  note := note
  dial := dial
  transmit := transmit
  hangUp := hangUp
  release := detach
  schedule := schedule
  cancel := cancel

/-! ## Listeners -/

def listen (l : Listener) (p : Page) : Except Thrown Page :=
  match p.throws (.listen l) with
  | some v => .error v
  | none => .ok (({ p with listeners := p.listeners ++ [l] } : Page).record (.listen l))

def unlisten (l : Listener) (p : Page) : Page :=
  ({ p with listeners := p.listeners.erase l } : Page).record (.unlisten l)

/-- The listeners to an element, or to the document, that an event on it reaches. -/
def listenersTo (p : Page) (target? : Option ElementId) : List Listener :=
  if target?.all fun id => (p.elements id).onPage then
    p.listeners.filter fun l => l.element? = target?
  else []

end Page

end WebTerminal.Browser
