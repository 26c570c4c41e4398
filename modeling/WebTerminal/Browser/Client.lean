import WebTerminal.Browser.Page
import WebTerminal.Config.Reader

/-! # Terminal clients

A client joins a session to the page it is on: it listens to the keyboard and to clicks, and shows
the line being typed. Making one needs the elements it shows things in; a client that cannot listen
to all it should is taken off the page again. -/

namespace WebTerminal.Browser

/-- Why no client could be made. -/
inductive Refusal where
  | config (e : Config.Error)
  | noWindow
  | noDocument
  | noElement (id : ElementId)
  | notHtml (id : ElementId)
  | noHost
  | thrown (v : Thrown)
  deriving Repr

def Refusal.message : Refusal → String
  | config e => e.message
  | noWindow => "No window object"
  | noDocument => "No document object"
  | noElement id => "Element not found: " ++ id.name
  | notHtml id => "Element is not HtmlElement: " ++ id.name
  | noHost => "Failed to get host"
  | thrown v => v.message

namespace Page

def requireDocument (p : Page) : Except Refusal Unit :=
  if !p.hasWindow then .error .noWindow
  else if !p.hasDocument then .error .noDocument
  else .ok ()

def requireElement (p : Page) (id : ElementId) : Except Refusal Element :=
  match p.find? id with
  | some e => .ok e
  | none => .error (.noElement id)

def requireHtml (p : Page) (id : ElementId) : Except Refusal Unit := do
  let e ← p.requireElement id
  if e.isHtml then .ok () else .error (.notHtml id)

def requireHost (p : Page) : Except Refusal String :=
  match p.throws .host with
  | some _ => .error .noHost
  | none => .ok p.host

/-- A protocol that cannot be read counts as the insecure one. -/
def protocolOrPlain (p : Page) : String :=
  match p.throws .protocol with
  | some _ => "http:"
  | none => p.protocol

def setAttribute (id : ElementId) (name value : String) (p : Page) : Except Thrown Page :=
  match p.throws .setAttribute with
  | some v => .error v
  | none => .ok (p.record (.attribute id name value))

end Page

/-- `showsLine` tells whether the page had a place for the line being typed when the client was
made; `listeners` are those to take off the page again. -/
structure Client where
  session : Session
  showsLine : Bool
  listeners : List Listener := []
  deriving DecidableEq, Repr

/-- A client at work on its page. -/
structure Terminal where
  client : Client
  page : Page

namespace Terminal

open Session

def console (t : Terminal) : Console Page := ⟨t.client.session, t.page⟩

def withConsole (c : Console Page) (t : Terminal) : Terminal :=
  { client := { t.client with session := c.session }, page := c.world }

def act (f : Console Page → Console Page) (t : Terminal) : Terminal := t.withConsole (f t.console)

def withPage (p : Page) (t : Terminal) : Terminal := { t with page := p }

def pendingLine (t : Terminal) : String := t.client.session.pendingLine

def isConnected (t : Terminal) : Bool := t.client.session.connection.isOpen

def statistics (t : Terminal) : Connection.Statistics := t.client.session.statistics

def showLine (t : Terminal) : Terminal :=
  if t.client.showsLine then t.withPage (t.page.setText .inputLine t.pendingLine) else t

/-- Focuses the terminal if it is still on the page. -/
def focus (t : Terminal) : Terminal :=
  match do t.page.requireDocument; t.page.requireHtml .terminal with
  | .error r => t.withPage (t.page.note (.unfocused r.message))
  | .ok () =>
    match t.page.focus with
    | .error v => t.withPage (t.page.note (.unfocused v.message))
    | .ok p => t.withPage p

def start (t : Terminal) : Terminal := (t.act (·.start)).focus

def press (k : Keystroke) (t : Terminal) : KeyAction × Terminal :=
  let pressed := t.console.press k
  (pressed.1, (t.withConsole pressed.2).showLine)

def clear (t : Terminal) : Terminal := t.act (·.clear)

def close (t : Terminal) : Terminal := t.act (·.close)

def reconnect (t : Terminal) : Terminal := t.act (·.reconnect)

/-- Takes the listeners off the page in the order they were put on. -/
def unlistenAll (t : Terminal) : Terminal :=
  { client := { t.client with listeners := [] },
    page := t.client.listeners.foldl (fun p l => p.unlisten l) t.page }

def dispose (t : Terminal) : Terminal := t.unlistenAll.act (·.shutdown)

def listen (l : Listener) (t : Terminal) : Except Thrown Terminal := do
  let p ← t.page.listen l
  return { client := { t.client with listeners := t.client.listeners ++ [l] }, page := p }

/-! ## Making a client -/

/-- One thing a client does to be reached by the user. -/
inductive Binding where
  | listen (l : Listener)
  | tabIndex
  deriving DecidableEq, Repr

def bind (b : Binding) (t : Terminal) : Except Thrown Terminal :=
  match b with
  | .listen l => t.listen l
  | .tabIndex => (t.page.setAttribute .terminal "tabindex" "0").map t.withPage

/-- Binds for as long as nothing is thrown. -/
def bindAll : List Binding → Terminal → Option Thrown × Terminal
  | [], t => (none, t)
  | b :: bs, t =>
    match t.bind b with
    | .ok t => bindAll bs t
    | .error v => (some v, t)

/-- The button to clear the terminal may be missing. -/
def bindings (p : Page) : List Binding :=
  [.listen .keyboard, .tabIndex, .listen .focus] ++
    if (p.find? .clearButton).isSome then [.listen .clear] else []

end Terminal

namespace Client

/-- A client with the address it is for, before it is bound to the page. -/
def prepare (config? : Option String) (p : Page) : Except Refusal (Config × String) := do
  let config ← match config? with
    | some text => (Config.ofJson text).mapError .config
    | none => .ok {}
  p.requireDocument
  let _ ← p.requireElement .output
  p.requireHtml .terminal
  let _ ← p.requireElement .statusIndicator
  let _ ← p.requireElement .statusText
  let host ← p.requireHost
  return (config, config.url p.protocolOrPlain host)

/-- Makes a client and binds it. On a refusal the page is left without listeners of it. -/
def create (config? : Option String) (p : Page) : Except Refusal Client × Page :=
  match prepare config? p with
  | .error r => (.error r, p)
  | .ok (config, url) =>
    let p := p.note (.clientReady url config.mode)
    let client : Client :=
      { session := config.session url, showsLine := (p.find? .inputLine).isSome }
    match Terminal.bindAll (Terminal.bindings p) ⟨client, p⟩ with
    | (none, t) => (.ok t.client, t.page)
    | (some v, t) => (.error (.thrown v), t.dispose.page)

end Client

end WebTerminal.Browser
