import WebTerminal.Connection.Basic
import WebTerminal.Notice

/-! # Connections at work

A link is a connection with the world it acts on. Each operation yields the events that it caused.
A socket is held only while connecting or open, at most one retry is waited for, and a signal of
another epoch than the present one changes nothing. -/

namespace WebTerminal

/-- A world with sockets and timers. -/
class Network (ω : Type) extends Journal ω where
  dial : (url : String) → Epoch → ω → Except TransportError SocketId × ω
  transmit : SocketId → Frame → ω → Except TransportError Unit × ω
  /-- Closes a socket and listens to it no more. -/
  hangUp : SocketId → ω → ω
  /-- Listens no more to a socket that has closed by itself. -/
  release : SocketId → ω → ω
  schedule : (delay : UInt32) → Epoch → ω → TimerId × ω
  cancel : TimerId → ω → ω

namespace Connection

structure Link (ω : Type) where
  connection : Connection
  world : ω
  deriving Repr

namespace Link

variable {ω : Type} [Network ω]

def note (n : Notice) (l : Link ω) : Link ω := { l with world := Journal.note n l.world }

def update (f : Connection → Connection) (l : Link ω) : Link ω :=
  { l with connection := f l.connection }

def enter (s : State) (l : Link ω) : Link ω := l.update ({ · with state := s })

def cancelRetry (l : Link ω) : Link ω :=
  match l.connection.retry? with
  | none => l
  | some r =>
    { connection := { l.connection with retry? := none }, world := Network.cancel r.timer l.world }

def hangUp (l : Link ω) : Link ω :=
  match l.connection.socket? with
  | none => l
  | some s =>
    { connection := { l.connection with socket? := none }, world := Network.hangUp s l.world }

def release (l : Link ω) : Link ω :=
  match l.connection.socket? with
  | none => l
  | some s =>
    { connection := { l.connection with socket? := none }, world := Network.release s l.world }

/-- Puts events before those of what followed. -/
def following (es : List Event) (r : List Event × Link ω) : List Event × Link ω := (es ++ r.1, r.2)

/-- Sets the timer for the next retry. -/
def setRetry (delay : UInt32) (l : Link ω) : Link ω :=
  let timer := Network.schedule delay l.connection.epoch l.world
  { connection := { l.connection with retry? := some ⟨l.connection.epoch, timer.1⟩ }
    world := timer.2 }

/-- Waits for the next retry of a policy that has advanced. -/
def schedule (delay : UInt32) (policy : RetryPolicy) (l : Link ω) : List Event × Link ω :=
  ([.retryScheduled policy.attempt policy.maxAttempts delay],
    (l.update ({ · with policy := policy })).cancelRetry.setRetry delay)

def giveUp (l : Link ω) : List Event × Link ω :=
  if l.connection.exhaustionReported then ([], l)
  else
    ([.exhausted l.connection.policy.maxAttempts],
      (l.update ({ · with exhaustionReported := true })).note
        (.gaveUp l.connection.policy.maxAttempts))

def retryOrGiveUp (l : Link ω) : List Event × Link ω :=
  match l.connection.policy.next? with
  | some (delay, policy) => l.schedule delay policy
  | none => l.giveUp

/-- The network has closed the connection: it is tried again or given up. -/
def lose (l : Link ω) : List Event × Link ω :=
  following [.closed .network]
    ((l.note (.closed .network l.connection.epoch)).enter (.closed .network)).retryOrGiveUp

/-- Opens a socket for the present epoch. A refusal counts as a connection lost at once. -/
def dial (l : Link ω) : List Event × Link ω :=
  match Network.dial l.connection.url l.connection.epoch l.world with
  | (.ok s, world) => ([], { connection := { l.connection with socket? := some s }, world })
  | (.error e, world) => following [.refused e] (({ l with world } : Link ω).note (.refused e)).lose

/-- Leaves the present connection for one in a new epoch. -/
def attempt (l : Link ω) : List Event × Link ω :=
  let l := l.cancelRetry.hangUp.update beginAttempt
  following [.connecting l.connection.url l.connection.epoch]
    (l.note (.connecting l.connection.url l.connection.epoch)).dial

def connect (l : Link ω) : List Event × Link ω :=
  if l.connection.state.isLive then ([], l.note (.connectIgnored l.connection.state))
  else if l.connection.startsAnew then (l.update resetPolicy).attempt
  else l.attempt

/-- Gives up the present connection on behalf of the user. -/
def abandon (l : Link ω) : List Event × Link ω :=
  let l := l.cancelRetry.hangUp
  ([.closed .user], (l.note (.replacing l.connection.epoch)).enter (.closed .user))

def reconnect (l : Link ω) : List Event × Link ω :=
  let abandoned := if l.connection.state.isLive then l.abandon else ([], l)
  following abandoned.1 (abandoned.2.update resetPolicy).attempt

def close (l : Link ω) : List Event × Link ω :=
  let l := l.cancelRetry.hangUp
  match l.connection.state with
  | .idle | .closed .user => ([], l)
  | .connecting | .opened | .closed .network =>
    ([.closed .user], (l.note (.closedByUser l.connection.epoch)).enter (.closed .user))

/-- Ends all activity and reports nothing. -/
def shutdown (l : Link ω) : Link ω :=
  (l.cancelRetry.hangUp.update resetPolicy).enter .idle

def drop (f : Frame) (l : Link ω) : Delivery × Link ω :=
  (.dropped, (l.update fun c => { c with counters := c.counters.countDropped }).note
    (.frameDropped f.size l.connection.state))

/-- Sends a frame on an open connection and drops it otherwise. -/
def send (f : Frame) (l : Link ω) : Delivery × Link ω :=
  match l.connection.state, l.connection.socket? with
  | .opened, some s =>
    match Network.transmit s f l.world with
    | (.ok (), world) =>
      (.sent, ({ l with world } : Link ω).update
        fun c => { c with counters := c.counters.countSent f.size })
    | (.error e, world) =>
      (.failed e, ({ l with world } : Link ω).note (.sendFailed l.connection.epoch e))
  | _, _ => l.drop f

def opened (l : Link ω) : List Event × Link ω :=
  if l.connection.state = .connecting then
    let l := ((l.note (.opened l.connection.epoch)).enter .opened).update resetPolicy
    ([.connected], l.update fun c => { c with counters := c.counters.countOpened })
  else ([], l.note (.openIgnored l.connection.state))

def received (chunk : Bytes) (l : Link ω) : List Event × Link ω :=
  if l.connection.state = .opened then
    ([.received chunk],
      l.update fun c => { c with counters := c.counters.countReceived chunk.length })
  else ([], l.note (.messageIgnored l.connection.state))

/-- An error alone does not end a connection: its closing follows. -/
def failed (info : String) (l : Link ω) : List Event × Link ω :=
  if l.connection.state.isLive then
    ([.failed info], l.note (.socketError l.connection.epoch info))
  else ([], l)

def closed (l : Link ω) : List Event × Link ω :=
  if l.connection.state.isLive then l.release.lose else ([], l)

/-- A signal from the socket of an epoch. -/
def signal (e : Epoch) (s : Signal) (l : Link ω) : List Event × Link ω :=
  if e = l.connection.epoch then
    match s with
    | .opened => l.opened
    | .message chunk => l.received chunk
    | .error info => l.failed info
    | .closed => l.closed
  else ([], l.note (.stale s e l.connection.epoch))

/-- The timer of an epoch has run out. -/
def retryDue (e : Epoch) (l : Link ω) : List Event × Link ω :=
  if l.connection.awaits e then (l.update ({ · with retry? := none })).attempt
  else ([], l.note (.staleTimer e))

end Link

end Connection

end WebTerminal
