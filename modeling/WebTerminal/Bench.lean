import WebTerminal.Connection.Operation
import WebTerminal.Session.Operation

/-! # The bench

A world that acts on command: connections are refused and frames fail as it is told, timers run out
when they are fired, and all that was done to it is kept in order. -/

namespace WebTerminal

inductive Bench.Shown where
  | append (text : String) (style : Session.Style)
  | clear
  | scroll
  | focus
  | status (s : Session.Status)
  deriving DecidableEq, Repr

/-- `live` are the timers that have neither fired nor been cancelled, in the order they were set. A
screen that cannot be focused takes no notice of it. -/
structure Bench where
  refusals : UInt32 := 0
  brokenPipe : Bool := false
  focusable : Bool := true
  opened : List (Epoch × String) := []
  sent : List Frame := []
  closed : List Epoch := []
  scheduled : List Timer := []
  live : List Timer := []
  cancelled : List TimerId := []
  shown : List Bench.Shown := []
  journal : List Notice := []
  deriving DecidableEq, Repr

namespace Bench

def dial (url : String) (e : Epoch) (b : Bench) : Except TransportError SocketId × Bench :=
  if 0 < b.refusals then
    (.error (.construction "mock: refused"), { b with refusals := b.refusals - 1 })
  else (.ok ⟨b.opened.length⟩, { b with opened := b.opened ++ [(e, url)] })

def transmit (f : Frame) (b : Bench) : Except TransportError Unit × Bench :=
  if b.brokenPipe then (.error (.send "mock: broken pipe"), b)
  else (.ok (), { b with sent := b.sent ++ [f] })

/-- A closed socket is recorded by the epoch it was opened in. -/
def hangUp (s : SocketId) (b : Bench) : Bench :=
  { b with closed := b.closed ++ (b.opened[s.index]?.map Prod.fst).toList }

def schedule (delay : UInt32) (e : Epoch) (b : Bench) : TimerId × Bench :=
  let timer : Timer := ⟨⟨b.scheduled.length⟩, delay, e⟩
  (timer.id, { b with scheduled := b.scheduled ++ [timer], live := b.live ++ [timer] })

def cancel (t : TimerId) (b : Bench) : Bench :=
  { b with live := b.live.filter (·.id ≠ t), cancelled := b.cancelled ++ [t] }

def record (s : Shown) (b : Bench) : Bench := { b with shown := b.shown ++ [s] }

instance : Network Bench where
  note n b := { b with journal := b.journal ++ [n] }
  dial := dial
  transmit _ := transmit
  hangUp := hangUp
  release _ b := b
  schedule := schedule
  cancel := cancel

instance : Screen Bench where
  append text style := record (.append text style)
  clear := record .clear
  scrollToEnd := record .scroll
  focus b := if b.focusable then b.record .focus else b
  report s := record (.status s)

/-- Takes the timer that was set last. -/
def takeTimer (b : Bench) : Option (Timer × Bench) :=
  b.live.getLast?.map fun timer => (timer, { b with live := b.live.dropLast })

/-- The statuses reported, the last one last. -/
def statuses (b : Bench) : List Session.Status :=
  b.shown.filterMap fun
    | .status s => some s
    | _ => none

/-- What can happen on the bench: an operation, a timer that runs out or is lost, or a change of
what it refuses. -/
inductive Step (Operation : Type) where
  | perform (o : Operation)
  | fire
  | lose
  | refuse (count : UInt32)
  | breakPipe (broken : Bool)
  deriving DecidableEq, Repr

inductive Reply (Answer : Type) where
  | answer (a : Answer)
  | fired (t : Timer) (a : Answer)
  | lost (t : Timer)
  | noTimer
  | done
  deriving DecidableEq, Repr

end Bench

namespace Connection.Link

/-- A timer that runs out is reported to the connection, one that is lost is not. -/
def step (s : Bench.Step Operation) (l : Link Bench) : Bench.Reply Answer × Link Bench :=
  match s with
  | .perform o => (.answer (l.perform o).1, (l.perform o).2)
  | .refuse count => (.done, { l with world.refusals := count })
  | .breakPipe broken => (.done, { l with world.brokenPipe := broken })
  | .fire =>
    match l.world.takeTimer with
    | none => (.noTimer, l)
    | some (timer, world) =>
      let performed := ({ l with world } : Link Bench).perform (.retryDue timer.epoch)
      (.fired timer performed.1, performed.2)
  | .lose =>
    match l.world.takeTimer with
    | none => (.noTimer, l)
    | some (timer, world) => (.lost timer, { l with world })

/-- Takes the steps in order and keeps every reply. -/
def runSteps : List (Bench.Step Operation) → Link Bench → List (Bench.Reply Answer) × Link Bench
  | [], l => ([], l)
  | s :: ss, l => ((l.step s).1 :: (runSteps ss (l.step s).2).1, (runSteps ss (l.step s).2).2)

end Connection.Link

namespace Session.Console

/-- A timer that runs out is reported to the session, one that is lost is not. -/
def step (s : Bench.Step Operation) (c : Console Bench) : Bench.Reply Answer × Console Bench :=
  match s with
  | .perform o => (.answer (c.perform o).1, (c.perform o).2)
  | .refuse count => (.done, { c with world.refusals := count })
  | .breakPipe broken => (.done, { c with world.brokenPipe := broken })
  | .fire =>
    match c.world.takeTimer with
    | none => (.noTimer, c)
    | some (timer, world) =>
      let performed := ({ c with world } : Console Bench).perform (.retryDue timer.epoch)
      (.fired timer performed.1, performed.2)
  | .lose =>
    match c.world.takeTimer with
    | none => (.noTimer, c)
    | some (timer, world) => (.lost timer, { c with world })

/-- Takes the steps in order and keeps every reply. -/
def runSteps : List (Bench.Step Operation) → Console Bench →
    List (Bench.Reply Answer) × Console Bench
  | [], c => ([], c)
  | s :: ss, c => ((c.step s).1 :: (runSteps ss (c.step s).2).1, (runSteps ss (c.step s).2).2)

end Session.Console

end WebTerminal
