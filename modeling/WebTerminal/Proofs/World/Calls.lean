import WebTerminal.Session.Console

/-! # Calls on a world

All that a connection or a session does outside itself it does by calls on its world. `Made` tells
by which calls one world became another, and a watched world keeps the calls made on it, so that
what was done in a run can be spoken of whatever the world is. -/

namespace WebTerminal

/-- A call on a world, with what the world answered. -/
inductive Call where
  | dial (url : String) (epoch : Epoch) (answer : Except TransportError SocketId)
  | transmit (socket : SocketId) (frame : Frame) (answer : Except TransportError Unit)
  | hangUp (socket : SocketId)
  | release (socket : SocketId)
  | schedule (delay : UInt32) (epoch : Epoch) (timer : TimerId)
  | cancel (timer : TimerId)
  | append (text : String) (style : Session.Style)
  | clear
  | scrollToEnd
  | focus
  | report (status : Session.Status)

namespace Call

def isDial : Call → Bool
  | dial _ _ _ => true
  | _ => false

def isRefused : Call → Bool
  | dial _ _ (.error _) => true
  | _ => false

def onNetwork : Call → Bool
  | dial _ _ _ | transmit _ _ _ | hangUp _ | release _ | schedule _ _ _ | cancel _ => true
  | append _ _ | clear | scrollToEnd | focus | report _ => false

/-- Whether the call only lets go of a socket or a timer. -/
def letsGo : Call → Bool
  | hangUp _ | release _ | cancel _ => true
  | _ => false

/-- The delay and the epoch of a timer that was set. -/
def scheduled? : Call → Option (UInt32 × Epoch)
  | schedule delay epoch _ => some (delay, epoch)
  | _ => none

/-- What is true of each way to let go of something is true of calls that only let go. -/
theorem forall_letsGo {P : Call → Prop} (hangUp : ∀ s, P (.hangUp s))
    (release : ∀ s, P (.release s)) (cancel : ∀ t, P (.cancel t)) {calls : List Call}
    (h : ∀ call ∈ calls, call.letsGo = true) : ∀ call ∈ calls, P call := by
  intro call hc
  have hl := h call hc
  cases call with
  | hangUp s => exact hangUp s
  | release s => exact release s
  | cancel t => exact cancel t
  | _ => cases hl

theorem filterMap_scheduled_of_letsGo {calls : List Call}
    (h : ∀ call ∈ calls, call.letsGo = true) : calls.filterMap scheduled? = [] :=
  List.filterMap_eq_nil_iff.mpr (forall_letsGo (fun _ => rfl) (fun _ => rfl) (fun _ => rfl) h)

theorem any_isRefused_of_letsGo {calls : List Call} (h : ∀ call ∈ calls, call.letsGo = true) :
    calls.any isRefused = false :=
  List.any_eq_false.mpr (forall_letsGo (fun _ => nofun) (fun _ => nofun) (fun _ => nofun) h)

end Call

variable {ω : Type}

section Made

variable [Network ω]

/-- The first world becomes the second by these calls on the network, with notes in between. -/
inductive Made : ω → List Call → ω → Prop where
  | nil (w : ω) : Made w [] w
  | note {w w' : ω} {calls : List Call} (n : Notice) (h : Made (Journal.note n w) calls w') :
      Made w calls w'
  | dial {w w' : ω} {calls : List Call} {url : String} {e : Epoch}
      {r : Except TransportError SocketId × ω} (hr : Network.dial url e w = r)
      (h : Made r.2 calls w') : Made w (.dial url e r.1 :: calls) w'
  | transmit {w w' : ω} {calls : List Call} {s : SocketId} {f : Frame}
      {r : Except TransportError Unit × ω} (hr : Network.transmit s f w = r)
      (h : Made r.2 calls w') : Made w (.transmit s f r.1 :: calls) w'
  | hangUp {w w' : ω} {calls : List Call} {s : SocketId} (h : Made (Network.hangUp s w) calls w') :
      Made w (.hangUp s :: calls) w'
  | release {w w' : ω} {calls : List Call} {s : SocketId}
      (h : Made (Network.release s w) calls w') : Made w (.release s :: calls) w'
  | schedule {w w' : ω} {calls : List Call} {delay : UInt32} {e : Epoch} {r : TimerId × ω}
      (hr : Network.schedule delay e w = r) (h : Made r.2 calls w') :
      Made w (.schedule delay e r.1 :: calls) w'
  | cancel {w w' : ω} {calls : List Call} {t : TimerId} (h : Made (Network.cancel t w) calls w') :
      Made w (.cancel t :: calls) w'

theorem Made.append {w w₁ w₂ : ω} {a b : List Call} (h : Made w a w₁) (h' : Made w₁ b w₂) :
    Made w (a ++ b) w₂ := by
  induction h with
  | nil => exact h'
  | note n _ ih => exact .note n (ih h')
  | dial hr _ ih => exact .dial hr (ih h')
  | transmit hr _ ih => exact .transmit hr (ih h')
  | hangUp _ ih => exact .hangUp (ih h')
  | release _ ih => exact .release (ih h')
  | schedule hr _ ih => exact .schedule hr (ih h')
  | cancel _ ih => exact .cancel (ih h')

theorem Made.noted (n : Notice) (w : ω) : Made w [] (Journal.note n w) := .note n (.nil _)

theorem Made.onNetwork {w w' : ω} {calls : List Call} (h : Made w calls w') :
    ∀ call ∈ calls, call.onNetwork = true := by
  induction h with
  | nil => simp
  | note _ _ ih => exact ih
  | dial _ _ ih | transmit _ _ ih | schedule _ _ ih => simpa [Call.onNetwork] using ih
  | hangUp _ ih | release _ ih | cancel _ ih => simpa [Call.onNetwork] using ih

end Made

/-- A world that does what the world inside it does, keeps every call made on it, the last one
last, and has its log for itself. -/
structure Watched (ω : Type) where
  inner : ω
  calls : List Call := []
  journal : List Notice := []

namespace Watched

/-- Makes a call that the world answers. -/
def ask {α : Type} (call : α → Call) (f : ω → α × ω) (w : Watched ω) : α × Watched ω :=
  ((f w.inner).1,
    { w with inner := (f w.inner).2, calls := w.calls ++ [call (f w.inner).1] })

def tell (call : Call) (f : ω → ω) (w : Watched ω) : Watched ω :=
  { w with inner := f w.inner, calls := w.calls ++ [call] }

instance [Network ω] : Network (Watched ω) where
  note n w := { w with journal := w.journal ++ [n] }
  dial url e := ask (.dial url e) (Network.dial url e)
  transmit s f := ask (.transmit s f) (Network.transmit s f)
  hangUp s := tell (.hangUp s) (Network.hangUp s)
  release s := tell (.release s) (Network.release s)
  schedule delay e := ask (.schedule delay e) (Network.schedule delay e)
  cancel t := tell (.cancel t) (Network.cancel t)

instance [Screen ω] : Screen (Watched ω) where
  append text style := tell (.append text style) (Screen.append text style)
  clear := tell .clear Screen.clear
  scrollToEnd := tell .scrollToEnd Screen.scrollToEnd
  focus := tell .focus Screen.focus
  report s := tell (.report s) (Screen.report s)

/-- How often it was tried to open a socket. -/
def dials (w : Watched ω) : Nat := w.calls.countP Call.isDial

def networkCalls (w : Watched ω) : List Call := w.calls.filter Call.onNetwork

theorem calls_of_made [Network ω] {w w' : Watched ω} {calls : List Call} (h : Made w calls w') :
    w'.calls = w.calls ++ calls := by
  induction h with
  | nil => simp
  | note n _ ih => exact ih
  | dial hr _ ih | transmit hr _ ih | schedule hr _ ih =>
    subst hr
    rw [ih]
    exact List.append_assoc _ _ _
  | hangUp _ ih | release _ ih | cancel _ ih =>
    rw [ih]
    exact List.append_assoc _ _ _

theorem dials_eq (w : Watched ω) : w.dials = w.networkCalls.countP Call.isDial := by
  rw [dials, networkCalls, List.countP_filter]
  congr 1
  funext call
  cases call <;> rfl

theorem networkCalls_of_made [Network ω] {w w' : Watched ω} {calls : List Call}
    (h : Made w calls w') : w'.networkCalls = w.networkCalls ++ calls := by
  rw [networkCalls, calls_of_made h, List.filter_append, List.filter_eq_self.mpr h.onNetwork,
    networkCalls]

theorem networkCalls_tell {call : Call} (h : call.onNetwork = false) (f : ω → ω) (w : Watched ω) :
    (tell call f w).networkCalls = w.networkCalls := by
  simp [networkCalls, tell, h]

end Watched

end WebTerminal
