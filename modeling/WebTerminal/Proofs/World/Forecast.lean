import WebTerminal.Bench
import WebTerminal.Proofs.World.Calls

/-! # What a world will answer

As long as at most one socket is asked for and one timer is set, what a world answers to calls can
be told beforehand. The words in which it refuses a socket or a frame are not foretold: two worlds
may differ in them, and the calls are compared without them. -/

namespace WebTerminal

structure Forecast where
  refuses : Bool
  socket : SocketId
  breaks : Bool
  timer : TimerId

namespace Call

def isSchedule : Call → Bool
  | schedule _ _ _ => true
  | _ => false

/-- The call without the reason of a failure. -/
def terse : Call → Call
  | dial url e (.error _) => dial url e (.error (.construction ""))
  | transmit s f (.error _) => transmit s f (.error (.send ""))
  | call => call

def Foretold (φ : Forecast) : Call → Prop
  | dial _ _ (.ok s) => φ.refuses = false ∧ s = φ.socket
  | dial _ _ (.error _) => φ.refuses = true
  | transmit _ _ (.ok _) => φ.breaks = false
  | transmit _ _ (.error _) => φ.breaks = true
  | schedule _ _ t => t = φ.timer
  | _ => True

end Call

/-- What is told of a world comes true. A socket changes the forecast for the next one only, and so
does a timer. -/
structure Forecast.Reliable {ω : Type} [Network ω] (f : ω → Forecast) : Prop where
  note (n : Notice) (w : ω) : f (Journal.note n w) = f w
  dial (url : String) (e : Epoch) (w : ω) :
    (Call.dial url e (Network.dial url e w).1).Foretold (f w) ∧
      (f (Network.dial url e w).2).breaks = (f w).breaks ∧
      (f (Network.dial url e w).2).timer = (f w).timer
  transmit (s : SocketId) (frame : Frame) (w : ω) :
    (Call.transmit s frame (Network.transmit s frame w).1).Foretold (f w) ∧
      f (Network.transmit s frame w).2 = f w
  hangUp (s : SocketId) (w : ω) : f (Network.hangUp s w) = f w
  release (s : SocketId) (w : ω) : f (Network.release s w) = f w
  schedule (delay : UInt32) (e : Epoch) (w : ω) :
    (Network.schedule delay e w).1 = (f w).timer ∧
      (f (Network.schedule delay e w).2).refuses = (f w).refuses ∧
      (f (Network.schedule delay e w).2).socket = (f w).socket ∧
      (f (Network.schedule delay e w).2).breaks = (f w).breaks
  cancel (t : TimerId) (w : ω) : f (Network.cancel t w) = f w

/-- The forecast still holds for those of the calls that it is needed for. -/
structure Forecast.Covers (φ ψ : Forecast) (calls : List Call) : Prop where
  dials : calls.countP Call.isDial = 0 ∨
    calls.countP Call.isDial = 1 ∧ φ.refuses = ψ.refuses ∧ φ.socket = ψ.socket
  breaks : φ.breaks = ψ.breaks
  timers : calls.countP Call.isSchedule = 0 ∨
    calls.countP Call.isSchedule = 1 ∧ φ.timer = ψ.timer

namespace Forecast

variable {ω : Type} [Network ω] {f : ω → Forecast} {w w' : ω} {calls : List Call}

theorem Covers.tail {φ ψ : Forecast} {call : Call} (h : φ.Covers ψ (call :: calls))
    (hd : call.isDial = false) (hs : call.isSchedule = false) : φ.Covers ψ calls where
  dials := by simpa [hd] using h.dials
  breaks := h.breaks
  timers := by simpa [hs] using h.timers

theorem Reliable.foretold_of_covers (hf : Reliable f) (h : Made w calls w') {φ : Forecast}
    (hc : φ.Covers (f w) calls) : ∀ call ∈ calls, call.Foretold φ := by
  induction h with
  | nil => simp
  | note n _ ih =>
    rw [← hf.note n] at hc
    exact ih hc
  | @dial w _ calls url e r hr _ ih =>
    subst hr
    obtain ⟨ha, hb, ht⟩ := hf.dial url e w
    obtain ⟨hn, hrefuses, hsocket⟩ := hc.dials.resolve_left (by simp [Call.isDial])
    have hzero : calls.countP Call.isDial = 0 := by
      rw [List.countP_cons_of_pos rfl] at hn
      omega
    refine List.forall_mem_cons.mpr ⟨?_, ih ⟨.inl hzero, hc.breaks.trans hb.symm, ?_⟩⟩
    · generalize (Network.dial url e w).1 = answer at ha
      cases answer with
      | ok s => exact ⟨hrefuses.trans ha.1, ha.2.trans hsocket.symm⟩
      | error _ => exact hrefuses.trans ha
    · rw [ht]
      exact hc.timers
  | @transmit w _ calls s frame r hr _ ih =>
    subst hr
    obtain ⟨ha, hkeep⟩ := hf.transmit s frame w
    refine List.forall_mem_cons.mpr ⟨?_, ih ?_⟩
    · generalize (Network.transmit s frame w).1 = answer at ha
      cases answer with
      | ok _ | error _ => exact hc.breaks.trans ha
    · rw [hkeep]
      exact hc.tail rfl rfl
  | @hangUp w _ _ s _ ih =>
    rw [← hf.hangUp s w] at hc
    exact List.forall_mem_cons.mpr ⟨trivial, ih (hc.tail rfl rfl)⟩
  | @release w _ _ s _ ih =>
    rw [← hf.release s w] at hc
    exact List.forall_mem_cons.mpr ⟨trivial, ih (hc.tail rfl rfl)⟩
  | @schedule w _ calls delay e r hr _ ih =>
    subst hr
    obtain ⟨ha, hrefuses, hsocket, hb⟩ := hf.schedule delay e w
    obtain ⟨hn, htimer⟩ := hc.timers.resolve_left (by simp [Call.isSchedule])
    have hzero : calls.countP Call.isSchedule = 0 := by
      rw [List.countP_cons_of_pos rfl] at hn
      omega
    refine List.forall_mem_cons.mpr
      ⟨ha.trans htimer.symm, ih ⟨?_, hc.breaks.trans hb.symm, .inl hzero⟩⟩
    rw [hrefuses, hsocket]
    exact hc.dials
  | @cancel w _ _ t _ ih =>
    rw [← hf.cancel t w] at hc
    exact List.forall_mem_cons.mpr ⟨trivial, ih (hc.tail rfl rfl)⟩

theorem Reliable.foretold (hf : Reliable f) (h : Made w calls w')
    (hd : calls.countP Call.isDial ≤ 1) (hs : calls.countP Call.isSchedule ≤ 1) :
    ∀ call ∈ calls, call.Foretold (f w) :=
  hf.foretold_of_covers h
    { dials := (Nat.le_one_iff_eq_zero_or_eq_one.mp hd).imp_right fun h => ⟨h, rfl, rfl⟩
      breaks := rfl
      timers := (Nat.le_one_iff_eq_zero_or_eq_one.mp hs).imp_right fun h => ⟨h, rfl⟩ }

end Forecast

/-! ## The bench -/

namespace Bench

def forecast (b : Bench) : Forecast where
  refuses := 0 < b.refusals
  socket := ⟨b.opened.length⟩
  breaks := b.brokenPipe
  timer := ⟨b.scheduled.length⟩

theorem reliable_forecast : Forecast.Reliable forecast where
  note _ _ := rfl
  dial url e b := by
    show (Call.dial url e (b.dial url e).1).Foretold b.forecast ∧
      (b.dial url e).2.forecast.breaks = b.brokenPipe ∧
      (b.dial url e).2.forecast.timer = ⟨b.scheduled.length⟩
    unfold dial
    by_cases hr : 0 < b.refusals
    · simp [hr, Call.Foretold, forecast]
    · simp [hr, Call.Foretold, forecast]
  transmit s frame b := by
    show (Call.transmit s frame (b.transmit frame).1).Foretold b.forecast ∧
      (b.transmit frame).2.forecast = b.forecast
    unfold transmit
    cases hb : b.brokenPipe with
    | true => simp [hb, Call.Foretold, forecast]
    | false => simp [hb, Call.Foretold, forecast]
  hangUp _ _ := rfl
  release _ _ := rfl
  schedule _ _ _ := ⟨rfl, rfl, rfl, rfl⟩
  cancel _ _ := rfl

/-- The bench without what was sent, shown and noted. -/
def bare (b : Bench) : Bench := { b with sent := [], shown := [], journal := [] }

/-- What a call does to sockets and timers. -/
def after (b : Bench) : Call → Bench
  | .dial url e (.ok _) => { b with opened := b.opened ++ [(e, url)] }
  | .dial _ _ (.error _) => { b with refusals := b.refusals - 1 }
  | .hangUp s => { b with closed := b.closed ++ (b.opened[s.index]?.map Prod.fst).toList }
  | .schedule delay e t =>
    { b with scheduled := b.scheduled ++ [⟨t, delay, e⟩], live := b.live ++ [⟨t, delay, e⟩] }
  | .cancel t => { b with live := b.live.filter (·.id ≠ t), cancelled := b.cancelled ++ [t] }
  | _ => b

/-- To let go of something leaves the forecast as it was. -/
theorem forecast_letsGo {calls : List Call} (h : ∀ call ∈ calls, call.letsGo = true) (b : Bench) :
    (calls.foldl after b).forecast = b.forecast := by
  induction calls generalizing b with
  | nil => rfl
  | cons call calls ih =>
    obtain ⟨hcall, hcalls⟩ := List.forall_mem_cons.mp h
    rw [List.foldl_cons, ih hcalls]
    cases call with
    | hangUp | release | cancel => rfl
    | _ => cases hcall

theorem bare_of_made {b b' : Bench} {calls : List Call} (h : Made b calls b') :
    b'.bare = calls.foldl after b.bare ∧ b'.shown = b.shown := by
  induction h with
  | nil => exact ⟨rfl, rfl⟩
  | note _ _ ih | hangUp _ ih | release _ ih | cancel _ ih => exact ih
  | @dial b _ calls url e r hr _ ih =>
    subst hr
    have hd : (b.dial url e).2.bare = b.bare.after (.dial url e (b.dial url e).1) ∧
        (b.dial url e).2.shown = b.shown := by
      unfold dial
      split <;> exact ⟨rfl, rfl⟩
    rw [List.foldl_cons]
    exact ⟨ih.1.trans (congrArg (calls.foldl after) hd.1), ih.2.trans hd.2⟩
  | @transmit b _ calls s f r hr _ ih =>
    subst hr
    have ht : (b.transmit f).2.bare = b.bare ∧ (b.transmit f).2.shown = b.shown := by
      unfold transmit
      split <;> exact ⟨rfl, rfl⟩
    rw [List.foldl_cons]
    exact ⟨ih.1.trans (congrArg (calls.foldl after) ht.1), ih.2.trans ht.2⟩
  | schedule hr _ ih =>
    subst hr
    exact ih

theorem after_terse (b : Bench) (call : Call) : b.after call.terse = b.after call := by
  cases call with
  | dial _ _ answer | transmit _ _ answer => cases answer <;> rfl
  | _ => rfl

theorem foldl_after_terse (calls : List Call) (b : Bench) :
    (calls.map Call.terse).foldl after b = calls.foldl after b := by
  simp only [List.foldl_map, after_terse]

end Bench

end WebTerminal
