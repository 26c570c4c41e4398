import WebTerminal.Browser.Step
import WebTerminal.Proofs.Session.Abreast

/-! # Pages as worlds

What a page answers can be foretold, what is shown on it leaves its sockets and timers alone, and of
its sockets just the one that the connection holds is listened to. -/

namespace WebTerminal

namespace Browser.Page

/-- The sockets and the timers are the same, and so is what is thrown. -/
structure Keeps (p p' : Page) : Prop where
  sockets : p'.sockets = p.sockets
  timers : p'.timers = p.timers
  nextTimer : p'.nextTimer = p.nextTimer
  throws : p'.throws = p.throws

theorem Keeps.trans {p p' p'' : Page} (h : Keeps p p') (h' : Keeps p' p'') : Keeps p p'' where
  sockets := h'.sockets.trans h.sockets
  timers := h'.timers.trans h.timers
  nextTimer := h'.nextTimer.trans h.nextTimer
  throws := h'.throws.trans h.throws

theorem keeps_whim (p : Page) : Keeps p p.whim.2 := by
  unfold whim
  split <;> exact ⟨rfl, rfl, rfl, rfl⟩

theorem keeps_append (text : String) (style : Session.Style) (p : Page) :
    Keeps p (p.append text style) := by
  refine (keeps_whim p).trans ?_
  unfold append
  dsimp only
  split <;> exact ⟨rfl, rfl, rfl, rfl⟩

theorem keeps_indicate (connected : Bool) (p : Page) : Keeps p (p.indicate connected) := by
  refine (keeps_whim p).trans ?_
  unfold indicate
  dsimp only
  split <;> exact ⟨rfl, rfl, rfl, rfl⟩

theorem keeps_report (s : Session.Status) (p : Page) : Keeps p (p.report s) :=
  (keeps_indicate s.isConnected p).trans ⟨rfl, rfl, rfl, rfl⟩

theorem keeps_focus {p p' : Page} (h : p.focus = .ok p') : Keeps p p' := by
  unfold focus at h
  split at h
  · cases h
  · cases h
    exact ⟨rfl, rfl, rfl, rfl⟩

theorem keeps_showing {f : Page → Page} (hf : Session.Console.Showing f) (p : Page) :
    Keeps p (f p) := by
  cases hf with
  | append text style => exact keeps_append text style p
  | note | clear | scrollToEnd => exact ⟨rfl, rfl, rfl, rfl⟩
  | focus =>
    simp only [Screen.focus]
    split
    · rename_i hf
      exact keeps_focus hf
    · exact ⟨rfl, rfl, rfl, rfl⟩

/-! ## What a page answers -/

def forecast (p : Page) : Forecast where
  refuses := (p.throws .socket).isSome
  socket := ⟨p.sockets.length⟩
  breaks := (p.throws .send).isSome
  timer := ⟨p.nextTimer⟩

theorem Keeps.forecast {p p' : Page} (h : Keeps p p') : p'.forecast = p.forecast := by
  unfold Page.forecast
  rw [h.sockets, h.nextTimer, h.throws]

theorem keeps_echo (s : SocketId) (p : Page) : Keeps p (p.echo s) := by
  unfold echo
  split <;> exact ⟨rfl, rfl, rfl, rfl⟩

theorem keeps_transmit (s : SocketId) (f : Frame) (p : Page) : Keeps p (p.transmit s f).2 := by
  unfold transmit
  split
  · exact ⟨rfl, rfl, rfl, rfl⟩
  · have hr (c : Call) : Keeps p (p.record c) := ⟨rfl, rfl, rfl, rfl⟩
    exact (hr _).trans (keeps_echo s _)

theorem hangUp_keeps (s : SocketId) (p : Page) : Keeps (p.detach s) (p.hangUp s) := by
  unfold hangUp
  dsimp only
  split <;> exact ⟨rfl, rfl, rfl, rfl⟩

theorem cancel_eq (t : TimerId) (p : Page) :
    (p.cancel t).sockets = p.sockets ∧ (p.cancel t).timers = p.timers.filter (·.id ≠ t) ∧
      (p.cancel t).nextTimer = p.nextTimer ∧ (p.cancel t).throws = p.throws := by
  unfold cancel
  split
  · exact ⟨rfl, rfl, rfl, rfl⟩
  case isFalse h =>
    refine ⟨rfl, (List.filter_eq_self.mpr fun k hk => ?_).symm, rfl, rfl⟩
    simp only [List.any_eq_true, not_exists, not_and] at h
    simpa using h k hk

theorem forecast_detach (s : SocketId) (p : Page) : (p.detach s).forecast = p.forecast := by
  simp [forecast, detach]

theorem reliable_forecast : Forecast.Reliable forecast where
  note _ _ := rfl
  dial url e p := by
    show (WebTerminal.Call.dial url e (p.dial url e).1).Foretold p.forecast ∧
      (p.dial url e).2.forecast.breaks = (p.throws .send).isSome ∧
      (p.dial url e).2.forecast.timer = ⟨p.nextTimer⟩
    unfold dial
    cases ht : p.throws .socket with
    | none => exact ⟨⟨by simp [forecast, ht], rfl⟩, rfl, rfl⟩
    | some v => exact ⟨by simp [WebTerminal.Call.Foretold, forecast, ht], rfl, rfl⟩
  transmit s f p := by
    refine ⟨?_, (keeps_transmit s f p).forecast⟩
    show (WebTerminal.Call.transmit s f (p.transmit s f).1).Foretold p.forecast
    unfold transmit
    cases ht : p.throws .send with
    | none => simp [WebTerminal.Call.Foretold, forecast, ht]
    | some v => simp [WebTerminal.Call.Foretold, forecast, ht]
  hangUp s p := (hangUp_keeps s p).forecast.trans (forecast_detach s p)
  release s p := forecast_detach s p
  schedule _ _ _ := ⟨rfl, rfl, rfl, rfl⟩
  cancel t p := by
    obtain ⟨hs, -, hn, ht⟩ := cancel_eq t p
    show (p.cancel t).forecast = p.forecast
    simp only [forecast, hs, hn, ht]

/-! ## Sockets and handlers -/

/-- That a socket has lost its handlers shows in nothing else of it. -/
theorem map_silence {α : Type} {f : Socket → α} (hf : ∀ k : Socket, f k.detach = f k)
    (s : SocketId) (ks : List Socket) : (ks.modify s.index Socket.detach).map f = ks.map f := by
  refine List.ext_getElem? fun i => ?_
  rw [List.getElem?_map, List.getElem?_map, List.getElem?_modify]
  cases ks[i]? with
  | none => rfl
  | some k =>
    by_cases hi : s.index = i
    · simp [hi, hf]
    · simp [hi]

/-- What a call does to the sockets of a page. -/
def socketsAfter (ks : List Socket) : WebTerminal.Call → List Socket
  | .dial url e (.ok _) => ks ++ [{ url, epoch := e }]
  | .hangUp s | .release s => ks.modify s.index Socket.detach
  | _ => ks

theorem sockets_of_made {p p' : Page} {calls : List WebTerminal.Call} (h : Made p calls p') :
    p'.sockets = calls.foldl socketsAfter p.sockets := by
  induction h with
  | nil => rfl
  | note _ _ ih | release _ ih => exact ih
  | @dial p _ calls url e r hr _ ih =>
    subst hr
    rw [ih, List.foldl_cons]
    refine congrArg (calls.foldl socketsAfter) ?_
    show (p.dial url e).2.sockets = socketsAfter p.sockets (.dial url e (p.dial url e).1)
    unfold dial
    split <;> rfl
  | @transmit p _ calls s f r hr _ ih =>
    subst hr
    rw [ih, List.foldl_cons]
    exact congrArg (calls.foldl socketsAfter) (keeps_transmit s f p).sockets
  | @hangUp p _ calls s _ ih =>
    rw [ih, List.foldl_cons]
    exact congrArg (calls.foldl socketsAfter) (hangUp_keeps s p).sockets
  | schedule hr _ ih =>
    subst hr
    exact ih
  | @cancel p _ calls t _ ih =>
    rw [ih, List.foldl_cons]
    exact congrArg (calls.foldl socketsAfter) (cancel_eq t p).1

theorem unshown_sockets : Session.Console.Unshown Page.sockets where
  showing hf p := (keeps_showing hf p).sockets
  report s p := (keeps_report s p).sockets

end Browser.Page

namespace Connection

open Browser (Handler Socket)
open Browser.Page (socketsAfter)

/-- The socket that is held was made in the present epoch. It has all handlers, and no other socket
has any. -/
structure Attached (c : Connection) (ks : List Socket) : Prop where
  held : ∀ s, c.socket? = some s → ∃ k, ks[s.index]? = some k ∧ k.epoch = c.epoch
  handlers : ∀ i k, ks[i]? = some k →
    k.handlers = if c.socket? = some ⟨i⟩ then Handler.all else []

variable {c c' : Connection} {ks : List Socket} {es : List Event} {calls : List Call}
  {o : Operation} {a : Answer}

theorem sockets_cancelling (c : Connection) (ks : List Socket) :
    c.cancelling.foldl socketsAfter ks = ks := by
  unfold cancelling
  cases c.retry? <;> rfl

namespace Attached

theorem congr (h : Attached c ks) (hs : c'.socket? = c.socket?) (he : c'.epoch = c.epoch) :
    Attached c' ks where
  held := by
    rw [hs, he]
    exact h.held
  handlers := by
    rw [hs]
    exact h.handlers

theorem of_unheld (h : Attached c ks) (hs : c.socket? = none) (hs' : c'.socket? = none) :
    Attached c' ks where
  held s hs₁ := by
    rw [hs'] at hs₁
    cases hs₁
  handlers := by
    rw [hs', ← hs]
    exact h.handlers

theorem detach (h : Attached c ks) {s : SocketId} (hs : c.socket? = some s) :
    Attached { c with socket? := none } (ks.modify s.index Socket.detach) where
  held _ hs' := by cases hs'
  handlers i k hk := by
    rw [List.getElem?_modify] at hk
    obtain ⟨k', hk', rfl⟩ := Option.map_eq_some_iff.mp hk
    by_cases hi : s.index = i
    · simp [hi, Socket.detach]
    · have hother := h.handlers i k' hk'
      have hne : c.socket? ≠ some ⟨i⟩ := by
        rw [hs]
        rintro ⟨⟩
        exact hi rfl
      rw [if_neg hne] at hother
      simp [hi, hother]

theorem clear (h : Attached c ks) : Attached c.cleared (c.clearing.foldl socketsAfter ks) := by
  rw [clearing, List.foldl_append, sockets_cancelling]
  unfold hangingUp
  cases hs : c.socket? with
  | none => exact h.of_unheld hs rfl
  | some s => exact (h.detach hs).congr rfl rfl

theorem release (h : Attached c ks) :
    Attached { c with socket? := none } (c.releasing.foldl socketsAfter ks) := by
  unfold releasing
  cases hs : c.socket? with
  | none => exact h.of_unheld hs rfl
  | some s => exact h.detach hs

/-- A socket that is made takes the next number. -/
theorem hold (h : Attached c ks) (hs : c.socket? = none) (url : String) :
    Attached { c with socket? := some ⟨ks.length⟩ } (ks ++ [{ url, epoch := c.epoch }]) where
  held s hs' := by
    obtain rfl := Option.some.inj hs'
    exact ⟨{ url, epoch := c.epoch }, List.getElem?_concat_length, rfl⟩
  handlers i k hk := by
    rcases Nat.lt_trichotomy i ks.length with hi | rfl | hi
    · rw [List.getElem?_append_left hi] at hk
      have hother := h.handlers i k hk
      have hne : (⟨ks.length⟩ : SocketId) ≠ ⟨i⟩ := fun he =>
        Nat.ne_of_gt hi (SocketId.mk.inj he)
      rw [hs] at hother
      simpa [hne] using hother
    · rw [List.getElem?_concat_length] at hk
      cases hk
      simp
    · rw [List.getElem?_eq_none (by simpa using Nat.succ_le_of_lt hi)] at hk
      cases hk

end Attached

theorem length_letsGo (h : ∀ call ∈ calls, call.letsGo = true) (ks : List Socket) :
    (calls.foldl socketsAfter ks).length = ks.length := by
  induction calls generalizing ks with
  | nil => rfl
  | cons call calls ih =>
    obtain ⟨hcall, hcalls⟩ := List.forall_mem_cons.mp h
    rw [List.foldl_cons, ih hcalls]
    cases call with
    | hangUp s | release s => exact List.length_modify _ _ _
    | cancel t => rfl
    | _ => cases hcall

theorem Loss.attached (h : Loss c es calls c') (ha : Attached c ks) (hs : c.socket? = none) :
    Attached c' (calls.foldl socketsAfter ks) := by
  cases h with
  | retry timer _ =>
    rw [List.foldl_append, sockets_cancelling]
    exact ha.of_unheld hs hs
  | giveUp | again => exact ha.of_unheld hs hs

theorem Attempt.attached (h : Attempt c es calls c') (ha : Attached c ks) {φ : Forecast}
    (hφ : ∀ call ∈ calls, call.Foretold φ) (hs : φ.socket = ⟨ks.length⟩) :
    Attached c' (calls.foldl socketsAfter ks) := by
  have hclear := ha.clear
  have hlength := length_letsGo c.letsGo_clearing ks
  rw [← hlength] at hs
  cases h with
  | dialled s =>
    obtain ⟨-, hsocket⟩ := hφ _ (List.mem_append_right _ List.mem_cons_self)
    rw [List.foldl_append, hsocket, hs]
    have hbegun : Attached c.cleared.beginAttempt _ := hclear.of_unheld rfl rfl
    exact hbegun.hold rfl c.url
  | refused error hl =>
    rw [List.foldl_append]
    exact hl.attached (hclear.of_unheld rfl rfl) rfl

/-- After every move the connection's socket is the one with handlers. -/
theorem Move.attached (h : Move c o a calls c') (ha : Attached c ks) {φ : Forecast}
    (hφ : ∀ call ∈ calls, call.Foretold φ) (hs : φ.socket = ⟨ks.length⟩) :
    Attached c' (calls.foldl socketsAfter ks) := by
  cases h with
  | connectAnew _ _ hat | reconnect _ hat | retry _ _ hat =>
    exact hat.attached (ha.congr rfl rfl) hφ hs
  | connect _ _ hat => exact hat.attached ha hφ hs
  | replace _ hat =>
    rw [List.foldl_append]
    refine hat.attached (ha.clear.congr rfl rfl)
      (fun call hc => hφ call (List.mem_append_right _ hc)) ?_
    rw [length_letsGo c.letsGo_clearing, hs]
  | closeIgnored => exact ha.clear
  | close | shutdown => exact ha.clear.congr rfl rfl
  | lost _ hl =>
    rw [List.foldl_append]
    exact hl.attached ha.release rfl
  | _ => exact ha.congr rfl rfl

end Connection

end WebTerminal
