import WebTerminal.Proofs.Connection.Progress
import WebTerminal.Proofs.World.Forecast

/-! # Determinism

Of a connection and a forecast of its world there is one move for each operation: the answer, the
calls and the connection after them are settled, but for the words of what failed. -/

namespace WebTerminal.Connection

def Event.terse : Event → Event
  | .refused _ => .refused (.construction "")
  | e => e

def Delivery.terse : Delivery → Delivery
  | .failed _ => .failed (.send "")
  | d => d

/-- The answer without the reason of a failure. -/
def Answer.terse : Answer → Answer
  | .events es => .events (es.map Event.terse)
  | .delivery d => .delivery d.terse
  | .none => .none

theorem Answer.events_terse (a : Answer) : a.terse.events? = a.events?.map Event.terse := by
  cases a <;> rfl

variable {c c₁ c₂ : Connection} {es es' : List Event} {calls calls' : List Call} {a a' : Answer}

/-! ## At most one timer -/

theorem schedules_of_letsGo (h : ∀ call ∈ calls, call.letsGo = true) :
    calls.countP Call.isSchedule = 0 :=
  List.countP_eq_zero.mpr
    (Call.forall_letsGo (fun _ => nofun) (fun _ => nofun) (fun _ => nofun) h)

theorem Loss.schedules_le (h : Loss c es calls c₁) : calls.countP Call.isSchedule ≤ 1 := by
  cases h with
  | retry timer _ =>
    rw [List.countP_append, schedules_of_letsGo c.letsGo_cancelling]
    exact Nat.le_refl 1
  | giveUp | again => exact Nat.zero_le 1

theorem Attempt.schedules_le (h : Attempt c es calls c₁) : calls.countP Call.isSchedule ≤ 1 := by
  cases h with
  | dialled s =>
    rw [List.countP_append, schedules_of_letsGo c.letsGo_clearing]
    exact Nat.zero_le 1
  | refused error hl =>
    rw [List.countP_append, schedules_of_letsGo c.letsGo_clearing, Nat.zero_add]
    exact hl.schedules_le

theorem Move.schedules_le {o : Operation} (h : Move c o a calls c₁) :
    calls.countP Call.isSchedule ≤ 1 := by
  cases h with
  | connectAnew _ _ ha | connect _ _ ha | reconnect _ ha | retry _ _ ha => exact ha.schedules_le
  | replace _ ha =>
    rw [List.countP_append, schedules_of_letsGo c.letsGo_clearing, Nat.zero_add]
    exact ha.schedules_le
  | closeIgnored | close | shutdown =>
    rw [schedules_of_letsGo c.letsGo_clearing]
    exact Nat.zero_le 1
  | lost _ hl =>
    rw [List.countP_append, schedules_of_letsGo c.letsGo_releasing, Nat.zero_add]
    exact hl.schedules_le
  | _ => exact Nat.zero_le 1

theorem Move.dials_le {o : Operation} (h : Move c o a calls c₁) :
    calls.countP Call.isDial ≤ 1 := by
  rcases h.progress with ⟨_, hd⟩ | ⟨_, hd⟩
  · rw [hd]
    exact Nat.zero_le 1
  · exact Nat.le_of_eq hd

/-- The calls of a move go as the forecast of the world before it says. -/
theorem Move.foretold {ω : Type} [Network ω] {f : ω → Forecast} (hf : Forecast.Reliable f)
    {o : Operation} (h : Move c o a calls c₁) {w w' : ω} (hm : Made w calls w') :
    ∀ call ∈ calls, call.Foretold (f w) := hf.foretold hm h.dials_le h.schedules_le

/-! ## One move -/

/-- Two moves that are the same but for the words of what failed. -/
structure Same (a : Answer) (calls : List Call) (c : Connection) (a' : Answer)
    (calls' : List Call) (c' : Connection) : Prop where
  answer : a.terse = a'.terse
  calls : calls.map Call.terse = calls'.map Call.terse
  after : c = c'

theorem Same.refl : Same a calls c a calls c := ⟨rfl, rfl, rfl⟩

variable {φ : Forecast} (hφ : ∀ call ∈ calls, call.Foretold φ)
  (hφ' : ∀ call ∈ calls', call.Foretold φ)
include hφ hφ'

theorem Loss.unique (h : Loss c es calls c₁) (h' : Loss c es' calls' c₂) :
    es = es' ∧ calls = calls' ∧ c₁ = c₂ := by
  cases h with
  | retry timer hx =>
    cases h' with
    | retry timer' _ =>
      have ht : timer = φ.timer := hφ _ (List.mem_append_right _ List.mem_cons_self)
      have ht' : timer' = φ.timer := hφ' _ (List.mem_append_right _ List.mem_cons_self)
      rw [ht, ht']
      exact ⟨rfl, rfl, rfl⟩
    | giveUp hx' | again hx' =>
      rw [hx] at hx'
      cases hx'
  | giveUp hx hr =>
    cases h' with
    | retry _ hx' =>
      rw [hx] at hx'
      cases hx'
    | giveUp => exact ⟨rfl, rfl, rfl⟩
    | again _ hr' =>
      rw [hr] at hr'
      cases hr'
  | again hx hr =>
    cases h' with
    | retry _ hx' =>
      rw [hx] at hx'
      cases hx'
    | giveUp _ hr' =>
      rw [hr] at hr'
      cases hr'
    | again => exact ⟨rfl, rfl, rfl⟩

theorem Attempt.unique (h : Attempt c es calls c₁) (h' : Attempt c es' calls' c₂) :
    Same (.events es) calls c₁ (.events es') calls' c₂ := by
  cases h with
  | dialled s =>
    obtain ⟨hn, hs⟩ := hφ _ (List.mem_append_right _ List.mem_cons_self)
    cases h' with
    | dialled s' =>
      obtain ⟨-, hs'⟩ := hφ' _ (List.mem_append_right _ List.mem_cons_self)
      rw [hs, hs']
      exact .refl
    | refused error' _ =>
      have hr : φ.refuses = true := hφ' _ (List.mem_append_right _ List.mem_cons_self)
      rw [hn] at hr
      cases hr
  | refused error hl =>
    have hr : φ.refuses = true := hφ _ (List.mem_append_right _ List.mem_cons_self)
    cases h' with
    | dialled s' =>
      obtain ⟨hn, -⟩ := hφ' _ (List.mem_append_right _ List.mem_cons_self)
      rw [hn] at hr
      cases hr
    | refused error' hl' =>
      obtain ⟨rfl, rfl, rfl⟩ := hl.unique
        (fun call hc => hφ call (List.mem_append_right _ (List.mem_cons_of_mem _ hc)))
        (fun call hc => hφ' call (List.mem_append_right _ (List.mem_cons_of_mem _ hc))) hl'
      refine ⟨rfl, ?_, rfl⟩
      rw [List.map_append, List.map_append]
      rfl

variable {o : Operation}

theorem Move.connect_unique (h : Move c .connect a calls c₁)
    (h' : Move c .connect a' calls' c₂) : Same a calls c₁ a' calls' c₂ := by
  cases h with
  | connectIgnored hl =>
    cases h' with
    | connectIgnored => exact .refl
    | connectAnew hl' | connect hl' =>
      rw [hl] at hl'
      cases hl'
  | connectAnew hl hn ha =>
    cases h' with
    | connectIgnored hl' =>
      rw [hl] at hl'
      cases hl'
    | connectAnew _ _ ha' => exact ha.unique hφ hφ' ha'
    | connect _ hn' =>
      rw [hn] at hn'
      cases hn'
  | connect hl hn ha =>
    cases h' with
    | connectIgnored hl' =>
      rw [hl] at hl'
      cases hl'
    | connectAnew _ hn' =>
      rw [hn] at hn'
      cases hn'
    | connect _ _ ha' => exact ha.unique hφ hφ' ha'

theorem Move.reconnect_unique (h : Move c .reconnect a calls c₁)
    (h' : Move c .reconnect a' calls' c₂) : Same a calls c₁ a' calls' c₂ := by
  cases h with
  | replace hl ha =>
    cases h' with
    | replace _ ha' =>
      obtain ⟨hes, hcalls, rfl⟩ := ha.unique
        (fun call hc => hφ call (List.mem_append_right _ hc))
        (fun call hc => hφ' call (List.mem_append_right _ hc)) ha'
      refine ⟨?_, ?_, rfl⟩
      · simp only [Answer.terse, List.map_cons, Answer.events.inj hes]
      · rw [List.map_append, List.map_append, hcalls]
    | reconnect hl' =>
      rw [hl] at hl'
      cases hl'
  | reconnect hl ha =>
    cases h' with
    | replace hl' =>
      rw [hl] at hl'
      cases hl'
    | reconnect _ ha' => exact ha.unique hφ hφ' ha'

omit hφ hφ' in
theorem Move.close_unique (h : Move c .close a calls c₁) (h' : Move c .close a' calls' c₂) :
    Same a calls c₁ a' calls' c₂ := by
  cases h with
  | closeIgnored hi =>
    cases h' with
    | closeIgnored => exact .refl
    | close hi' => rcases hi with hi | hi <;> simp [hi, State.isLive] at hi'
  | close hi =>
    cases h' with
    | closeIgnored hi' => rcases hi' with hi' | hi' <;> simp [hi', State.isLive] at hi
    | close => exact .refl

theorem Move.send_unique {f : Frame} (h : Move c (.send f) a calls c₁)
    (h' : Move c (.send f) a' calls' c₂) : Same a calls c₁ a' calls' c₂ := by
  cases h with
  | dropped _ hd =>
    cases h' with
    | dropped => exact .refl
    | sent _ ho hs | unsent _ _ ho hs =>
      rw [hd ho] at hs
      cases hs
  | sent _ ho hs =>
    have hb : φ.breaks = false := hφ _ List.mem_cons_self
    cases h' with
    | dropped _ hd =>
      rw [hd ho] at hs
      cases hs
    | sent _ _ hs' =>
      rw [hs, Option.some.injEq] at hs'
      rw [hs']
      exact .refl
    | unsent =>
      have hb' : φ.breaks = true := hφ' _ List.mem_cons_self
      rw [hb] at hb'
      cases hb'
  | unsent _ error ho hs =>
    have hb : φ.breaks = true := hφ _ List.mem_cons_self
    cases h' with
    | dropped _ hd =>
      rw [hd ho] at hs
      cases hs
    | sent =>
      have hb' : φ.breaks = false := hφ' _ List.mem_cons_self
      rw [hb] at hb'
      cases hb'
    | unsent _ _ _ hs' =>
      rw [hs, Option.some.injEq] at hs'
      rw [hs']
      exact ⟨rfl, rfl, rfl⟩

/-- A signal of the present epoch that is acted upon. -/
theorem Move.heeded_unique {signal : Signal} (h : Move c (.signal c.epoch signal) a calls c₁)
    (h' : Move c (.signal c.epoch signal) a' calls' c₂) (hh : c.heeds signal = true) :
    Same a calls c₁ a' calls' c₂ := by
  have heeds (hi : c.epoch = c.epoch → c.heeds signal = false) : False := by
    rw [hi rfl] at hh
    cases hh
  cases h with
  | signalIgnored _ _ hi => exact (heeds hi).elim
  | opened =>
    cases h' with
    | signalIgnored _ _ hi => exact (heeds hi).elim
    | opened => exact .refl
  | received chunk =>
    cases h' with
    | signalIgnored _ _ hi => exact (heeds hi).elim
    | received => exact .refl
  | failed info =>
    cases h' with
    | signalIgnored _ _ hi => exact (heeds hi).elim
    | failed => exact .refl
  | lost _ hl =>
    cases h' with
    | signalIgnored _ _ hi => exact (heeds hi).elim
    | lost _ hl' =>
      obtain ⟨rfl, rfl, rfl⟩ := hl.unique
        (fun call hc => hφ call (List.mem_append_right _ hc))
        (fun call hc => hφ' call (List.mem_append_right _ hc)) hl'
      exact .refl

theorem Move.signal_unique {e : Epoch} {signal : Signal}
    (h : Move c (.signal e signal) a calls c₁) (h' : Move c (.signal e signal) a' calls' c₂) :
    Same a calls c₁ a' calls' c₂ := by
  by_cases hh : e = c.epoch ∧ c.heeds signal = true
  · obtain ⟨rfl, hh⟩ := hh
    exact h.heeded_unique hφ hφ' h' hh
  · have hi (he : e = c.epoch) : c.heeds signal = false :=
      Bool.eq_false_iff.mpr fun hs => hh ⟨he, hs⟩
    obtain ⟨rfl, rfl, rfl⟩ := h.of_unheeded hi
    obtain ⟨rfl, rfl, rfl⟩ := h'.of_unheeded hi
    exact .refl

theorem Move.retryDue_unique {e : Epoch} (h : Move c (.retryDue e) a calls c₁)
    (h' : Move c (.retryDue e) a' calls' c₂) : Same a calls c₁ a' calls' c₂ := by
  cases h with
  | timerIgnored _ hi =>
    cases h' with
    | timerIgnored => exact .refl
    | retry _ ha =>
      rw [hi] at ha
      cases ha
  | retry _ ha hat =>
    cases h' with
    | timerIgnored _ hi =>
      rw [hi] at ha
      cases ha
    | retry _ _ hat' => exact hat.unique hφ hφ' hat'

theorem Move.unique (h : Move c o a calls c₁) (h' : Move c o a' calls' c₂) :
    Same a calls c₁ a' calls' c₂ := by
  cases o with
  | connect => exact h.connect_unique hφ hφ' h'
  | reconnect => exact h.reconnect_unique hφ hφ' h'
  | close => exact h.close_unique h'
  | shutdown =>
    cases h with
    | shutdown =>
      cases h' with
      | shutdown => exact .refl
  | send f => exact h.send_unique hφ hφ' h'
  | signal e signal => exact h.signal_unique hφ hφ' h'
  | retryDue e => exact h.retryDue_unique hφ hφ' h'

end WebTerminal.Connection
