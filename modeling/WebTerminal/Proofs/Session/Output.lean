import WebTerminal.Bench
import WebTerminal.Proofs.Session.Move
import WebTerminal.Proofs.Text.Decoding

/-! # Output, connection by connection

What a session shows as output while it has a connection is the text of the bytes that arrived on
that connection, and of no others: each piece shows what it completes at once, and what is not
complete at the end is never shown. -/

namespace WebTerminal

open Connection

def Connection.Event.isConnecting : Event → Bool
  | .connecting _ _ => true
  | _ => false

/-- The text that was put on the screen as output. -/
def Call.output? : Call → Option String
  | append text .output => some text
  | _ => none

namespace Connection

variable {c c' : Connection} {es : List Event} {calls : List Call}

theorem Attempt.connects (h : Attempt c es calls c') : es.any Event.isConnecting = true := by
  cases h <;> rfl

/-- An operation that does not leave the epoch does not go back in it. -/
theorem Move.connects_or_stays {o : Operation} {a : Answer} (h : Move c o a calls c') :
    a.events?.any Event.isConnecting = true ∨ Stays c c' := by
  rcases h.progress with ⟨hs, _⟩ | ⟨_, hd⟩
  · exact .inr hs
  · refine .inl ?_
    cases h with
    | connectAnew _ _ ha | connect _ _ ha | reconnect _ ha | retry _ _ ha => exact ha.connects
    | replace _ ha =>
      simp only [Answer.events?, List.any_cons, ha.connects, Bool.or_true]
    | closeIgnored | close | shutdown => simp [dials_clearing] at hd
    | lost _ hl => simp [dials_releasing, hl.dials_eq] at hd
    | _ => cases hd

theorem Loss.received_notMem (h : Loss c es calls c') (chunk : Bytes) : .received chunk ∉ es := by
  cases h <;> simp

theorem Attempt.received_notMem (h : Attempt c es calls c') (chunk : Bytes) :
    .received chunk ∉ es := by
  cases h with
  | dialled s => simp
  | refused error hl => simp [hl.received_notMem chunk]

/-- Bytes are received only from the present socket of an open connection. -/
theorem Move.eq_of_received {o : Operation} {a : Answer} (h : Move c o a calls c') {chunk : Bytes}
    (hr : .received chunk ∈ a.events?) :
    o = .signal c.epoch (.message chunk) ∧ c.state = .opened := by
  cases h with
  | connectAnew _ _ ha | connect _ _ ha | reconnect _ ha | retry _ _ ha =>
    exact absurd hr (ha.received_notMem chunk)
  | replace _ ha =>
    simp [Answer.events?, ha.received_notMem chunk] at hr
  | lost _ hl => exact absurd hr (hl.received_notMem chunk)
  | received chunk' ho =>
    obtain rfl : chunk = chunk' := by simpa [Answer.events?] using hr
    exact ⟨rfl, ho⟩
  | _ => simp [Answer.events?] at hr

end Connection

namespace Session

/-- An operation as it was done: on which session, with what events of its connection and what
calls. -/
structure Deed where
  operation : Operation
  before : Session
  events : List Event
  calls : List Call

namespace Deed

def connects (d : Deed) : Bool := d.events.any Event.isConnecting

/-- The bytes that the present socket brought while the connection was open. -/
def heard? (d : Deed) : Option Bytes :=
  match d.operation with
  | .signal e (.message chunk) =>
    if e = d.before.connection.epoch ∧ d.before.connection.state = .opened then some chunk else none
  | _ => none

/-- What the session put on the screen as output. What others put there is not its own. -/
def outputs (d : Deed) : List String :=
  match d.operation with
  | .append _ _ => []
  | _ => d.calls.filterMap Call.output?

theorem eq_of_heard {d : Deed} {chunk : Bytes} (h : d.heard? = some chunk) :
    d.operation = .signal d.before.connection.epoch (.message chunk) ∧
      d.before.connection.state = .opened := by
  unfold heard? at h
  split at h
  case h_1 e chunk' ho =>
    rw [Option.ite_none_right_eq_some, Option.some.injEq] at h
    obtain ⟨⟨rfl, hs⟩, rfl⟩ := h
    exact ⟨ho, hs⟩
  case h_2 => cases h

end Deed

/-- The deeds of one connection, or of its beginning: the first begins it and no other begins
another. -/
def OneConnection : List Deed → Prop
  | [] => False
  | d :: ds => d.connects = true ∧ ∀ d' ∈ ds, d'.connects = false

def heard (ds : List Deed) : Bytes := (ds.filterMap Deed.heard?).flatten

def output (ds : List Deed) : List Char := (ds.flatMap Deed.outputs).flatMap String.toList

namespace Console

variable {ω : Type}

section Idle

variable {c c' c'' : Console (Watched ω)}

/-- Something may have been done, but nothing was shown as output. -/
def Mute (c c' : Console (Watched ω)) : Prop :=
  ∃ calls, c'.world.calls = c.world.calls ++ calls ∧ calls.filterMap Call.output? = []

theorem Mute.of_eq (h : c'.world.calls = c.world.calls) : Mute c c' := ⟨[], by simp [h], rfl⟩

theorem Mute.trans (h : Mute c c') (h' : Mute c' c'') : Mute c c'' := by
  obtain ⟨calls, hc, ho⟩ := h
  obtain ⟨calls', hc', ho'⟩ := h'
  exact ⟨calls ++ calls', by rw [hc', hc, List.append_assoc], by simp [ho, ho']⟩

theorem mute_withLink [Network ω] (k : Connection.Operation) (c : Console (Watched ω)) :
    Mute c (c.withLink (c.link.perform k).2) := by
  obtain ⟨calls, _, hmade⟩ := c.link.perform_moves k
  refine ⟨calls, Watched.calls_of_made hmade, List.filterMap_eq_nil_iff.mpr fun call hc => ?_⟩
  have hn := hmade.onNetwork call hc
  cases call with
  | append _ _ => cases hn
  | _ => rfl

/-- Neither the connection nor the decoder is touched, and nothing is shown as output. -/
structure Idle (c c' : Console (Watched ω)) : Prop where
  mute : Mute c c'
  connection : c'.session.connection = c.session.connection
  decoder : c'.session.decoder = c.session.decoder

theorem Idle.trans (h : Idle c c') (h' : Idle c' c'') : Idle c c'' where
  mute := h.mute.trans h'.mute
  connection := h'.connection.trans h.connection
  decoder := h'.decoder.trans h.decoder

theorem idle_tell {call : Call} (hc : call.output? = none) (f : ω → ω) (c : Console (Watched ω)) :
    Idle c (c.withWorld (Watched.tell call f)) :=
  ⟨⟨[call], rfl, by simp [hc]⟩, rfl, rfl⟩

theorem idle_noteAll [Network ω] (ns : List Notice) (c : Console (Watched ω)) :
    Idle c (c.noteAll ns) := ⟨.of_eq (calls_noteAll ns c), rfl, rfl⟩

variable [Screen ω]

theorem idle_announce {style : Style} (hs : style ≠ .output) (text : String)
    (c : Console (Watched ω)) : Idle c (c.announce style text) := by
  refine idle_tell ?_ _ c
  cases style with
  | output => exact absurd rfl hs
  | info | error => rfl

theorem idle_report (s : Status) (c : Console (Watched ω)) : Idle c (c.report s) := by
  unfold report
  split
  · exact ⟨.of_eq rfl, rfl, rfl⟩
  · exact ⟨⟨[.report s], rfl, rfl⟩, rfl, rfl⟩

end Idle

/-! ## Events other than bytes -/

variable [Network ω] [Screen ω]

theorem mute_present {e : Event} (he : ∀ chunk, .received chunk ≠ e) (c : Console (Watched ω)) :
    Mute c (c.present e) ∧
      (c.present e).session.decoder = if e.isConnecting then {} else c.session.decoder := by
  have quiet {c' : Console (Watched ω)} (h : Idle c c') :
      Mute c c' ∧ c'.session.decoder = c.session.decoder := ⟨h.mute, h.decoder⟩
  have info : Style.info ≠ .output := by simp
  have error : Style.error ≠ .output := by simp
  cases e with
  | connecting url _ =>
    have hd : Mute c (c.withDecoder c.session.decoder.reset) := .of_eq rfl
    exact ⟨hd.trans (idle_announce info _ _).mute, rfl⟩
  | refused _ | failed _ => exact quiet (idle_announce error _ c)
  | connected =>
    exact quiet (((idle_announce info _ c).trans (idle_report _ _)).trans (idle_tell rfl _ _))
  | received chunk => exact absurd rfl (he chunk)
  | closed reason =>
    cases reason with
    | network | user => exact quiet ((idle_announce info _ c).trans (idle_report _ _))
  | retryScheduled _ _ _ =>
    exact quiet (((idle_noteAll _ c).trans (idle_announce info _ _)).trans (idle_report _ _))
  | exhausted _ => exact quiet ((idle_announce error _ c).trans (idle_report _ _))

theorem mute_presentAll {es : List Event} (hes : ∀ chunk, .received chunk ∉ es)
    (c : Console (Watched ω)) :
    Mute c (c.presentAll es) ∧ (c.presentAll es).session.decoder =
      if es.any Event.isConnecting then {} else c.session.decoder := by
  induction es generalizing c with
  | nil => exact ⟨.of_eq rfl, rfl⟩
  | cons e es ih =>
    obtain ⟨hm, hd⟩ := mute_present (fun chunk h => hes chunk (h ▸ List.mem_cons_self)) c
    obtain ⟨hm', hd'⟩ := ih (fun chunk h => hes chunk (List.mem_cons_of_mem e h)) (c.present e)
    refine ⟨hm.trans hm', hd'.trans ?_⟩
    rw [hd, List.any_cons]
    cases e.isConnecting <;> simp

/-! ## Operations other than the arrival of bytes -/

/-- The events of the connection that an operation brings about. -/
def events (o : Operation) (c : Console ω) : List Event :=
  match o with
  | .start => (c.report .disconnected).link.connect.1
  | .close => c.link.close.1
  | .reconnect => c.link.reconnect.1
  | .signal e s => (c.link.signal e s).1
  | .retryDue e => (c.link.retryDue e).1
  | .shutdown | .clear | .press _ | .input _ | .append _ _ => []

def deed (o : Operation) (c : Console (Watched ω)) : Deed where
  operation := o
  before := c.session
  events := c.events o
  calls := (c.perform o).2.world.calls.drop c.world.calls.length

/-- What a run does, deed by deed. -/
def history : List Operation → Console (Watched ω) → List Deed
  | [], _ => []
  | o :: os, c => c.deed o :: history os (c.perform o).2

variable {c c' c'' : Console (Watched ω)} {es : List Event}

/-- The decoder starts anew with a new connection, and without one it is kept for as long as bytes
can still arrive. -/
structure Calm (es : List Event) (c c' : Console (Watched ω)) : Prop where
  fresh : es.any Event.isConnecting = true → c'.session.decoder = {}
  stays : es.any Event.isConnecting = false → Stays c.session.connection c'.session.connection
  decoder : es.any Event.isConnecting = false → c'.session.connection.state.isLive = true →
    c'.session.decoder = c.session.decoder

structure Silent (es : List Event) (c c' : Console (Watched ω)) : Prop extends Calm es c c' where
  mute : Mute c c'

omit [Network ω] [Screen ω] in
theorem Calm.rest (hc : c'.session.connection = c.session.connection)
    (hd : c'.session.decoder = c.session.decoder) : Calm [] c c' where
  fresh h := by cases h
  stays _ := .of_eq (by rw [hc]) (by rw [hc])
  decoder _ _ := hd

omit [Network ω] [Screen ω] in
theorem Idle.silent (h : Idle c c') : Silent [] c c' := ⟨.rest h.connection h.decoder, h.mute⟩

omit [Network ω] [Screen ω] in
theorem Silent.of_idle (h : Idle c c') (h' : Silent es c' c'') : Silent es c c'' where
  fresh := h'.fresh
  stays := h.connection ▸ h'.stays
  decoder := h.decoder ▸ h'.decoder
  mute := h.mute.trans h'.mute

omit [Network ω] [Screen ω] in
theorem Silent.idle (h : Silent es c c') (h' : Idle c' c'') : Silent es c c'' where
  fresh := h'.decoder ▸ h.fresh
  stays := h'.connection ▸ h.stays
  decoder := by
    rw [h'.decoder, h'.connection]
    exact h.decoder
  mute := h.mute.trans h'.mute

theorem silent_act {k : Connection.Operation} (he : (c.link.perform k).1 = .events es)
    (hk : ∀ chunk, k = .signal c.session.connection.epoch (.message chunk) →
      c.session.connection.state ≠ .opened) :
    Silent es c ((c.withLink (c.link.perform k).2).presentAll es) := by
  obtain ⟨calls, hm, hmade⟩ := c.link.perform_moves k
  rw [he] at hm
  have hes (chunk : Bytes) : .received chunk ∉ es := fun hr =>
    absurd (hm.eq_of_received hr).2 (hk chunk (hm.eq_of_received hr).1)
  obtain ⟨hmute, hd⟩ := mute_presentAll hes (c.withLink (c.link.perform k).2)
  have hc := (shows_presentAll es (c.withLink (c.link.perform k).2)).connection
  refine ⟨⟨fun hn => by rw [hd, if_pos hn], fun hn => ?_, fun hn _ => ?_⟩,
    (mute_withLink k c).trans hmute⟩
  · rw [hc]
    exact hm.connects_or_stays.resolve_left (by simp [Answer.events?, hn])
  · rw [hd, hn]
    rfl

omit [Screen ω] in
theorem stays_withLink {k : Connection.Operation} (h : (c.link.perform k).1.events? = []) :
    Stays c.session.connection (c.withLink (c.link.perform k).2).session.connection := by
  obtain ⟨calls, hm, hmade⟩ := c.link.perform_moves k
  exact hm.connects_or_stays.resolve_left (by simp [h])

omit [Screen ω] in
theorem silent_shutdown (c : Console (Watched ω)) : Silent [] c c.shutdown where
  fresh h := by cases h
  stays _ := stays_withLink (k := .shutdown) rfl
  decoder _ hl := by cases hl
  mute := (mute_withLink .shutdown c).trans (.of_eq rfl)

theorem silent_send (f : Frame) (c : Console (Watched ω)) : Silent [] c (c.send f).2 := by
  have hl : Silent [] c (c.withLink (c.link.send f).2) :=
    ⟨⟨fun h => (by cases h), fun _ => stays_withLink (k := .send f) rfl, fun _ _ => rfl⟩,
      mute_withLink (.send f) c⟩
  unfold send
  dsimp only
  cases (c.link.send f).1 with
  | sent | dropped => exact hl
  | failed error => exact hl.idle (idle_announce (by simp) _ _)

theorem silent_input (i : Input) (c : Console (Watched ω)) : Silent [] c (c.input i).2 := by
  have hi : Idle c ((c.noteAll ((c.session.encoder.encode i).1.notices
      c.session.encoder.line)).withEncoder (c.session.encoder.encode i).2) :=
    (idle_noteAll _ c).trans ⟨.of_eq rfl, rfl, rfl⟩
  simp only [input]
  generalize (c.session.encoder.encode i).1 = encoded at hi ⊢
  cases encoded with
  | frame f => exact .of_idle hi (silent_send f _)
  | held | refused _ => exact hi.silent

theorem outputs_eq_nil {o : Operation} (h : Mute c (c.perform o).2) : (c.deed o).outputs = [] := by
  obtain ⟨calls, hc, ho⟩ := h
  cases o with
  | append _ _ => rfl
  | _ =>
    show ((c.perform _).2.world.calls.drop c.world.calls.length).filterMap Call.output? = []
    rw [hc, List.drop_left, ho]

/-- Where nothing is heard, nothing is shown as output. -/
theorem calm_perform {o : Operation} (h : (c.deed o).heard? = none) :
    (c.deed o).outputs = [] ∧ Calm (c.events o) c (c.perform o).2 := by
  have of_silent (hs : Silent (c.events o) c (c.perform o).2) :
      (c.deed o).outputs = [] ∧ Calm (c.events o) c (c.perform o).2 :=
    ⟨outputs_eq_nil hs.mute, hs.toCalm⟩
  cases o with
  | start =>
    exact of_silent (.of_idle (idle_report _ c) (silent_act (k := .connect) rfl (by simp)))
  | close => exact of_silent (silent_act (k := .close) rfl (by simp))
  | reconnect => exact of_silent (silent_act (k := .reconnect) rfl (by simp))
  | shutdown => exact of_silent (silent_shutdown c)
  | clear =>
    exact of_silent ((idle_tell rfl _ c).trans (idle_announce (by simp) _ _)).silent
  | press k =>
    refine of_silent ?_
    simp only [perform, press]
    cases k.action with
    | input i => exact (silent_input i c).idle (idle_tell rfl _ _)
    | _ => exact Idle.silent ⟨.of_eq rfl, rfl, rfl⟩
  | input i => exact of_silent (silent_input i c)
  | append text style => exact ⟨rfl, .rest rfl rfl⟩
  | signal e s =>
    refine of_silent (silent_act (k := .signal e s) rfl fun chunk hk ho => ?_)
    obtain ⟨rfl, rfl⟩ := Connection.Operation.signal.inj hk
    simp [Deed.heard?, deed, ho] at h
  | retryDue e => exact of_silent (silent_act (k := .retryDue e) rfl (by simp))

/-! ## The arrival of bytes -/

omit [Network ω] in
theorem receive_calls (chunk : Bytes) (c : Console (Watched ω)) :
    (c.receive chunk).world.calls = c.world.calls ++
      if (c.session.decoder.push chunk).1.isEmpty then [] else
        [.append (String.ofList (c.session.decoder.push chunk).1) .output, .scrollToEnd] := by
  simp only [receive]
  split
  · exact (List.append_nil _).symm
  · exact List.append_assoc _ _ _

omit [Network ω] in
theorem receive_decoder (chunk : Bytes) (c : Console (Watched ω)) :
    (c.receive chunk).session.decoder = (c.session.decoder.push chunk).2 := by
  simp only [receive]
  split <;> rfl

theorem perform_heard {o : Operation} {chunk : Bytes} (h : (c.deed o).heard? = some chunk) :
    c.session.connection.state = .opened ∧ (c.deed o).connects = false ∧
      (c.perform o).2.session.decoder = (c.session.decoder.push chunk).2 ∧
      (c.deed o).calls = if (c.session.decoder.push chunk).1.isEmpty then [] else
        [.append (String.ofList (c.session.decoder.push chunk).1) .output, .scrollToEnd] := by
  obtain ⟨ho, hs⟩ := Deed.eq_of_heard h
  obtain rfl : o = .signal c.session.connection.epoch (.message chunk) := ho
  have hs : c.session.connection.state = .opened := hs
  have hl : c.link.signal c.session.connection.epoch (.message chunk) = ([.received chunk],
      c.link.update fun k => { k with counters := k.counters.countReceived chunk.length }) := by
    simp only [Link.signal, Link.received, link, hs, ↓reduceIte]
  have hp : (c.perform (.signal c.session.connection.epoch (.message chunk))).2 =
      (c.withLink (c.link.update fun k =>
        { k with counters := k.counters.countReceived chunk.length })).receive chunk := by
    simp only [perform, signal, act, hl]
    rfl
  refine ⟨hs, ?_, ?_, ?_⟩
  · simp only [Deed.connects, deed, events, hl]
    rfl
  · rw [hp, receive_decoder]
    rfl
  · simp only [deed, hp, receive_calls]
    exact List.drop_left

theorem outputs_heard {o : Operation} {chunk : Bytes} (h : (c.deed o).heard? = some chunk) :
    (c.deed o).outputs.flatMap String.toList = (c.session.decoder.push chunk).1 := by
  obtain ⟨-, -, -, hc⟩ := perform_heard h
  have ho : (c.deed o).outputs = (c.deed o).calls.filterMap Call.output? := by
    cases o with
    | append _ _ => cases h
    | _ => rfl
  rw [ho, hc]
  split
  case isTrue he => exact (List.isEmpty_iff.mp he).symm
  case isFalse => simp [Call.output?]

/-! ## Along a run -/

theorem history_eq_append {os : List Operation} {past future : List Deed}
    (h : history os c = past ++ future) :
    ∃ os₁ os₂, history os₁ c = past ∧ history os₂ (run os₁ c).2 = future := by
  induction past generalizing os c with
  | nil => exact ⟨[], os, rfl, h⟩
  | cons d past ih =>
    cases os with
    | nil => cases h
    | cons o os =>
      obtain ⟨rfl, ht⟩ := List.cons.inj h
      obtain ⟨os₁, os₂, h₁, h₂⟩ := ih ht
      exact ⟨o :: os₁, os₂, by rw [history, h₁], h₂⟩

theorem exists_deed_of_mem {os : List Operation} {d : Deed} (h : d ∈ history os c) :
    ∃ (o : Operation) (c' : Console (Watched ω)), d = c'.deed o := by
  induction os generalizing c with
  | nil => cases h
  | cons o os ih =>
    rcases List.mem_cons.mp h with rfl | h
    · exact ⟨o, c, rfl⟩
    · exact ih h

/-- While no connection begins, the output goes on as the decoding of what was heard does. -/
theorem output_history (os : List Operation) (bytes : Bytes)
    (hd : c.session.connection.state.isLive = true →
      c.session.decoder = (Utf8.Decoder.push {} bytes).2)
    (hn : ∀ d ∈ history os c, d.connects = false) :
    (Utf8.Decoder.push {} bytes).1 ++ output (history os c) =
      (Utf8.Decoder.push {} (bytes ++ heard (history os c))).1 := by
  induction os generalizing c bytes with
  | nil => simp [history, output, heard]
  | cons o os ih =>
    have hn' := hn (c.deed o) List.mem_cons_self
    have hrest (d : Deed) (h : d ∈ history os (c.perform o).2) : d.connects = false :=
      hn d (List.mem_cons_of_mem _ h)
    cases hh : (c.deed o).heard? with
    | none =>
      obtain ⟨ho, hc⟩ := calm_perform hh
      have hd' : (c.perform o).2.session.connection.state.isLive = true →
          (c.perform o).2.session.decoder = (Utf8.Decoder.push {} bytes).2 := fun hl => by
        rw [hc.decoder hn' hl, hd ((hc.stays hn').live hl)]
      have h := ih bytes hd' hrest
      simpa [history, output, heard, ho, hh] using h
    | some chunk =>
      obtain ⟨hs, -, hdec, -⟩ := perform_heard hh
      have hdc := hd (by rw [hs]; rfl)
      have hp := Utf8.Decoder.push_append {} bytes chunk
      rw [← hdc] at hp
      have h := ih (bytes ++ chunk) (fun _ => by rw [hdec, hp]) hrest
      rw [hp] at h
      simpa [history, output, heard, hh, outputs_heard hh] using h

theorem output_oneConnection {os : List Operation} {part future : List Deed}
    (h : history os c = part ++ future) (hone : OneConnection part) :
    output part = (Utf8.Decoder.push {} (heard part)).1 := by
  cases part with
  | nil => exact absurd hone id
  | cons d part =>
    cases os with
    | nil => cases h
    | cons o os =>
      obtain ⟨rfl, ht⟩ := List.cons.inj h
      obtain ⟨os', -, rfl, -⟩ := history_eq_append ht
      obtain ⟨hd, hn⟩ := hone
      have hh : (c.deed o).heard? = none := by
        cases hh : (c.deed o).heard? with
        | none => rfl
        | some chunk =>
          rw [(perform_heard hh).2.1] at hd
          cases hd
      obtain ⟨ho, hc⟩ := calm_perform hh
      have h := output_history os' [] (fun _ => hc.fresh hd) hn
      simpa [output, heard, ho, hh, Utf8.Decoder.push_nil] using h

/-- In every run each connection shows the text of the bytes heard on it, but for at most three that
complete no character. Bytes that are heard show nothing or one text with the screen scrolled to its
end, and nothing else that a session does shows output. -/
theorem run_output (config : Config) (url : String) (w : ω) (os : List Operation) :
    let ds := history os ⟨config.session url, { inner := w }⟩
    (∀ part, part <:+: ds → OneConnection part →
      output part = (Utf8.Decoder.push {} (heard part)).1 ∧
        (Utf8.Decoder.push {} (heard part)).2.pending ≤ 3) ∧
    ∀ d ∈ ds,
      match d.heard? with
      | some _ => d.calls = [] ∨ ∃ text, text ≠ "" ∧ d.calls = [.append text .output, .scrollToEnd]
      | none => d.outputs = [] := by
  intro ds
  constructor
  · rintro part ⟨past, future, hds⟩ hone
    rw [List.append_assoc] at hds
    obtain ⟨_, _, -, h⟩ := history_eq_append hds.symm
    exact ⟨output_oneConnection h hone, Utf8.Decoder.pending_push_le _⟩
  · intro d hd
    obtain ⟨o, c, rfl⟩ := exists_deed_of_mem hd
    cases hh : (c.deed o).heard? with
    | none => exact (calm_perform hh).1
    | some chunk =>
      obtain ⟨-, -, -, hc⟩ := perform_heard hh
      by_cases he : (c.session.decoder.push chunk).1.isEmpty = true
      · exact .inl (by rw [hc, if_pos he])
      · refine .inr ⟨_, fun ht => he ?_, by rw [hc, if_neg he]⟩
        simpa using ht

/-- A character that was cut off with its connection stays cut off. -/
theorem run_output_cut :
    let os : List Operation := [.start, .signal ⟨1⟩ .opened,
      .signal ⟨1⟩ (.message [0x68, 0xC3]), .reconnect, .signal ⟨2⟩ .opened,
      .signal ⟨1⟩ (.message [0xA9]), .signal ⟨2⟩ (.message [0xA9, 0x68])]
    let start : Console (Watched Bench) := ⟨({} : Config).session "ws://h/ws", { inner := {} }⟩
    let ds := history os start
    ds.drop 3 <:+: ds ∧ OneConnection (ds.drop 3) ∧
      output (ds.drop 3) = [Utf8.replacement, 'h'] := by
  intro os start ds
  have hi : ds.drop 3 <:+: ds := (List.drop_suffix 3 ds).isInfix
  have ho : OneConnection (ds.drop 3) := by
    show _ ∧ ∀ d' ∈ _, _
    decide +kernel
  refine ⟨hi, ho, ?_⟩
  rw [((run_output {} "ws://h/ws" ({} : Bench) os).1 _ hi ho).1]
  decide +kernel

end Console

end Session

end WebTerminal
