import WebTerminal.Proofs.Session.Abreast

/-! # Typing and connecting

What is typed does not reach the connection but for frames, and what happens to the connection does
not reach the line being typed. So either may be left out of a run, and the two may be interleaved
in any way. -/

namespace WebTerminal

namespace Connection

variable {c c' : Connection} {es : List Event} {calls : List Call} {a : Answer}

/-- The connection without its counts of frames and of bytes sent. -/
def uncounted (c : Connection) : Connection :=
  { c with counters :=
      { c.counters with framesSent := 0, framesDropped := 0, bytesSent := 0 } }

theorem Loss.uncounted (h : Loss c es calls c') : Loss c.uncounted es calls c'.uncounted := by
  cases h with
  | retry timer hx => exact .retry timer hx
  | giveUp hx hr => exact .giveUp hx hr
  | again hx hr => exact .again hx hr

theorem Attempt.uncounted (h : Attempt c es calls c') :
    Attempt c.uncounted es calls c'.uncounted := by
  cases h with
  | dialled s => exact .dialled s
  | refused error hl => exact .refused error hl.uncounted

/-- Of the counts only sending takes notice. -/
theorem Move.uncounted {k : Operation} (h : Move c k a calls c') (hk : k.frame? = none) :
    Move c.uncounted k a calls c'.uncounted := by
  cases h with
  | connectIgnored hl => exact .connectIgnored hl
  | connectAnew hl hn ha => exact .connectAnew (c := c.uncounted) hl hn ha.uncounted
  | connect hl hn ha => exact .connect (c := c.uncounted) hl hn ha.uncounted
  | replace hl ha => exact .replace (c := c.uncounted) hl ha.uncounted
  | reconnect hl ha => exact .reconnect (c := c.uncounted) hl ha.uncounted
  | closeIgnored hi => exact .closeIgnored hi
  | close hi => exact .close hi
  | shutdown => exact .shutdown
  | dropped | sent | unsent => cases hk
  | signalIgnored e s hi => exact .signalIgnored e s hi
  | opened hs => exact .opened hs
  | received chunk hs => exact .received chunk hs
  | failed info hl => exact .failed info hl
  | lost hl hloss => exact .lost (c := c.uncounted) hl hloss.uncounted
  | timerIgnored e hi => exact .timerIgnored e hi
  | retry e ha hat => exact .retry (c := c.uncounted) e ha hat.uncounted

theorem Move.uncounted_send {f : Frame} (h : Move c (.send f) a calls c') :
    c.uncounted = c'.uncounted := by
  cases h <;> rfl

theorem Move.after_send {f : Frame} (h : Move c (.send f) a calls c') (b : Bench) :
    calls.foldl Bench.after b = b := by
  cases h <;> rfl

end Connection

namespace Bench

/-- Whether something shown is the shell's output or a status. -/
def Shown.tells : Shown → Bool
  | .append _ .output | .status _ => true
  | _ => false

/-- The output and the statuses, in order. -/
def told (b : Bench) : List Shown := b.shown.filter Shown.tells

/-- The benches differ at most in the frames sent, in the terminal's own lines and in the log. -/
structure Agree (b b' : Bench) : Prop where
  bare : b.bare = b'.bare
  told : b.told = b'.told

theorem told_record (s : Shown) (b : Bench) :
    (b.record s).told = b.told ++ [s].filter Shown.tells := List.filter_append _ _

theorem told_untold {s : Shown} (hs : s.tells = false) (b : Bench) :
    (b.record s).told = b.told := by
  rw [told_record, List.filter_cons_of_neg (by simp [hs])]
  exact List.append_nil _

theorem tells_line (text : String) {style : Session.Style} (hs : style ≠ .output) :
    (Shown.append text style).tells = false := by
  cases style with
  | output => exact absurd rfl hs
  | info | error => rfl

theorem Agree.record {b b' : Bench} (h : Agree b b') (s : Shown) :
    Agree (b.record s) (b'.record s) where
  bare := h.bare
  told := by rw [told_record, told_record, h.told]

theorem focusable_eq {b b' : Bench} (h : Agree b b') : b.focusable = b'.focusable :=
  congrArg (fun b => b.focusable) h.bare

theorem tolerates_agree : Screen.Tolerates Agree where
  note _ _ _ h := ⟨h.bare, h.told⟩
  line text text' _ hs b b' h := by
    refine ⟨h.bare, ?_⟩
    show (b.record _).told = (b'.record _).told
    rw [told_untold (tells_line text hs), told_untold (tells_line text' hs), h.told]
  output text _ _ h := h.record (.append text .output)
  clear h := h.record .clear
  scrollToEnd h := h.record .scroll
  focus {b b'} h := by
    simp only [Screen.focus, focusable_eq h]
    split
    · exact h.record .focus
    · exact h
  report s _ _ h := h.record (.status s)

/-- Benches that agree foretell the same and are left alike by calls that are alike. -/
theorem Agree.of_made {b b' b₁ b₁' : Bench} {calls calls' : List Call} (h : Agree b b')
    (hm : Made b calls b₁) (hm' : Made b' calls' b₁')
    (hc : calls.map Call.terse = calls'.map Call.terse) : Agree b₁ b₁' := by
  obtain ⟨hb, hs⟩ := bare_of_made hm
  obtain ⟨hb', hs'⟩ := bare_of_made hm'
  constructor
  · rw [hb, hb', ← foldl_after_terse calls, ← foldl_after_terse calls', hc, h.bare]
  · show b₁.shown.filter Shown.tells = b₁'.shown.filter Shown.tells
    rw [hs, hs']
    exact h.told

end Bench

namespace Connection

/-- Operations other than sending do the same, whatever was sent before. -/
theorem Operation.keeps_agree {k : Operation} (hk : k.frame? = none) :
    k.Keeps (fun c c' => c.uncounted = c'.uncounted) Bench.Agree Bench.Agree := by
  intro l l' h
  obtain ⟨calls, hm, hmade⟩ := l.perform_moves k
  obtain ⟨calls', hm', hmade'⟩ := l'.perform_moves k
  have hφ := hm.foretold Bench.reliable_forecast hmade
  have hφ' := hm'.foretold Bench.reliable_forecast hmade'
  rw [show l'.world.forecast = l.world.forecast from
    (congrArg Bench.forecast h.world.bare).symm] at hφ'
  have hu := hm.uncounted hk
  rw [h.connection] at hu
  obtain ⟨ha, hc, hafter⟩ := hu.unique hφ hφ' (hm'.uncounted hk)
  exact ⟨ha, hafter, h.world.of_made hmade hmade' hc⟩

end Connection

namespace Session.Console

/-- The consoles differ at most in what typing leaves behind. -/
def Apart (c c' : Console Bench) : Prop :=
  Abreast (fun k k' => k.uncounted = k'.uncounted) Bench.Agree c c'

variable {c c' c'' : Console Bench}

theorem Apart.refl (c : Console Bench) : Apart c c := ⟨rfl, rfl, rfl, rfl, rfl⟩

theorem Apart.symm (h : Apart c c') : Apart c' c where
  connection := h.connection.symm
  decoder := h.decoder.symm
  lastStatus := h.lastStatus.symm
  world := ⟨h.world.bare.symm, h.world.told.symm⟩

theorem Apart.trans (h : Apart c c') (h' : Apart c' c'') : Apart c c'' where
  connection := h.connection.trans h'.connection
  decoder := h.decoder.trans h'.decoder
  lastStatus := h.lastStatus.trans h'.lastStatus
  world := ⟨h.world.bare.trans h'.world.bare, h.world.told.trans h'.world.told⟩

theorem apart_record {s : Bench.Shown} (hs : s.tells = false) (c : Console Bench) :
    Apart c (c.withWorld (Bench.record s)) :=
  { Apart.refl c with world := ⟨rfl, (Bench.told_untold hs c.world).symm⟩ }

theorem apart_send (f : Frame) (c : Console Bench) : Apart c (c.send f).2 := by
  obtain ⟨calls, hm, hmade⟩ := c.link.send_moves f
  obtain ⟨hb, hs⟩ := Bench.bare_of_made hmade
  have hl : Apart c (c.withLink (c.link.send f).2) := by
    refine ⟨hm.uncounted_send, rfl, rfl, ?_, ?_⟩
    · exact (hm.after_send _).symm.trans hb.symm
    · exact congrArg (List.filter Bench.Shown.tells) hs.symm
  unfold send
  dsimp only
  cases (c.link.send f).1 with
  | sent | dropped => exact hl
  | failed error => exact hl.trans (apart_record rfl _)

theorem apart_encoded (i : Input) (c : Console Bench) : Apart c (c.encoded i) := by
  refine ⟨rfl, rfl, rfl, ?_, ?_⟩
  · rw [world_encoded]
    rfl
  · rw [world_encoded]
    rfl

/-- An input is encoded and sent, and leaves everything else as it was. -/
theorem apart_input (i : Input) (c : Console Bench) : Apart c (c.input i).2 := by
  cases he : (c.session.encoder.encode i).1 with
  | frame f =>
    rw [input_eq_send he]
    exact (apart_encoded i c).trans (apart_send f _)
  | held | refused _ =>
    rw [input_eq_buffered (by rw [he]; rfl)]
    exact apart_encoded i c

theorem apart_press (k : Keystroke) (c : Console Bench) : Apart c (c.press k).2 := by
  unfold press
  cases k.action with
  | input i => exact (apart_input i c).trans (apart_record rfl _)
  | passThrough | ignore => exact .refl c

end Session.Console

namespace Bench

/-- Whether a step is a key or an input, of whatever kind. -/
def Step.isTyping : Step Session.Operation → Bool
  | .perform (.press _) | .perform (.input _) => true
  | _ => false

/-- Whether a step is for the connection alone. A shutdown ends the session as a whole. -/
def Step.isLinking : Step Session.Operation → Bool
  | .perform .start | .perform .close | .perform .reconnect | .perform (.signal _ _)
  | .perform (.retryDue _) | .fire => true
  | _ => false

theorem Agree.takeTimer {b b' : Bench} (h : Agree b b') :
    b.takeTimer = none ∧ b'.takeTimer = none ∨
      ∃ t b₁ b₁', b.takeTimer = some (t, b₁) ∧ b'.takeTimer = some (t, b₁') ∧ Agree b₁ b₁' := by
  have hlive : b.live = b'.live := congrArg (fun b => b.live) h.bare
  unfold Bench.takeTimer
  rw [← hlive]
  cases b.live.getLast? with
  | none => exact .inl ⟨rfl, rfl⟩
  | some t =>
    refine .inr ⟨t, _, _, rfl, rfl, ?_, h.told⟩
    exact congrArg (fun (k : Bench) => { k with live := b.live.dropLast }) h.bare

end Bench

namespace Session.Console

variable {c c' : Console Bench}

theorem apart_typing {s : Bench.Step Operation} (hs : s.isTyping = true) (c : Console Bench) :
    Apart c (c.step s).2 := by
  cases s with
  | perform o =>
    cases o with
    | press k => exact apart_press k c
    | input i => exact apart_input i c
    | _ => cases hs
  | _ => cases hs

theorem Apart.perform (h : Apart c c') {o : Operation} (ho : o.input? = none) :
    Apart (c.perform o).2 (c'.perform o).2 := by
  refine Abreast.perform Bench.tolerates_agree Bench.tolerates_agree h id ?_ fun k hk => ?_
  · intro hs
    rw [ho] at hs
    cases hs
  · refine Connection.Operation.keeps_agree (Option.not_isSome_iff_eq_none.mp fun hs => ?_)
    have hi := hk hs
    rw [ho] at hi
    cases hi

/-- Any other step goes on as if nothing had been typed. -/
theorem Apart.step (h : Apart c c') {s : Bench.Step Operation} (hs : s.isTyping = false) :
    Apart (c.step s).2 (c'.step s).2 := by
  cases s with
  | perform o =>
    refine h.perform ?_
    cases o with
    | press | input => cases hs
    | _ => rfl
  | refuse count =>
    exact { h with world :=
      ⟨congrArg (fun (b : Bench) => { b with refusals := count }) h.world.bare, h.world.told⟩ }
  | breakPipe broken =>
    exact { h with world :=
      ⟨congrArg (fun (b : Bench) => { b with brokenPipe := broken }) h.world.bare, h.world.told⟩ }
  | lose =>
    unfold Console.step
    rcases h.world.takeTimer with ⟨hn, hn'⟩ | ⟨t, b, b', ht, ht', hb⟩
    · rw [hn, hn']
      exact h
    · rw [ht, ht']
      exact { h with world := hb }
  | fire =>
    unfold Console.step
    rcases h.world.takeTimer with ⟨hn, hn'⟩ | ⟨t, b, b', ht, ht', hb⟩
    · rw [hn, hn']
      exact h
    · rw [ht, ht']
      have hw : Apart { c with world := b } { c' with world := b' } := { h with world := hb }
      exact hw.perform rfl

/-! ## What can be seen of a session -/

/-- All there is to the connection and to the screen, but for the counts of what was sent, for the
terminal's own lines and for the log. -/
structure Seen where
  state : Connection.State
  epoch : Epoch
  attempt : UInt32
  retry? : Option Retry
  bytesReceived : UInt64
  lastStatus? : Option Status
  opened : List (Epoch × String)
  closed : List Epoch
  scheduled : List Timer
  live : List Timer
  cancelled : List TimerId
  told : List Bench.Shown
  deriving DecidableEq

def seen (c : Console Bench) : Seen where
  state := c.session.connection.state
  epoch := c.session.connection.epoch
  attempt := c.session.connection.policy.attempt
  retry? := c.session.connection.retry?
  bytesReceived := c.session.connection.counters.bytesReceived
  lastStatus? := c.session.lastStatus?
  opened := c.world.opened
  closed := c.world.closed
  scheduled := c.world.scheduled
  live := c.world.live
  cancelled := c.world.cancelled
  told := c.world.told

theorem Apart.seen_eq (h : Apart c c') : c.seen = c'.seen := by
  obtain ⟨hc, -, hs, hb, ht⟩ := h
  rw [seen, seen, Seen.mk.injEq]
  exact ⟨congrArg (fun k => k.state) hc, congrArg (fun k => k.epoch) hc,
    congrArg (fun k => k.policy.attempt) hc, congrArg (fun k => k.retry?) hc,
    congrArg (fun k => k.counters.bytesReceived) hc, hs, congrArg (fun b => b.opened) hb,
    congrArg (fun b => b.closed) hb, congrArg (fun b => b.scheduled) hb,
    congrArg (fun b => b.live) hb, congrArg (fun b => b.cancelled) hb, ht⟩

/-- The steps of a run, each with the console after it. -/
def along : List (Bench.Step Operation) → Console Bench →
    List (Bench.Step Operation × Console Bench)
  | [], _ => []
  | s :: ss, c => (s, (c.step s).2) :: along ss (c.step s).2

/-- The frames that the keyboard makes in a run. -/
def frames : List (Bench.Step Operation) → Console Bench → List Frame
  | [], _ => []
  | s :: ss, c => (s.typed? c.session.encoder).toList ++ frames ss (c.step s).2

/-- Without typing, the other steps come to the same. -/
theorem Apart.along_filter (ss : List (Bench.Step Operation)) (h : Apart c c') :
    ((along ss c).filter (!·.1.isTyping)).map (·.2.seen) =
        (along (ss.filter (!·.isTyping)) c').map (·.2.seen) ∧
      Apart (runSteps ss c).2 (runSteps (ss.filter (!·.isTyping)) c').2 := by
  induction ss generalizing c c' with
  | nil => exact ⟨rfl, h⟩
  | cons s ss ih =>
    cases hs : s.isTyping with
    | true =>
      have hskip := ih ((apart_typing hs c).symm.trans h)
      simpa [along, runSteps, hs] using hskip
    | false =>
      have hstep := h.step hs
      obtain ⟨hseen, hrun⟩ := ih hstep
      rw [List.filter_cons_of_pos (by simp [hs]), along, along,
        List.filter_cons_of_pos (by simp [hs]), List.map_cons, List.map_cons, hseen,
        hstep.seen_eq]
      exact ⟨rfl, hrun⟩

theorem encoder_step (s : Bench.Step Operation) (c : Console Bench) :
    (c.step s).2.session.encoder = s.keyed c.session.encoder := by
  cases s with
  | perform o => exact encoder_perform o c
  | refuse | breakPipe => rfl
  | lose =>
    unfold step
    cases c.world.takeTimer <;> rfl
  | fire =>
    unfold step
    cases c.world.takeTimer with
    | none => rfl
    | some taken => exact encoder_perform (.retryDue taken.1.epoch) _

theorem keyed_linking {s : Bench.Step Operation} (hs : s.isLinking = true) (e : Encoder) :
    s.keyed e = e ∧ s.typed? e = none := by
  cases s with
  | perform o =>
    cases o with
    | start | close | reconnect | signal | retryDue => exact ⟨rfl, rfl⟩
    | _ => cases hs
  | fire => exact ⟨rfl, rfl⟩
  | _ => cases hs

/-- Without the connection, the line goes on as before. -/
theorem line_filter (ss : List (Bench.Step Operation))
    (h : c.session.encoder = c'.session.encoder) :
    ((along ss c).filter (!·.1.isLinking)).map (·.2.session.pendingLine) =
        (along (ss.filter (!·.isLinking)) c').map (·.2.session.pendingLine) ∧
      frames ss c = frames (ss.filter (!·.isLinking)) c' := by
  induction ss generalizing c c' with
  | nil => exact ⟨rfl, rfl⟩
  | cons s ss ih =>
    cases hs : s.isLinking with
    | true =>
      obtain ⟨hkeyed, htyped⟩ := keyed_linking hs c.session.encoder
      have henc : (c.step s).2.session.encoder = c'.session.encoder := by
        rw [encoder_step, hkeyed, h]
      simpa [along, frames, hs, htyped] using ih henc
    | false =>
      have henc : (c.step s).2.session.encoder = (c'.step s).2.session.encoder := by
        rw [encoder_step, encoder_step, h]
      obtain ⟨hline, hframes⟩ := ih henc
      rw [List.filter_cons_of_pos (by simp [hs]), along, along,
        List.filter_cons_of_pos (by simp [hs]), List.map_cons, List.map_cons, hline, frames,
        frames, hframes, h, Session.pendingLine, henc]
      exact ⟨rfl, rfl⟩

theorem keyed_untyped {s : Bench.Step Operation} (hs : s.isTyping = false)
    (hn : s ≠ .perform .shutdown) (e : Encoder) : s.keyed e = e := by
  cases s with
  | perform o =>
    cases o with
    | press | input => cases hs
    | shutdown => exact absurd rfl hn
    | _ => rfl
  | _ => rfl

/-- The keyboard depends on what was typed alone. -/
theorem encoder_runSteps {ss : List (Bench.Step Operation)} (hn : .perform .shutdown ∉ ss)
    (c : Console Bench) : (runSteps ss c).2.session.encoder =
      (ss.filter (·.isTyping)).foldl (fun e s => s.keyed e) c.session.encoder := by
  induction ss generalizing c with
  | nil => rfl
  | cons s ss ih =>
    rw [List.mem_cons, not_or] at hn
    obtain ⟨hs, hss⟩ := hn
    rw [runSteps, ih hss, encoder_step]
    cases ht : s.isTyping with
    | true => rw [List.filter_cons_of_pos ht, List.foldl_cons]
    | false =>
      rw [List.filter_cons_of_neg (by simp [ht]), keyed_untyped ht (Ne.symm hs)]

/-- Typing and connecting do not interfere. Without what was typed, all that can be seen of a run is
the same after each of the other steps; without what the connection did, so is the line being typed,
and the same frames are made. So of two runs without a shutdown in which the same is typed and the
same else is done, however they are interleaved, the ends look alike and leave the same line. -/
theorem run_independent (ss : List (Bench.Step Operation)) (c : Console Bench) :
    ((along ss c).filter (!·.1.isTyping)).map (·.2.seen) =
      (along (ss.filter (!·.isTyping)) c).map (·.2.seen) ∧
    ((along ss c).filter (!·.1.isLinking)).map (·.2.session.pendingLine) =
      (along (ss.filter (!·.isLinking)) c).map (·.2.session.pendingLine) ∧
    frames ss c = frames (ss.filter (!·.isLinking)) c ∧
    ∀ ss' : List (Bench.Step Operation),
      .perform .shutdown ∉ ss → .perform .shutdown ∉ ss' →
      ss.filter (·.isTyping) = ss'.filter (·.isTyping) →
      ss.filter (!·.isTyping) = ss'.filter (!·.isTyping) →
      (runSteps ss c).2.seen = (runSteps ss' c).2.seen ∧
        (runSteps ss c).2.session.pendingLine = (runSteps ss' c).2.session.pendingLine := by
  obtain ⟨hseen, hrun⟩ := (Apart.refl c).along_filter ss
  obtain ⟨hline, hframes⟩ := line_filter ss (c := c) rfl
  refine ⟨hseen, hline, hframes, fun ss' hn hn' htyped hother => ?_⟩
  obtain ⟨-, hrun'⟩ := (Apart.refl c).along_filter ss'
  rw [hother] at hrun
  constructor
  · exact (hrun.trans hrun'.symm).seen_eq
  · rw [Session.pendingLine, encoder_runSteps hn, htyped, ← encoder_runSteps hn',
      Session.pendingLine]

/-- A key typed while the connection is not yet open is dropped, and one typed after it is open is
sent: the ends look alike all the same. -/
theorem run_independent_swapped :
    let c : Console Bench := ⟨({} : Config).session "ws://h/ws", {}⟩
    let ss : List (Bench.Step Operation) :=
      [.perform .start, .perform (.input (.char 'a')), .perform (.signal ⟨1⟩ .opened)]
    let ss' : List (Bench.Step Operation) :=
      [.perform .start, .perform (.signal ⟨1⟩ .opened), .perform (.input (.char 'a'))]
    (runSteps ss c).2.world.sent = [] ∧ (runSteps ss' c).2.world.sent = [⟨[97]⟩] ∧
      .perform .shutdown ∉ ss ∧ .perform .shutdown ∉ ss' ∧
      ss.filter (·.isTyping) = ss'.filter (·.isTyping) ∧
      ss.filter (!·.isTyping) = ss'.filter (!·.isTyping) ∧
      (runSteps ss c).2.seen = (runSteps ss' c).2.seen ∧
        (runSteps ss c).2.session.pendingLine = (runSteps ss' c).2.session.pendingLine := by
  intro c ss ss'
  have hn : .perform .shutdown ∉ ss := by decide
  have hn' : .perform .shutdown ∉ ss' := by decide
  have htyped : ss.filter (·.isTyping) = ss'.filter (·.isTyping) := by decide
  have hother : ss.filter (!·.isTyping) = ss'.filter (!·.isTyping) := by decide
  obtain ⟨-, -, -, hends⟩ := run_independent ss c
  exact ⟨by decide +kernel, by decide +kernel, hn, hn', htyped, hother,
    hends ss' hn hn' htyped hother⟩

end Session.Console

end WebTerminal
