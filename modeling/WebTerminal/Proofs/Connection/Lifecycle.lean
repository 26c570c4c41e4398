import WebTerminal.Proofs.Connection.Coherence

/-! # The life of a connection in its events

An automaton that reads nothing but answers knows the state and the epoch of a connection. It
accepts every run: each event comes only where it may, those that happen once in an attempt come
once, and a refusal and a loss are followed at once, in the same answer, by what they entail. -/

namespace WebTerminal.Connection

/-- What was reported last in the present answer, if something hangs on it. -/
inductive Stage where
  | settled
  | dialling
  | refused
  | lost
  deriving DecidableEq, Repr

/-- `heard` are the events of the present attempt after its beginning, the last one first. -/
structure Lifecycle where
  url : String
  state : State := .idle
  epoch : Epoch := .initial
  stage : Stage := .settled
  heard : List Event := []
  deriving DecidableEq, Repr

namespace Lifecycle

def allows (a : Lifecycle) : Event → Bool
  | .connecting url e =>
    a.stage = .settled && !a.state.isLive && url = a.url && e = a.epoch.next
  | .refused _ => a.stage = .dialling
  | .connected => a.stage = .settled && a.state = .connecting && .connected ∉ a.heard
  | .received _ => a.stage = .settled && a.state = .opened
  | .failed _ => a.stage = .settled && a.state.isLive
  | .closed .network =>
    (a.stage = .settled || a.stage = .refused) && a.state.isLive && .closed .network ∉ a.heard
  | .closed .user =>
    a.stage = .settled && (a.state.isLive || a.state = .closed .network) && .closed .user ∉ a.heard
  | .retryScheduled _ _ _ | .exhausted _ => a.stage = .lost

/-- Only an attempt forgets what was heard before. -/
def after (a : Lifecycle) (e : Event) : Lifecycle :=
  match e with
  | .connecting _ epoch => { a with state := .connecting, epoch, stage := .dialling, heard := [] }
  | .refused _ => { a with stage := .refused, heard := e :: a.heard }
  | .connected => { a with state := .opened, stage := .settled, heard := e :: a.heard }
  | .closed .network => { a with state := .closed .network, stage := .lost, heard := e :: a.heard }
  | .closed .user => { a with state := .closed .user, stage := .settled, heard := e :: a.heard }
  | .received _ | .failed _ | .retryScheduled _ _ _ | .exhausted _ =>
    { a with stage := .settled, heard := e :: a.heard }

/-- Reads the events of one answer, at whose end nothing may be outstanding. -/
def read : List Event → Lifecycle → Option Lifecycle
  | [], a =>
    if a.stage = .settled ∨ a.stage = .dialling then some { a with stage := .settled } else none
  | e :: es, a => if a.allows e then read es (a.after e) else none

/-- A shutdown reports no events and is a silent step back to idle. -/
def hear : Answer → Lifecycle → Option Lifecycle
  | .events es, a => a.read es
  | .delivery _, a => some a
  | .none, a => some { a with state := .idle }

def hearAll : List Answer → Lifecycle → Option Lifecycle
  | [], a => some a
  | r :: rs, a => (a.hear r).bind (hearAll rs)

/-- The automaton stands where the connection does, and what may come only once in an attempt and
still may come has not been heard in it. -/
structure Matches (a : Lifecycle) (c : Connection) : Prop where
  url : a.url = c.url
  state : a.state = c.state
  epoch : a.epoch = c.epoch
  unopened : c.state = .connecting → .connected ∉ a.heard
  unlost : c.state.isLive = true → .closed .network ∉ a.heard
  unleft : c.state.isLive = true ∨ c.state = .closed .network → .closed .user ∉ a.heard

variable {a : Lifecycle} {c c' : Connection} {es : List Event} {calls : List Call}

theorem matches_new (url : String) (policy : RetryPolicy) :
    Matches { url } { url, policy } := by
  constructor <;> simp

/-- Of a connection the automaton sees only the address, the state and the epoch. -/
theorem Matches.congr (h : a.Matches c) (hu : c'.url = c.url) (hs : c'.state = c.state)
    (he : c'.epoch = c.epoch) : a.Matches c' where
  url := h.url.trans hu.symm
  state := h.state.trans hs.symm
  epoch := h.epoch.trans he.symm
  unopened := by rw [hs]; exact h.unopened
  unlost := by rw [hs]; exact h.unlost
  unleft := by rw [hs]; exact h.unleft

/-- The rest of an answer is accepted and leads to where the connection then is. -/
def Accepts (a : Lifecycle) (es : List Event) (c : Connection) : Prop :=
  ∃ a', a.read es = some a' ∧ a'.stage = .settled ∧ a'.Matches c

theorem Accepts.nil (h : a.Matches c) (hs : a.stage = .settled ∨ a.stage = .dialling) :
    a.Accepts [] c :=
  ⟨_, if_pos hs, rfl, ⟨h.url, h.state, h.epoch, h.unopened, h.unlost, h.unleft⟩⟩

theorem Accepts.cons {e : Event} (h : a.allows e = true) (hr : (a.after e).Accepts es c) :
    a.Accepts (e :: es) c := by
  obtain ⟨a', hr, hs, hm⟩ := hr
  exact ⟨a', (if_pos h).trans hr, hs, hm⟩

theorem Accepts.loss (h : Loss c es calls c') (hr : c.exhaustionReported = false)
    (hl : c.state.isLive = true) (hs : a.stage = .settled ∨ a.stage = .refused)
    (ha : a.Matches c) : a.Accepts es c' := by
  have hnew := ha.unlost hl
  have hleft := ha.unleft (.inl hl)
  have hlost : a.allows (.closed .network) = true := by
    rcases hs with hs | hs <;> simp [allows, ha.state, hl, hnew, hs]
  cases h with
  | retry timer hx =>
    refine .cons hlost (.cons rfl (.nil ?_ (.inl rfl)))
    constructor <;> simp [after, ha.url, ha.epoch, hleft, State.isLive]
  | giveUp hx _ =>
    refine .cons hlost (.cons rfl (.nil ?_ (.inl rfl)))
    constructor <;> simp [after, ha.url, ha.epoch, hleft, State.isLive]
  | again _ hr' => rw [hr] at hr'; cases hr'

theorem Accepts.attempt (h : Attempt c es calls c') (hr : c.exhaustionReported = false)
    (hl : c.state.isLive = false) (hs : a.stage = .settled) (ha : a.Matches c) :
    a.Accepts es c' := by
  have hnext : a.allows (.connecting c.url c.epoch.next) = true := by
    simp [allows, hs, ha.state, hl, ha.url, ha.epoch]
  have hbegun : (a.after (.connecting c.url c.epoch.next)).Matches c.cleared.beginAttempt := by
    constructor <;> simp [after, cleared, beginAttempt, ha.url]
  cases h with
  | dialled s =>
    exact .cons hnext (.nil (hbegun.congr rfl rfl rfl) (.inr rfl))
  | refused error hloss =>
    refine .cons hnext (.cons rfl (.loss hloss hr rfl (.inr rfl) ?_))
    constructor <;> simp [after, cleared, beginAttempt, ha.url]

/-- The automaton hears the answer of every move of a coherent connection and moves with it. -/
theorem hear_move {o : Operation} {r : Answer} (h : Move c o r calls c') (hc : Coherent c)
    (hs : a.stage = .settled) (ha : a.Matches c) :
    ∃ a', a.hear r = some a' ∧ a'.stage = .settled ∧ a'.Matches c' := by
  have quiet : a.Accepts [] c := .nil ha (.inl hs)
  cases h with
  | connectIgnored | signalIgnored | timerIgnored => exact quiet
  | connectAnew hl _ hat => exact Accepts.attempt hat rfl hl hs (ha.congr rfl rfl rfl)
  | connect hl hn hat => exact Accepts.attempt hat (hc.unreported_of_continuing hn) hl hs ha
  | replace hl hat =>
    have hleft : a.allows (.closed .user) = true := by
      simp [allows, hs, ha.state, hl, ha.unleft (.inl hl)]
    refine Accepts.cons hleft (.attempt hat rfl rfl rfl ?_)
    constructor <;> simp [after, left, cleared, resetPolicy, State.isLive, ha.url, ha.epoch]
  | reconnect hl hat => exact Accepts.attempt hat rfl hl hs (ha.congr rfl rfl rfl)
  | closeIgnored _ => exact Accepts.nil (ha.congr rfl rfl rfl) (.inl hs)
  | close hl =>
    have hleft : a.allows (.closed .user) = true := by
      simp only [allows, hs, ha.state, ha.unleft hl]
      rcases hl with hl | hl <;> simp [hl]
    refine Accepts.cons hleft (.nil ?_ (.inl rfl))
    constructor <;> simp [after, left, cleared, State.isLive, ha.url, ha.epoch]
  | shutdown =>
    refine ⟨_, rfl, hs, ?_⟩
    constructor <;> simp [cleared, resetPolicy, State.isLive, ha.url, ha.epoch]
  | dropped | sent => exact ⟨a, rfl, hs, ha.congr rfl rfl rfl⟩
  | unsent => exact ⟨a, rfl, hs, ha⟩
  | opened hst =>
    have hnew : a.allows .connected = true := by
      simp [allows, hs, ha.state, hst, ha.unopened hst]
    have hl : c.state.isLive = true := by rw [hst]; rfl
    refine Accepts.cons hnew (.nil ?_ (.inl rfl))
    constructor <;> simp [after, resetPolicy, ha.url, ha.epoch, ha.unlost hl, ha.unleft (.inl hl)]
  | received chunk hst =>
    have hin : a.allows (.received chunk) = true := by simp [allows, hs, ha.state, hst]
    have hl : c.state.isLive = true := by rw [hst]; rfl
    refine Accepts.cons hin (.nil ?_ (.inl rfl))
    constructor <;> simp [after, hst, ha.url, ha.state, ha.epoch, ha.unlost hl, ha.unleft (.inl hl)]
  | failed info hl =>
    have hin : a.allows (.failed info) = true := by simp [allows, hs, ha.state, hl]
    refine Accepts.cons hin (.nil ?_ (.inl rfl))
    constructor <;> simp [after, ha.url, ha.state, ha.epoch, ha.unlost hl, ha.unleft (.inl hl)]
    exact ha.unopened
  | lost hl hloss =>
    exact Accepts.loss hloss (hc.unreported_of_live hl) hl (.inl hs) (ha.congr rfl rfl rfl)
  | retry e haw hat =>
    obtain ⟨hst, r, hr, _⟩ := awaits_retry haw
    have hl : c.state.isLive = false := by rw [hst]; rfl
    exact Accepts.attempt hat (hc.unreported_of_waiting hr) hl hs (ha.congr rfl rfl rfl)

end Lifecycle

namespace Link

variable {ω : Type} [Network ω]

theorem hearAll_run (os : List Operation) {l : Link ω} {a : Lifecycle}
    (hc : Coherent l.connection) (hs : a.stage = .settled) (ha : a.Matches l.connection) :
    ∃ a', a.hearAll (run os l).1 = some a' ∧ a'.stage = .settled ∧
      a'.Matches (run os l).2.connection := by
  induction os generalizing l a with
  | nil => exact ⟨a, rfl, hs, ha⟩
  | cons o os ih =>
    obtain ⟨_, hm, _⟩ := l.perform_moves o
    obtain ⟨a₁, h₁, hs₁, ha₁⟩ := Lifecycle.hear_move hm hc hs ha
    obtain ⟨a₂, h₂, hs₂, ha₂⟩ := ih (coherent_perform o hc) hs₁ ha₁
    refine ⟨a₂, ?_, hs₂, ha₂⟩
    simp only [run, Lifecycle.hearAll, h₁, Option.bind_some, h₂]

/-- The answers of every run from a new connection are those of one life of a connection, and
leave the automaton that reads them in the connection's state and epoch. -/
theorem run_lifecycle (url : String) (policy : RetryPolicy) (w : ω) (os : List Operation) :
    ∃ a, Lifecycle.hearAll (run os ⟨{ url, policy }, w⟩).1 { url } = some a ∧
      a.state = (run os ⟨{ url, policy }, w⟩).2.connection.state ∧
      a.epoch = (run os ⟨{ url, policy }, w⟩).2.connection.epoch := by
  obtain ⟨a, h, _, ha⟩ := hearAll_run os (l := ⟨{ url, policy }, w⟩) (coherent_new url policy)
    rfl (Lifecycle.matches_new url policy)
  exact ⟨a, h, ha.state, ha.epoch⟩

/-- A refusal is not a whole answer: the loss belongs to it. -/
example : Lifecycle.hearAll [.events [.connecting "ws://h/ws" ⟨1⟩, .refused (.construction "no")]]
    { url := "ws://h/ws" } = none := by decide +kernel

end Link

end WebTerminal.Connection
