import WebTerminal.Config.Basic
import WebTerminal.Proofs.Connection.Progress

/-! # What a session does to its connection

Every operation on a session is at most one operation on its connection; the rest is shown on the
screen or kept with the keyboard. So what holds along every run of a connection holds along every
run of a session. -/

namespace WebTerminal.Session.Console

variable {ω : Type}

/-- The connection and the network are left alone. -/
structure Shows (c c' : Console (Watched ω)) : Prop where
  connection : c'.session.connection = c.session.connection
  networkCalls : c'.world.networkCalls = c.world.networkCalls

variable {c c' c'' : Console (Watched ω)}

theorem Shows.trans (h : Shows c c') (h' : Shows c' c'') : Shows c c'' where
  connection := h'.connection.trans h.connection
  networkCalls := h'.networkCalls.trans h.networkCalls

theorem Shows.dials (h : Shows c c') : c'.world.dials = c.world.dials := by
  rw [Watched.dials_eq, h.networkCalls, Watched.dials_eq]

/-- What holds all along a run: the connection is coherent, and its epoch counts the attempts. -/
structure Sound (c : Console (Watched ω)) : Prop where
  coherent : Connection.Coherent c.session.connection
  paced : Connection.Paced c.session.connection c.world.dials

theorem sound_start (config : Config) (url : String) (w : ω) :
    Sound ⟨config.session url, { inner := w }⟩ :=
  ⟨Connection.coherent_new url config.policy, rfl⟩

theorem calls_noteAll [Network ω] (ns : List Notice) (c : Console (Watched ω)) :
    (c.noteAll ns).world.calls = c.world.calls := by
  show (ns.foldl (fun w n => Journal.note n w) c.world).calls = _
  generalize c.world = w
  induction ns generalizing w with
  | nil => rfl
  | cons n ns ih => exact ih (Journal.note n w)

theorem shows_noteAll [Network ω] (ns : List Notice) (c : Console (Watched ω)) :
    Shows c (c.noteAll ns) :=
  ⟨rfl, congrArg (List.filter Call.onNetwork) (calls_noteAll ns c)⟩

section Screen

variable [Screen ω]

theorem shows_append (text : String) (style : Style) (c : Console (Watched ω)) :
    Shows c (c.append text style) :=
  ⟨rfl, Watched.networkCalls_tell rfl _ _⟩

theorem shows_scrollToEnd (c : Console (Watched ω)) : Shows c c.scrollToEnd :=
  ⟨rfl, Watched.networkCalls_tell rfl _ _⟩

theorem shows_announce (style : Style) (text : String) (c : Console (Watched ω)) :
    Shows c (c.announce style text) := shows_append _ _ _

theorem shows_report (s : Status) (c : Console (Watched ω)) : Shows c (c.report s) := by
  unfold report
  split
  · exact ⟨rfl, rfl⟩
  · exact ⟨rfl, Watched.networkCalls_tell rfl _ _⟩

theorem shows_receive (chunk : Bytes) (c : Console (Watched ω)) : Shows c (c.receive chunk) := by
  have hd : Shows c (c.withDecoder (c.session.decoder.push chunk).2) := ⟨rfl, rfl⟩
  simp only [receive]
  split
  · exact hd
  · exact hd.trans ((shows_append _ _ _).trans (shows_scrollToEnd _))

theorem shows_clear (c : Console (Watched ω)) : Shows c c.clear := by
  have hc : Shows c (c.withWorld Screen.clear) := ⟨rfl, Watched.networkCalls_tell rfl _ _⟩
  exact hc.trans (shows_announce _ _ _)

variable [Network ω]

theorem shows_present (c : Console (Watched ω)) (e : Connection.Event) :
    Shows c (c.present e) := by
  cases e with
  | connecting url _ =>
    have hd : Shows c (c.withDecoder c.session.decoder.reset) := ⟨rfl, rfl⟩
    exact hd.trans (shows_announce _ _ _)
  | refused _ | failed _ => exact shows_announce _ _ _
  | connected =>
    have hf (c : Console (Watched ω)) : Shows c (c.withWorld Screen.focus) :=
      ⟨rfl, Watched.networkCalls_tell rfl _ _⟩
    exact ((shows_announce _ _ _).trans (shows_report _ _)).trans (hf _)
  | received chunk => exact shows_receive chunk c
  | closed reason =>
    cases reason with
    | network | user => exact (shows_announce _ _ _).trans (shows_report _ _)
  | retryScheduled _ _ _ =>
    exact ((shows_noteAll _ _).trans (shows_announce _ _ _)).trans (shows_report _ _)
  | exhausted _ => exact (shows_announce _ _ _).trans (shows_report _ _)

theorem shows_presentAll (es : List Connection.Event) (c : Console (Watched ω)) :
    Shows c (c.presentAll es) := by
  induction es generalizing c with
  | nil => exact ⟨rfl, rfl⟩
  | cons e es ih => exact (shows_present c e).trans (ih _)

end Screen

/-- The operation on the connection that an input comes to, if it comes to one. -/
def sent? (i : Input) (c : Console ω) : Option Connection.Operation :=
  match (c.session.encoder.encode i).1 with
  | .frame f => some (.send f)
  | .held | .refused _ => none

/-- The operation on the connection that an operation on the session comes to. -/
def linked? (o : Operation) (c : Console ω) : Option Connection.Operation :=
  match o with
  | .start => some .connect
  | .close => some .close
  | .reconnect => some .reconnect
  | .shutdown => some .shutdown
  | .clear | .append _ _ => none
  | .press k =>
    match k.action with
    | .input i => c.sent? i
    | _ => none
  | .input i => c.sent? i
  | .signal e s => some (.signal e s)
  | .retryDue e => some (.retryDue e)

/-- The connection makes the move of the operation, or rests when there is none. -/
def Moves (o? : Option Connection.Operation) (c c' : Console (Watched ω)) : Prop :=
  match o? with
  | none => Shows c c'
  | some o => ∃ answer calls,
      Connection.Move c.session.connection o answer calls c'.session.connection ∧
        c'.world.networkCalls = c.world.networkCalls ++ calls

theorem Moves.of_shows {o? : Option Connection.Operation} (h : Shows c c') (hm : Moves o? c' c'') :
    Moves o? c c'' := by
  cases o? with
  | none => exact h.trans hm
  | some o =>
    obtain ⟨answer, calls, hm, hn⟩ := hm
    rw [h.connection] at hm
    rw [h.networkCalls] at hn
    exact ⟨answer, calls, hm, hn⟩

theorem Moves.shows {o? : Option Connection.Operation} (hm : Moves o? c c') (h : Shows c' c'') :
    Moves o? c c'' := by
  cases o? with
  | none => exact Shows.trans hm h
  | some o =>
    obtain ⟨answer, calls, hm, hn⟩ := hm
    rw [← h.connection] at hm
    rw [← h.networkCalls] at hn
    exact ⟨answer, calls, hm, hn⟩

variable [Network ω]

theorem withLink_moves (o : Connection.Operation) (c : Console (Watched ω)) :
    Moves (some o) c (c.withLink (c.link.perform o).2) := by
  obtain ⟨calls, hm, hmade⟩ := c.link.perform_moves o
  exact ⟨_, calls, hm, Watched.networkCalls_of_made hmade⟩

variable [Screen ω]

theorem send_moves (f : Frame) (c : Console (Watched ω)) :
    Moves (some (.send f)) c (c.send f).2 := by
  have hm := withLink_moves (.send f) c
  simp only [Connection.Link.perform] at hm
  unfold send
  dsimp only
  cases (c.link.send f).1 with
  | sent | dropped => exact hm
  | failed error => exact hm.shows (shows_announce _ _ _)

theorem input_moves (i : Input) (c : Console (Watched ω)) : Moves (c.sent? i) c (c.input i).2 := by
  have hs : Shows c ((c.noteAll ((c.session.encoder.encode i).1.notices
      c.session.encoder.line)).withEncoder (c.session.encoder.encode i).2) :=
    (shows_noteAll _ c).trans ⟨rfl, rfl⟩
  simp only [input, sent?]
  generalize (c.session.encoder.encode i).1 = encoded at hs ⊢
  cases encoded with
  | frame f => exact .of_shows hs (send_moves f _)
  | held | refused _ => exact hs

theorem perform_moves (o : Operation) (c : Console (Watched ω)) :
    Moves (c.linked? o) c (c.perform o).2 := by
  have acts (o : Connection.Operation) (c : Console (Watched ω)) (es : List Connection.Event) :
      Moves (some o) c ((c.withLink (c.link.perform o).2).presentAll es) :=
    (withLink_moves o c).shows (shows_presentAll es _)
  cases o with
  | start => exact .of_shows (shows_report _ c) (acts .connect _ _)
  | close => exact acts .close c _
  | reconnect => exact acts .reconnect c _
  | shutdown => exact (withLink_moves .shutdown c).shows ⟨rfl, rfl⟩
  | clear => exact shows_clear c
  | press k =>
    simp only [perform, press, linked?]
    cases k.action with
    | input i => exact (input_moves i c).shows (shows_scrollToEnd _)
    | _ => exact ⟨rfl, rfl⟩
  | input i => exact input_moves i c
  | append text style => exact shows_append text style c
  | signal e s => exact acts (.signal e s) c _
  | retryDue e => exact acts (.retryDue e) c _

theorem moves_or_shows (o : Operation) (c : Console (Watched ω)) :
    Shows c (c.perform o).2 ∨ ∃ o' answer calls,
      Connection.Move c.session.connection o' answer calls (c.perform o).2.session.connection ∧
        (c.perform o).2.world.dials = c.world.dials + calls.countP Call.isDial := by
  have hm := perform_moves o c
  cases ho : c.linked? o with
  | none =>
    rw [ho] at hm
    exact .inl hm
  | some o' =>
    rw [ho] at hm
    obtain ⟨answer, calls, hm, hn⟩ := hm
    refine .inr ⟨o', answer, calls, hm, ?_⟩
    rw [Watched.dials_eq, hn, List.countP_append, Watched.dials_eq]

/-! ## Along a run -/

theorem run_append (os os' : List Operation) (c : Console ω) :
    run (os ++ os') c =
      ((run os c).1 ++ (run os' (run os c).2).1, (run os' (run os c).2).2) := by
  induction os generalizing c with
  | nil => rfl
  | cons o os ih => simp only [List.cons_append, run, ih]

theorem length_run (os : List Operation) (c : Console ω) : (run os c).1.length = os.length := by
  induction os generalizing c with
  | nil => rfl
  | cons o os ih => simp only [run, List.length_cons, ih]

/-- What every operation keeps, a run keeps. -/
theorem run_keeps {P : Console ω → Prop} (hP : ∀ o c, P c → P (c.perform o).2)
    (os : List Operation) {c : Console ω} (h : P c) : P (run os c).2 := by
  induction os generalizing c with
  | nil => exact h
  | cons o os ih => exact ih (hP o c h)

theorem dials_le_perform (o : Operation) (c : Console (Watched ω)) :
    c.world.dials ≤ (c.perform o).2.world.dials := by
  rcases moves_or_shows o c with h | ⟨_, _, _, _, hd⟩
  · exact Nat.le_of_eq h.dials.symm
  · rw [hd]
    exact Nat.le_add_right _ _

theorem dials_le_run (os : List Operation) (c : Console (Watched ω)) :
    c.world.dials ≤ (run os c).2.world.dials := by
  induction os generalizing c with
  | nil => exact Nat.le_refl _
  | cons o os ih => exact Nat.le_trans (dials_le_perform o c) (ih _)

theorem sound_perform (o : Operation) (h : Sound c) : Sound (c.perform o).2 := by
  rcases moves_or_shows o c with hs | ⟨_, _, _, hm, hd⟩
  · constructor
    · rw [hs.connection]
      exact h.coherent
    · rw [hs.connection, hs.dials]
      exact h.paced
  · constructor
    · exact hm.coherent h.coherent
    · rw [hd]
      exact hm.paced h.paced

theorem sound_run (os : List Operation) (h : Sound c) : Sound (run os c).2 :=
  run_keeps (fun o _ hc => sound_perform o hc) os h

end WebTerminal.Session.Console
