import WebTerminal.Proofs.Browser.Likeness
import WebTerminal.Proofs.Keyboard.Frames
import WebTerminal.Proofs.Session.Sending

/-! # Texts on the wire

Whatever happens in a browser, no socket is ever sent anything but texts: a session offers the
network only frames that its encoder has made, and those are texts. -/

namespace WebTerminal

open Session (Console)

/-- Only sending offers a frame to a socket, and only the frame that is sent. -/
theorem Connection.Move.eq_send {c c' : Connection} {o : Connection.Operation}
    {a : Connection.Answer} {calls : List Call} (h : Connection.Move c o a calls c')
    {s : SocketId} {f : Frame} {r : Except TransportError Unit} (ht : .transmit s f r ∈ calls) :
    o = .send f := by
  cases ho : o.frame? with
  | none => exact absurd rfl (List.any_eq_false.mp (h.any_isTransmit ho) _ ht)
  | some f' =>
    obtain rfl := Connection.Operation.frame_eq_some_iff.mp ho
    cases h with
    | dropped => cases ht
    | sent | unsent =>
      obtain ⟨⟩ := List.mem_singleton.mp ht
      rfl

/-- If a call offers a frame to a socket, the frame is a text. -/
def Call.IsTextual : Call → Prop
  | transmit _ f _ => f.IsText
  | _ => True

/-- Where every frame that is sent is a text, so is every frame that is offered to a socket. -/
theorem Connection.Move.isTextual {c c' : Connection} {o : Connection.Operation}
    {a : Connection.Answer} {calls : List Call} (h : Connection.Move c o a calls c')
    (ho : ∀ f, o = .send f → f.IsText) : ∀ call ∈ calls, call.IsTextual := by
  intro call hc
  cases call with
  | transmit s f r => exact ho f (h.eq_send hc)
  | _ => trivial

theorem Session.Operation.typed_isText {o : Session.Operation} {e : Encoder} {f : Frame}
    (h : o.typed? e = some f) : f.IsText := by
  obtain ⟨i, -, hi⟩ := Option.bind_eq_some_iff.mp h
  apply Encoder.encode_isText (e := e) (i := i)
  generalize (e.encode i).1 = encoded at hi ⊢
  cases encoded with
  | frame f => exact congrArg Encoded.frame (Option.some.inj hi)
  | held | refused _ => cases hi

namespace Browser

def Call.isBinary : Call → Bool
  | .sendBinary _ _ => true
  | _ => false

namespace Page

/-- The frames that were sent as bytes. -/
def binaries (p : Page) : List Call := p.calls.filter Call.isBinary

variable {p p' : Page}

theorem binaries_record {c : Call} (hc : c.isBinary = false) (p : Page) :
    (p.record c).binaries = p.binaries := by
  simp [binaries, record, hc]

theorem binaries_whim (p : Page) : p.whim.2.binaries = p.binaries := by
  unfold whim
  split <;> rfl

theorem binaries_focus (h : p.focus = .ok p') : p'.binaries = p.binaries := by
  unfold focus at h
  split at h
  · cases h
  · cases h
    exact binaries_record rfl p

theorem unshown_binaries : Console.Unshown binaries where
  showing hf p := by
    cases hf with
    | append text style =>
      change (p.append text style).binaries = _
      rw [← binaries_whim p]
      unfold append
      dsimp only
      split
      · rfl
      · rfl
      · exact binaries_record rfl _
    | focus =>
      simp only [Screen.focus]
      split
      · rename_i h
        exact binaries_focus h
      · rfl
    | note => rfl
    | clear | scrollToEnd => exact binaries_record rfl _
  report s p := by
    change (p.report s).binaries = _
    unfold report setText
    rw [binaries_record rfl]
    change (p.indicate s.isConnected).binaries = _
    rw [← binaries_whim p]
    unfold indicate
    dsimp only
    split <;> rfl

theorem binaries_transmit {f : Frame} (hf : f.IsText) (s : SocketId) (p : Page) :
    (p.transmit s f).2.binaries = p.binaries := by
  have hecho (p : Page) : (p.echo s).binaries = p.binaries := by
    unfold echo
    split <;> rfl
  obtain ⟨text, ht⟩ := Option.isSome_iff_exists.mp hf.2
  unfold transmit
  split
  · rfl
  · rw [hecho, ht]
    exact binaries_record rfl p

theorem binaries_of_made {calls : List WebTerminal.Call} (h : Made p calls p')
    (hc : ∀ call ∈ calls, call.IsTextual) : p'.binaries = p.binaries := by
  induction h with
  | nil => rfl
  | note _ _ ih => exact ih hc
  | release _ ih => exact ih (List.forall_mem_cons.mp hc).2
  | @dial p _ _ url e _ hr _ ih =>
    subst hr
    rw [ih (List.forall_mem_cons.mp hc).2]
    change (p.dial url e).2.binaries = _
    unfold dial
    split
    · rfl
    · exact (binaries_record rfl _).trans (binaries_record rfl _)
  | @transmit p _ _ s f _ hr _ ih =>
    subst hr
    obtain ⟨hf, hcalls⟩ := List.forall_mem_cons.mp hc
    rw [ih hcalls]
    exact binaries_transmit hf s p
  | @hangUp p _ _ s _ ih =>
    rw [ih (List.forall_mem_cons.mp hc).2]
    change (p.hangUp s).binaries = _
    unfold hangUp
    dsimp only
    split <;> exact binaries_record rfl _
  | schedule hr _ ih =>
    subst hr
    rw [ih (List.forall_mem_cons.mp hc).2]
    exact binaries_record rfl _
  | @cancel p _ _ t _ ih =>
    rw [ih (List.forall_mem_cons.mp hc).2]
    change (p.cancel t).binaries = _
    unfold cancel
    split
    · exact binaries_record rfl _
    · rfl

/-- What a session does to its page sends no bytes. -/
theorem binaries_perform (o : Session.Operation) (k : Console Page) :
    (k.perform o).2.world.binaries = k.world.binaries := by
  obtain ⟨l, -, hl, -, hl'⟩ := Console.perform_link unshown_binaries o k
  rw [hl', ← hl]
  cases hk : k.linked? o with
  | none => rfl
  | some c =>
    obtain ⟨calls, hm, hmade⟩ := l.perform_moves c
    refine binaries_of_made hmade (hm.isTextual ?_)
    rintro f rfl
    exact Session.Operation.typed_isText ((Console.linked_send_iff o k f).mp hk)

/-- A page with these binaries is like itself. -/
theorem sameBinaries_respects (bs : List Call) :
    Page.Respects fun p p' => p = p' ∧ p.binaries = bs where
  perform o k k' h := by
    obtain ⟨s, rfl, hb⟩ := h
    exact .same _ ⟨_, rfl, (binaries_perform o _).trans hb⟩
  note n p p' h := ⟨congrArg (Page.note n) h.1, h.2⟩
  setText id s p p' h := by
    obtain ⟨rfl, hb⟩ := h
    exact ⟨rfl, (binaries_record rfl _).trans hb⟩
  focus c p p' h := by
    obtain ⟨rfl, hb⟩ := h
    refine ⟨rfl, ?_⟩
    unfold Terminal.focus
    split
    · exact hb
    · split
      · exact hb
      · rename_i hf
        exact (binaries_focus hf).trans hb
  clicked c? p p' h := by
    obtain ⟨rfl, hb⟩ := h
    refine ⟨rfl, ?_⟩
    unfold Browser.clicked
    dsimp only
    split
    · rename_i hf
      exact (binaries_focus hf).trans hb
    · exact hb
  throws binding p p' h := congrArg (Page.throws · binding.hazard) h.1
  bound binding p p' h := by
    obtain ⟨rfl, hb⟩ := h
    have hcall : binding.call.isBinary = false := by cases binding <;> rfl
    exact ⟨rfl, (binaries_record hcall p).trans hb⟩
  unlisten l p p' h := by
    obtain ⟨rfl, hb⟩ := h
    exact ⟨rfl, (binaries_record rfl _).trans hb⟩
  prepare config? p p' h := congrArg (Client.prepare config?) h.1
  present id p p' h := congrArg (fun p : Page => (p.find? id).isSome) h.1
  listenersTo target? p p' h := congrArg (Page.listenersTo · target?) h.1
  sockets h := congrArg Page.sockets h.1
  timers h := congrArg Page.timers h.1
  withTimers ts p p' h := by
    obtain ⟨rfl, hb⟩ := h
    exact ⟨rfl, hb⟩
  setThrow hazard v? p p' h := ⟨congrArg (Page.setThrow hazard v?) h.1, h.2⟩
  setEcho text? p p' h := by
    obtain ⟨rfl, hb⟩ := h
    exact ⟨rfl, hb⟩
  remove id p p' h := ⟨congrArg (Page.remove id) h.1, h.2⟩

end Page

/-- No run sends bytes. -/
theorem binaries_run (p : Page) (ss : List Step) :
    (run ss { page := p }).2.page.binaries = p.binaries := by
  have hl : Like (fun q q' => q = q' ∧ q.binaries = p.binaries) { page := p } { page := p } :=
    ⟨rfl, rfl, rfl⟩
  exact (hl.run (Page.sameBinaries_respects p.binaries) ss).2.page.2

/-- Whatever is asked of an encoder, every frame that it makes is a text, and no run of a browser
sends anything else. In raw mode each input is sent at once, as one character, and no line is kept.
In line mode the line keeps to the limit, a frame exceeds that by no more than its end, and a
character is refused or can be taken back. -/
theorem run_isText (limit : Nat) (os : List Encoder.Operation) (p : Page) (ss : List Step) :
    (∀ mode f, .frame f ∈ (Encoder.run os (.ofMode mode limit)).1 → f.IsText) ∧
    (run ss { page := p }).2.page.binaries = p.binaries ∧
    (let raw := Encoder.run os (.ofMode .raw limit)
     raw.1 = os.map Encoder.Operation.raw ∧ raw.2.pendingLine = "" ∧
       ∀ i : Input, ∃ c, i.frame.text? = some (String.ofList [c])) ∧
    let line := Encoder.run os (.ofMode .line limit)
    line.2.pendingLine.utf8ByteSize ≤ limit ∧ (∀ f, .frame f ∈ line.1 → f.size ≤ limit + 1) ∧
      ∀ c, line.2.Takes c := by
  refine ⟨fun mode f hf => Encoder.isText_of_mem_run hf, binaries_run p ss, ?_, ?_⟩
  · rw [Encoder.run_ofMode_raw]
    exact ⟨rfl, rfl, fun i => ⟨i.character, i.text?_frame⟩⟩
  · have hnew := Encoder.within_ofMode limit
    have hline := Encoder.within_run hnew os
    exact ⟨hline.utf8ByteSize_le, fun f hf => hnew.size_le_of_mem_run hf,
      Encoder.takes_of_line hline.mode_eq⟩

/-- A character without room may be followed by a shorter one that has some. -/
example :
    let os : List Encoder.Operation :=
      [.encode (.char 'é'), .encode (.char '日'), .encode (.char 'x'), .encode .submit]
    (Encoder.run os (.ofMode .line 4)).1 =
      [.held, .refused '日', .held, .frame ⟨[0xC3, 0xA9, 0x78, 0x0A]⟩] := by
  decide

end Browser

end WebTerminal
