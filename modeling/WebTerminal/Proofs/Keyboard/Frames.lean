import WebTerminal.Keyboard.Operation
import WebTerminal.Proofs.Text.Typing

/-! # Frames and the texts in them

Whatever an encoder is given, each frame that it makes is a text, because it edits and sends whole
characters only. In raw mode the text is one character; in line mode the limit of the line bounds
it, and a character that is added can be taken back. -/

namespace WebTerminal

variable {cs : List Char} {f : Frame} {i : Input}

namespace Utf8

theorem length_encode (cs : List Char) : (encode cs).length = size cs := by
  induction cs with
  | nil => rfl
  | cons c cs ih => rw [encode_cons, List.length_append, String.length_utf8EncodeChar, ih, size]

theorem utf8ByteSize_ofList (cs : List Char) : (String.ofList cs).utf8ByteSize = size cs := by
  induction cs with
  | nil => rfl
  | cons c cs ih => simp [String.ofList_cons, size, ih]

theorem size_dropLast_le (cs : List Char) : size cs.dropLast ≤ size cs := by
  rcases cs.eq_nil_or_concat with rfl | ⟨cs, c, rfl⟩
  · exact Nat.le_refl _
  · rw [List.concat_eq_append, List.dropLast_concat, size_append]
    exact Nat.le_add_right _ _

end Utf8

namespace Frame

/-- The bytes are those of a text that is not empty. -/
def IsText (f : Frame) : Prop := f.isEmpty = false ∧ f.text?.isSome = true

theorem text?_of_bytes (h : f.bytes = Utf8.encode cs) : f.text? = some (String.ofList cs) := by
  have hutf8 : (⟨f.bytes.toArray⟩ : ByteArray) = cs.utf8Encode := by
    apply ByteArray.ext
    simp [h, List.utf8Encode, Utf8.encode]
  simp only [text?, String.fromUTF8?, hutf8]
  simp only [Option.dite_none_right_eq_some, Option.some.injEq]
  exact ⟨ByteArray.isValidUTF8_utf8Encode, rfl⟩

theorem IsText.of_bytes (h : f.bytes = Utf8.encode cs) (hcs : cs ≠ []) : f.IsText := by
  constructor
  · cases cs with
    | nil => exact absurd rfl hcs
    | cons c cs =>
      rw [isEmpty, h, Utf8.encode_cons]
      simp [String.utf8EncodeChar_ne_nil]
  · rw [text?_of_bytes h]
    rfl

theorem line_isText (cs : List Char) : (line cs Input.newline).IsText := by
  have hbytes : (line cs Input.newline).bytes = Utf8.encode (cs ++ ['\n']) := by
    simp only [line, Utf8.encode, List.flatMap_append]
    rfl
  exact .of_bytes hbytes (by simp)

end Frame

namespace Input

theorem bytes_frame_encode (i : Input) : i.frame.bytes = Utf8.encode [i.character] := by
  rw [i.bytes_frame, Utf8.encode_cons]
  exact (List.append_nil _).symm

theorem text?_frame (i : Input) : i.frame.text? = some (String.ofList [i.character]) :=
  Frame.text?_of_bytes i.bytes_frame_encode

theorem frame_isText (i : Input) : i.frame.IsText := .of_bytes i.bytes_frame_encode (by simp)

end Input

namespace Line

theorem limit_push (l : Line) (c : Char) : (l.push c).limit = l.limit := by
  unfold push
  split <;> rfl

theorem size_push_le (l : Line) (c : Char) (h : l.size ≤ l.limit) : (l.push c).size ≤ l.limit := by
  unfold push
  split
  case isTrue ha =>
    have hfits : l.size + c.utf8Size ≤ l.limit := of_decide_eq_true ha
    simpa [size, Utf8.size_append, Utf8.size] using hfits
  case isFalse => exact h

end Line

namespace Encoder

variable {e : Encoder} {l : Line} {limit : Nat}

/-! ## Single inputs -/

/-- What is sent is an input by itself or the whole line. -/
theorem encode_frame (h : (e.encode i).1 = .frame f) :
    f = i.frame ∨ f = .line e.line.chars Input.newline := by
  unfold encode at h
  split at h
  · exact .inl (Encoded.frame.inj h).symm
  · cases i with
    | char c =>
      dsimp only [encodeLine] at h
      split at h <;> cases h
    | backspace => cases h
    | submit => exact .inr (Encoded.frame.inj h).symm
    | interrupt | endOfInput | tab => exact .inl (Encoded.frame.inj h).symm

theorem encode_isText (h : (e.encode i).1 = .frame f) : f.IsText := by
  rcases encode_frame h with rfl | rfl
  · exact i.frame_isText
  · exact Frame.line_isText _

/-- A control is one byte, and so is the end of a line. -/
theorem size_encodeLine_le (h : (encodeLine l i).1 = .frame f) : f.size ≤ l.size + 1 := by
  cases i with
  | char c =>
    dsimp only [encodeLine] at h
    split at h <;> cases h
  | backspace => cases h
  | submit =>
    obtain rfl := Encoded.frame.inj h
    simp [Frame.size, Frame.line, Utf8.length_encode, Line.size]
  | interrupt | endOfInput | tab =>
    obtain rfl := Encoded.frame.inj h
    exact Nat.le_add_left 1 l.size

/-- The character is refused and nothing changes, or it is added to the line and a backspace right
after it takes away that character and no more. -/
def Takes (e : Encoder) (c : Char) : Prop :=
  e.encode (.char c) = (.refused c, e) ∨
    ∃ e', e.encode (.char c) = (.held, e') ∧ e'.pendingLine = e.pendingLine.push c ∧
      e'.line.last? = some c ∧ e'.encode .backspace = (.held, e)

theorem takes_of_line (h : e.mode = .line) (c : Char) : e.Takes c := by
  obtain ⟨mode, l⟩ := e
  obtain rfl : mode = .line := h
  cases ha : l.accepts c with
  | false =>
    left
    simp [encode, encodeLine, Line.push, ha]
  | true =>
    right
    refine ⟨⟨.line, { l with chars := l.chars ++ [c] }⟩, ?_, ?_, ?_, ?_⟩
    · simp [encode, encodeLine, Line.push, ha]
    · simp [pendingLine, Line.text, String.ofList_append]
    · simp [Line.last?]
    · simp [encode, encodeLine, Line.backspace]

/-! ## Runs -/

/-- What an operation keeps of an encoder, a run keeps. -/
theorem run_keeps {P : Encoder → Prop} (hP : ∀ {e} (o : Operation), P e → P (e.perform o).2)
    (he : P e) (os : List Operation) : P (run os e).2 := by
  induction os generalizing e with
  | nil => exact he
  | cons o os ih => exact ih (hP o he)

/-- Each answer in a run is that of an operation on an encoder the run came to. -/
theorem mem_run {P : Encoder → Prop} (hP : ∀ {e} (o : Operation), P e → P (e.perform o).2)
    (he : P e) {os : List Operation} {a : Encoded} (ha : a ∈ (run os e).1) :
    ∃ e' o, P e' ∧ a = (perform o e').1 := by
  induction os generalizing e with
  | nil => cases ha
  | cons o os ih =>
    rcases List.mem_cons.mp ha with rfl | ha
    · exact ⟨e, o, he, rfl⟩
    · exact ih (hP o he) ha

theorem frame_of_perform {o : Operation} (h : (e.perform o).1 = .frame f) :
    ∃ i, (e.encode i).1 = .frame f := by
  cases o with
  | encode i => exact ⟨i, h⟩
  | clearLine => cases h

/-- What raw mode makes of an operation. -/
def Operation.raw : Operation → Encoded
  | encode i => .frame i.frame
  | clearLine => .held

theorem run_ofMode_raw (limit : Nat) (os : List Operation) :
    run os (.ofMode .raw limit) = (os.map Operation.raw, .ofMode .raw limit) := by
  induction os with
  | nil => rfl
  | cons o os ih =>
    have ho : perform o (.ofMode .raw limit) = (o.raw, .ofMode .raw limit) := by cases o <;> rfl
    rw [run, ho, ih]
    rfl

/-- In line mode, with a line that keeps to the limit. -/
structure Within (limit : Nat) (e : Encoder) : Prop where
  mode_eq : e.mode = .line
  limit_eq : e.line.limit = limit
  size_le : e.line.size ≤ limit

theorem Within.perform (h : Within limit e) (o : Operation) : Within limit (e.perform o).2 := by
  obtain ⟨mode, l⟩ := e
  obtain ⟨rfl : mode = .line, hl : l.limit = limit, hs⟩ := h
  have hclear : Within limit ⟨.line, l.clear⟩ := ⟨rfl, hl, limit.zero_le⟩
  cases o with
  | clearLine => exact hclear
  | encode i =>
    cases i with
    | char c =>
      refine ⟨rfl, (l.limit_push c).trans hl, ?_⟩
      rw [← hl] at hs ⊢
      exact l.size_push_le c hs
    | backspace => exact ⟨rfl, hl, Nat.le_trans (Utf8.size_dropLast_le l.chars) hs⟩
    | interrupt | submit => exact hclear
    | endOfInput | tab => exact ⟨rfl, hl, hs⟩

theorem within_ofMode (limit : Nat) : Within limit (.ofMode .line limit) :=
  ⟨rfl, rfl, limit.zero_le⟩

theorem within_run (h : Within limit e) (os : List Operation) : Within limit (run os e).2 :=
  run_keeps (fun o h => h.perform o) h os

theorem Within.size_frame_le (h : Within limit e) (he : (e.encode i).1 = .frame f) :
    f.size ≤ limit + 1 := by
  obtain ⟨mode, l⟩ := e
  obtain ⟨rfl : mode = .line, -, hs⟩ := h
  exact Nat.le_trans (size_encodeLine_le he) (Nat.add_le_add_right hs 1)

theorem isText_of_mem_run {os : List Operation} (h : .frame f ∈ (run os e).1) : f.IsText := by
  obtain ⟨e', o, -, ho⟩ := mem_run (P := fun _ => True) (fun _ _ => trivial) trivial h
  obtain ⟨i, hi⟩ := frame_of_perform ho.symm
  exact encode_isText hi

theorem Within.size_le_of_mem_run (h : Within limit e) {os : List Operation}
    (hf : .frame f ∈ (run os e).1) : f.size ≤ limit + 1 := by
  obtain ⟨e', o, he, ho⟩ := mem_run (fun o h => h.perform o) h hf
  obtain ⟨i, hi⟩ := frame_of_perform ho.symm
  exact he.size_frame_le hi

theorem Within.utf8ByteSize_le (h : Within limit e) : e.pendingLine.utf8ByteSize ≤ limit := by
  rw [pendingLine, Line.text, Utf8.utf8ByteSize_ofList]
  exact h.size_le

end Encoder

end WebTerminal
