import Mathlib.Data.List.DropRight
import WebTerminal.Keyboard.Operation
import WebTerminal.Proofs.Text.Typing

/-! # The characters that survive

Which characters of a line are sent when it is submitted can be read off what was typed, from the
end back: a backspace takes away the last character before it that is still there, and nothing from
before the line was last discarded counts. In line mode a line that is submitted goes out as the
frames that raw mode makes of those characters, put together. -/

namespace WebTerminal.Encoder

/-- What is left of the characters in a history, the latest operation first, when that many more of
them are erased. A character that had no room was never there. -/
def left (limit : Nat) : List Operation → (erased : Nat) → List Char
  | [], _ => []
  | .encode (.char c) :: h, n =>
    if Utf8.size (left limit h 0) + c.utf8Size ≤ limit then
      match n with
      | 0 => left limit h 0 ++ [c]
      | n + 1 => left limit h n
    else left limit h n
  | .encode .backspace :: h, n => left limit h (n + 1)
  | .encode .tab :: h, n | .encode .endOfInput :: h, n => left limit h n
  | .encode .submit :: _, _ | .encode .interrupt :: _, _ | .clearLine :: _, _ => []

/-- The characters that survive the operations, in the order they were typed. -/
def survivors (limit : Nat) (os : List Operation) : List Char := left limit os.reverse 0

/-- What line mode has to make of an operation when these characters have survived. -/
def Operation.due (limit : Nat) (cs : List Char) : Operation → Encoded
  | .encode (.char c) => if Utf8.size cs + c.utf8Size ≤ limit then .held else .refused c
  | .encode .backspace | .clearLine => .held
  | .encode .submit =>
    .frame ⟨cs.flatMap (fun c => (Input.char c).frame.bytes) ++ Input.submit.frame.bytes⟩
  | .encode .tab => .frame Input.tab.frame
  | .encode .endOfInput => .frame Input.endOfInput.frame
  | .encode .interrupt => .frame Input.interrupt.frame

variable {limit : Nat}

/-! ## Survivors, operation by operation -/

/-- To be erased is to be taken from the end. -/
theorem left_eq_rdrop (h : List Operation) (n : Nat) :
    left limit h n = (left limit h 0).rdrop n := by
  induction h generalizing n with
  | nil => simp [left]
  | cons o h ih =>
    cases o with
    | clearLine => simp [left]
    | encode i =>
      cases i with
      | submit | interrupt => simp [left]
      | tab | endOfInput =>
        simp only [left]
        exact ih n
      | backspace =>
        -- one more is erased of what came before, and taking twice from the end adds up
        simp only [left]
        rw [ih, ih (0 + 1)]
        simp only [List.rdrop, List.take_take, List.length_take]
        congr 1
        omega
      | char c =>
        simp only [left]
        split
        · cases n with
          | zero => simp
          | succ n =>
            rw [List.rdrop_concat_succ]
            exact ih n
        · exact ih n

theorem survivors_concat (os : List Operation) (o : Operation) :
    survivors limit (os ++ [o]) = left limit (o :: os.reverse) 0 := by
  rw [survivors, List.reverse_append, List.reverse_singleton, List.singleton_append]

/-- A character is added if there is room for it beside the survivors. -/
theorem survivors_char (os : List Operation) (c : Char) :
    survivors limit (os ++ [.encode (.char c)]) =
      if Utf8.size (survivors limit os) + c.utf8Size ≤ limit then survivors limit os ++ [c]
      else survivors limit os := by
  rw [survivors_concat, left]
  rfl

/-- A backspace removes the last survivor, if there is one. -/
theorem survivors_backspace (os : List Operation) :
    survivors limit (os ++ [.encode .backspace]) = (survivors limit os).dropLast := by
  rw [survivors_concat, left, left_eq_rdrop, List.rdrop, List.dropLast_eq_take]
  rfl

/-! ## Runs in line mode -/

theorem run_append (os os' : List Operation) (e : Encoder) :
    run (os ++ os') e = ((run os e).1 ++ (run os' (run os e).2).1, (run os' (run os e).2).2) := by
  induction os generalizing e with
  | nil => rfl
  | cons o os ih => simp only [List.cons_append, run, ih]

theorem length_run (os : List Operation) (e : Encoder) : (run os e).1.length = os.length := by
  induction os generalizing e with
  | nil => rfl
  | cons o os ih => simp only [run, List.length_cons, ih]

theorem line_bytes (cs : List Char) : Frame.line cs Input.newline =
    ⟨cs.flatMap (fun c => (Input.char c).frame.bytes) ++ Input.submit.frame.bytes⟩ := by
  simp only [Frame.line, Utf8.encode, Input.bytes_frame, Input.character]
  rfl

/-- The line of an encoder holds the survivors, and an operation does with them what it has to. -/
theorem perform_due (os : List Operation) (o : Operation) :
    perform o ⟨.line, limit, survivors limit os⟩ =
      (o.due limit (survivors limit os), ⟨.line, limit, survivors limit (os ++ [o])⟩) := by
  cases o with
  | clearLine =>
    rw [survivors_concat]
    rfl
  | encode i =>
    cases i with
    | interrupt | tab | endOfInput =>
      rw [survivors_concat]
      rfl
    | submit =>
      rw [survivors_concat, Operation.due, ← line_bytes]
      rfl
    | backspace =>
      rw [survivors_backspace]
      rfl
    | char c =>
      rw [survivors_char]
      by_cases hfits : Utf8.size (survivors limit os) + c.utf8Size ≤ limit
      · simp [perform, encode, encodeLine, Line.push, Line.accepts, Line.size, Operation.due, hfits]
      · simp [perform, encode, encodeLine, Line.push, Line.accepts, Line.size, Operation.due, hfits]

theorem run_ofMode_line (limit : Nat) (os : List Operation) :
    (run os (.ofMode .line limit)).2 = ⟨.line, limit, survivors limit os⟩ := by
  induction os using List.reverseRecOn with
  | nil => rfl
  | append_singleton os o ih =>
    rw [run_append, ih]
    simp only [run, perform_due]

/-- Wherever an operation stands in a run in line mode, what becomes of it and the line that is
pending are told by the characters that survive of those before. -/
theorem run_line_due (limit : Nat) (before after : List Operation) (o : Operation) :
    let e := Encoder.ofMode .line limit
    (run (before ++ o :: after) e).1[before.length]? = some (o.due limit (survivors limit before)) ∧
      (run before e).2.pendingLine = String.ofList (survivors limit before) := by
  intro e
  have hline := run_ofMode_line limit before
  constructor
  · rw [run_append, List.getElem?_append_right (Nat.le_of_eq (length_run before e)), hline]
    simp only [run, perform_due, length_run, Nat.sub_self, List.getElem?_cons_zero]
  · rw [hline]
    rfl

/-- The second character finds no room, so the first backspace erases the character before it. -/
example :
    let os : List Operation :=
      [.encode (.char 'a'), .encode (.char 'é'), .encode .backspace, .encode .backspace,
        .encode (.char 'é'), .encode .tab]
    survivors 2 os = ['é'] ∧ (Operation.encode .submit).due 2 (survivors 2 os) =
      .frame ⟨[0xC3, 0xA9, 0x0A]⟩ := by decide

end WebTerminal.Encoder
