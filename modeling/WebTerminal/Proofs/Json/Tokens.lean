import WebTerminal.Json.Reader
import WebTerminal.Proofs.Json.Grammar

/-! # Readers and tokens

A reader in front of a token that it takes yields what the token means and stops right after it.
Where the token may mean nothing, as with half of a pair of surrogates, or may mean something else
than is wanted, it is still so that a reader that does not fail stops right after the token. -/

namespace WebTerminal.Json

@[simp] theorem ok_bind {ε α β : Type} {a : α} {f : α → Except ε β} : (.ok a >>= f) = f a := rfl

theorem bind_eq_ok {ε α β : Type} {x : Except ε α} {f : α → Except ε β} {b : β} :
    (x >>= f) = .ok b ↔ ∃ a, x = .ok a ∧ f a = .ok b := by
  cases x <;> simp [bind, Except.bind]

/-! ## White space -/

theorem isBlank_iff {c : Char} : isBlank c ↔ c = ' ' ∨ c = '\n' ∨ c = '\t' ∨ c = '\r' := by
  simp [isBlank, or_assoc]

theorem skipBlanks_append {b : List Char} (h : Blanks b) (s : List Char) :
    skipBlanks (b ++ s) = skipBlanks s :=
  List.dropWhile_append_of_pos fun c hc => isBlank_iff.mpr (h c hc)

theorem skipBlanks_cons {c : Char} (h : isBlank c = false) (s : List Char) :
    skipBlanks (c :: s) = c :: s :=
  List.dropWhile_cons_of_neg (by simp [h])

theorem skipBlanks_before {b : List Char} (h : Blanks b) {c : Char} (hc : isBlank c = false)
    (s : List Char) : skipBlanks (b ++ c :: s) = c :: s := by
  rw [skipBlanks_append h, skipBlanks_cons hc]

theorem skipBlanks_blanks {b : List Char} (h : Blanks b) : skipBlanks b = [] := by
  simpa [skipBlanks] using skipBlanks_append h []

theorem toValue_append {b : List Char} (h : Blanks b) (s : List Char) :
    toValue (b ++ s) = toValue s := by
  simp only [toValue, skipBlanks_append h]

theorem toValue_cons {c : Char} (h : isBlank c = false) (s : List Char) :
    toValue (c :: s) = .ok (c :: s) := by
  simp [toValue, skipBlanks_cons h]

theorem readColon_append {a : List Char} (h : Blanks a) (s : List Char) :
    readColon (a ++ ':' :: s) = .ok s := by
  simp (disch := decide) only [readColon, skipBlanks_before h]

/-! ## Texts -/

theorem hexDigit?_eq {c : Char} {n : Nat} (h : HexDigit c n) : hexDigit? c = some n := by
  obtain ⟨hn, rfl | rfl⟩ := h
  · decide +revert
  · decide +revert

theorem readHex_append {w : List Char} {n : Nat} (h : Unit16 w n) (s : List Char) :
    readHex (w ++ s) = .ok (n, s) := by
  cases h with
  | intro ha hb hc hd =>
    simp [readHex, hexValue?, hexDigit?_eq ha, hexDigit?_eq hb, hexDigit?_eq hc, hexDigit?_eq hd]

theorem mem_shortEscapes {e c : Char} (h : (e, c) ∈ shortEscapes) :
    e ≠ 'u' ∧ shortEscape? e = some c := by
  simp only [shortEscapes, List.mem_cons, Prod.mk.injEq, List.not_mem_nil, or_false] at h
  rcases h with ⟨rfl, rfl⟩ | ⟨rfl, rfl⟩ | ⟨rfl, rfl⟩ | ⟨rfl, rfl⟩ | ⟨rfl, rfl⟩ | ⟨rfl, rfl⟩ |
    ⟨rfl, rfl⟩ | ⟨rfl, rfl⟩ <;> decide

theorem readEscape_short {e c : Char} (h : (e, c) ∈ shortEscapes) (s : List Char) :
    readEscape (e :: s) = .ok (c, s) := by
  obtain ⟨hu, he⟩ := mem_shortEscapes h
  rw [readEscape, he]
  exact hu

theorem toNat_valid (c : Char) : c.toNat < 0xD800 ∨ 0xE000 ≤ c.toNat ∧ c.toNat < 0x110000 := c.valid

theorem readCodePoint_code {c : Char} {w : List Char} (h : Unit16 w c.toNat) (s : List Char) :
    readCodePoint (w ++ s) = .ok (c, s) := by
  have := toNat_valid c
  have low : ¬ (0xDC00 ≤ c.toNat ∧ c.toNat < 0xE000) := by omega
  have high : ¬ (0xD800 ≤ c.toNat ∧ c.toNat < 0xDC00) := by omega
  simp only [readCodePoint, readHex_append h, bind, Except.bind, if_neg low, if_neg high,
    Char.ofNat_toNat]

theorem readCodePoint_pair {m n : Nat} {high low : List Char} (hm : m < 0x400) (hn : n < 0x400)
    (h : Unit16 high (0xD800 + m)) (h' : Unit16 low (0xDC00 + n)) (s : List Char) :
    readCodePoint (high ++ ('\\' :: 'u' :: (low ++ s))) =
      .ok (Char.ofNat (m * 0x400 + n + 0x10000), s) := by
  have first : ¬ (0xDC00 ≤ 0xD800 + m ∧ 0xD800 + m < 0xE000) := by omega
  have leads : 0xD800 ≤ 0xD800 + m ∧ 0xD800 + m < 0xDC00 := by omega
  have trails : 0xDC00 ≤ 0xDC00 + n ∧ 0xDC00 + n < 0xE000 := by omega
  simp only [readCodePoint, readHex_append h, readHex_append h', readBetween, bind, Except.bind,
    if_neg first, if_pos leads, if_pos trails, if_true, Nat.add_sub_cancel_left]

theorem readText_plain {c : Char} (h : Plain c) (s : List Char) :
    readText (c :: s) = (readText s).map fun (cs, r) => (c :: cs, r) := by
  have printable : ¬ c.toNat < 0x20 := Nat.not_lt.mpr h.1
  rw [readText, if_neg printable]
  · exact h.2.1
  · exact h.2.2

theorem readText_backslash (s : List Char) : readText ('\\' :: s) =
    (readEscape s).bind fun (c, r) => (readText r).map fun (cs, r) => (c :: cs, r) := by
  rw [readText]
  split <;> simp_all [Except.bind]

theorem readText_escape {c : Char} {s r : List Char} (h : readEscape s = .ok (c, r)) :
    readText ('\\' :: s) = (readText r).map fun (cs, r) => (c :: cs, r) := by
  simp [readText_backslash, h, Except.bind]

theorem readText_spelled {c : Char} {w : List Char} (h : Spelled c w) (s : List Char) :
    readText (w ++ s) = (readText s).map fun (cs, r) => (c :: cs, r) := by
  cases h with
  | plain h => exact readText_plain h s
  | short h => exact readText_escape (readEscape_short h s)
  | code h => exact readText_escape (readCodePoint_code h s)
  | pair hc high low =>
    have := toNat_valid c
    have code := readCodePoint_pair (by omega) (Nat.mod_lt _ (by decide)) high low s
    rw [Nat.div_add_mod', Nat.sub_add_cancel hc, Char.ofNat_toNat] at code
    exact readText_escape (by simpa [readEscape] using code)

theorem readText_spellings {cs : List Char} {ws : List (List Char)}
    (h : List.Forall₂ Spelled cs ws) (s : List Char) :
    readText (ws.flatten ++ '"' :: s) = .ok (cs, s) := by
  induction h with
  | nil => simp [readText]
  | cons h _ ih => simp [readText_spelled h, ih, Except.map]

/-- A text of plain characters is its own spelling. -/
theorem literal_of_plain {cs : List Char} (h : ∀ c ∈ cs, Plain c) :
    Literal cs ('"' :: (cs ++ ['"'])) := by
  refine ⟨cs.map fun c => [c], ?_, by simp [← List.flatMap_def]⟩
  exact List.forall₂_map_right_iff.mpr (List.forall₂_same.mpr fun c hc => .plain (h c hc))

theorem Literal.readText {cs v : List Char} (h : Literal cs v) :
    ∃ w, v = '"' :: w ∧ ∀ s, readText (w ++ s) = .ok (cs, s) := by
  obtain ⟨ws, h, rfl⟩ := h
  exact ⟨_, rfl, fun s => by simpa using readText_spellings h s⟩

/-- An escape takes one mark, or the two of a pair of surrogates. -/
theorem readCodePoint_marks {n : Nat} {w s r : List Char} {ws : List (List Char)} {c : Char}
    (hw : Unit16 w n) (h : ∀ w ∈ ws, Mark w)
    (hr : readCodePoint (w ++ (ws.flatten ++ '"' :: s)) = .ok (c, r)) :
    ∃ ws', ws' <:+ ws ∧ r = ws'.flatten ++ '"' :: s := by
  simp only [readCodePoint, readHex_append hw, bind, Except.bind] at hr
  split at hr
  · simp [failAt] at hr
  split at hr
  · cases ws with
    | nil => simp [readBetween, failPast] at hr
    | cons m ws =>
      refine ⟨ws, List.suffix_cons m ws, ?_⟩
      cases h m (by simp) with
      | plain hc => simp [readBetween, failPast, hc.2.2] at hr
      | short he => simp [readBetween, failPast, (mem_shortEscapes he).1] at hr
      | code hm =>
        simp only [List.flatten_cons, List.cons_append, List.append_assoc, readBetween, if_true,
          readHex_append hm] at hr
        split at hr
        · simp_all
        · simp [failAt] at hr
  · exact ⟨ws, List.suffix_rfl, by simp_all⟩

theorem readText_marks {ws : List (List Char)} (h : ∀ w ∈ ws, Mark w) {s cs r : List Char}
    (hr : readText (ws.flatten ++ '"' :: s) = .ok (cs, r)) : r = s := by
  -- An escape may take two marks, so the induction is on how many there are.
  induction hn : ws.length using Nat.strongRecOn generalizing ws cs with
  | _ n ih =>
    have rest {ws' : List (List Char)} {c : Char} (hs : ws' <:+ ws) (hl : ws'.length < n)
        (hr : (readText (ws'.flatten ++ '"' :: s)).map (fun (cs, r) => (c :: cs, r)) =
          .ok (cs, r)) : r = s := by
      cases h₁ : readText (ws'.flatten ++ '"' :: s) with
      | error => simp [h₁, Except.map] at hr
      | ok p =>
        obtain ⟨-, rfl⟩ : _ ∧ p.2 = r := by simpa [h₁, Except.map] using hr
        exact ih _ hl (fun w hw => h w (hs.subset hw)) h₁ rfl
    cases ws with
    | nil => simp_all [readText]
    | cons w ws =>
      have hs : ws <:+ w :: ws := List.suffix_cons w ws
      have hl : ws.length < n := by simp [← hn]
      cases h w (by simp) with
      | plain hc => exact rest hs hl (by simpa [readText_plain hc] using hr)
      | short he => exact rest hs hl (by simpa [readText_escape (readEscape_short he _)] using hr)
      | @code w _ hw =>
        cases h₁ : readEscape ('u' :: (w ++ (ws.flatten ++ '"' :: s))) with
        | error => simp [readText_backslash, h₁, Except.bind] at hr
        | ok p =>
          obtain ⟨c, t⟩ := p
          obtain ⟨ws', hs', rfl⟩ := readCodePoint_marks hw (fun w hw => h w (by simp [hw])) h₁
          exact rest (hs'.trans hs) (Nat.lt_of_le_of_lt hs'.length_le hl)
            (by simpa [readText_escape h₁] using hr)

theorem Quoted.readText {v : List Char} (h : Quoted v) :
    ∃ w, v = '"' :: w ∧ ∀ {s cs r}, readText (w ++ s) = .ok (cs, r) → r = s := by
  obtain ⟨ws, h, rfl⟩ := h
  exact ⟨_, rfl, fun hr => readText_marks h (by simpa using hr)⟩

/-- A pair of surrogates is two marks. -/
theorem Spelled.marks {c : Char} {w : List Char} (h : Spelled c w) :
    ∃ ws : List (List Char), (∀ w ∈ ws, Mark w) ∧ ws.flatten = w := by
  cases h with
  | plain h => exact ⟨[[_]], by simpa using .plain h, rfl⟩
  | short h => exact ⟨[['\\', _]], by simpa using .short h, rfl⟩
  | @code _ w h => exact ⟨['\\' :: 'u' :: w], by simpa using .code h, by simp⟩
  | @pair _ high low _ h h' =>
    exact ⟨['\\' :: 'u' :: high, '\\' :: 'u' :: low], by simpa using ⟨.code h, .code h'⟩, by simp⟩

theorem Literal.quoted {cs v : List Char} (h : Literal cs v) : Quoted v := by
  obtain ⟨ws, h, rfl⟩ := h
  suffices ∃ ms : List (List Char), (∀ w ∈ ms, Mark w) ∧ ms.flatten = ws.flatten by
    obtain ⟨ms, marks, eq⟩ := this
    exact ⟨ms, marks, by rw [eq]⟩
  induction h with
  | nil => exact ⟨[], by simp, rfl⟩
  | cons h _ ih =>
    obtain ⟨ms, marks, eq⟩ := h.marks
    obtain ⟨ms', marks', eq'⟩ := ih
    exact ⟨ms ++ ms', by simpa [or_imp, forall_and] using ⟨marks, marks'⟩, by simp [eq, eq']⟩

/-! ## Numbers -/

/-- What does not go on with a number. -/
def Stops (s : List Char) : Prop := ∀ c ∈ s.head?, ¬ c.isDigit ∧ c ∉ ['.', 'e', 'E']

theorem Stops.dropWhile {s : List Char} (h : Stops s) : s.dropWhile Char.isDigit = s := by
  cases s with
  | nil => rfl
  | cons c s => exact List.dropWhile_cons_of_neg (h c rfl).1

theorem Stops.takeWhile {s : List Char} (h : Stops s) : s.takeWhile Char.isDigit = [] := by
  cases s with
  | nil => rfl
  | cons c s => exact List.takeWhile_cons_of_neg (h c rfl).1

theorem le_ofDigitChars (ds : List Char) (n : Nat) : n ≤ Nat.ofDigitChars 10 ds n := by
  induction ds generalizing n with
  | nil => exact Nat.le_refl n
  | cons d ds ih =>
    rw [Nat.ofDigitChars_cons]
    exact Nat.le_trans (by omega) (ih _)

theorem readDigits_append {limit n : Nat} {ds s : List Char} (hd : ∀ d ∈ ds, d.isDigit)
    (hl : Nat.ofDigitChars 10 ds n ≤ limit) (hs : Stops s) :
    readDigits limit n (ds ++ s) = (Nat.ofDigitChars 10 ds n, s) := by
  induction ds generalizing n with
  | nil =>
    cases s with
    | nil => rfl
    | cons c s => simp [readDigits, (hs c rfl).1, Nat.ofDigitChars]
  | cons d ds ih =>
    have step : n * 10 + digit d = 10 * n + (d.toNat - '0'.toNat) := by rw [Nat.mul_comm, digit]
    rw [Nat.ofDigitChars_cons] at hl
    have := Nat.le_trans (le_ofDigitChars ds _) hl
    rw [List.cons_append, readDigits, step, if_pos (by simpa [hd d] using this),
      Nat.ofDigitChars_cons]
    exact ih (fun c hc => hd c (by simp [hc])) hl

theorem toDigits_eq_cons (n : Nat) : ∃ c ds, Nat.toDigits 10 n = c :: ds ∧ c.isDigit := by
  cases hc : Nat.toDigits 10 n with
  | nil => simp at hc
  | cons c ds =>
    exact ⟨c, ds, rfl, Nat.isDigit_of_mem_toDigits (b := 10) (n := n) (by decide) (by decide)
      (by simp [hc])⟩

theorem toDigits_leading {n : Nat} {ds : List Char} (h : Nat.toDigits 10 n = '0' :: ds) :
    ds = [] := by
  induction n using Nat.strongRecOn generalizing ds with
  | _ n ih =>
    rw [Nat.toDigits_eq_if (by decide)] at h
    split at h
    · simp_all
    · rename_i hn
      cases h₁ : Nat.toDigits 10 (n / 10) with
      | nil => simp at h₁
      | cons c cs =>
        obtain ⟨rfl, -⟩ : c = '0' ∧ _ := by simpa [h₁] using h
        have zero := Nat.ofDigitChars_ten_toDigits (n := n / 10)
        rw [h₁, ih _ (by omega) h₁] at zero
        simp [Nat.ofDigitChars] at zero
        omega

theorem readNumber_toDigits {n : Nat} {s : List Char} (h : n ≤ largestSignificand) (hs : Stops s) :
    readNumber false (Nat.toDigits 10 n ++ s) = .ok (.integer n, s) := by
  cases hc : Nat.toDigits 10 n with
  | nil => simp at hc
  | cons c ds =>
    have digits : ∀ d ∈ c :: ds, d.isDigit := fun d hd =>
      Nat.isDigit_of_mem_toDigits (by decide) (by decide) (hc ▸ hd)
    have value : Nat.ofDigitChars 10 ds (digit c) = n := by
      rw [← Nat.ofDigitChars_ten_toDigits (n := n), hc, Nat.ofDigitChars_cons, digit]
      simp
    have leading : ¬ (c = '0' ∧ (ds ++ s).head?.any Char.isDigit) := by
      rintro ⟨rfl, hd⟩
      rw [toDigits_leading hc] at hd
      cases s with
      | nil => simp at hd
      | cons d s => exact (hs d rfl).1 hd
    have read := readDigits_append (n := digit c) (fun d hd => digits d (by simp [hd]))
      (value ▸ h) hs
    simp only [List.cons_append, readNumber, digits c (by simp), not_true_eq_false, if_false,
      if_neg leading, read, value, hs.dropWhile, hs.takeWhile, List.length_nil, if_true]
    split <;> simp_all [Stops, ofInteger]

theorem readDigits_dropWhile (limit n : Nat) (s : List Char) :
    (readDigits limit n s).2.dropWhile Char.isDigit = s.dropWhile Char.isDigit := by
  fun_induction readDigits limit n s with
  | case1 => rfl
  | case2 n c s h ih => simp_all
  | case3 => rfl

section

variable {negative : Bool} {m : Nat} {e i : Int} {s r : List Char}

theorem ofParts_ne_integer : ofParts negative m e s ≠ .ok (.integer i, r) := by
  fun_cases ofParts negative m e s <;> simp [failAt]

theorem readExponent_ne_integer : readExponent negative m e s ≠ .ok (.integer i, r) := by
  fun_cases readExponent negative m e s <;> simp [failAt, failPast, ofParts_ne_integer]

theorem readPlaces_ne_integer : readPlaces negative m e s ≠ .ok (.integer i, r) := by
  fun_cases readPlaces negative m e s <;>
    simp [failPast, ofParts_ne_integer, readExponent_ne_integer]

end

theorem stops_dropWhile {s : List Char}
    (h : ∀ r, ∀ c ∈ ['.', 'e', 'E'], s.dropWhile Char.isDigit ≠ c :: r) :
    Stops (s.dropWhile Char.isDigit) := by
  intro c hc
  obtain ⟨t, ht⟩ := List.head?_eq_some_iff.mp hc
  have := List.head?_dropWhile_not Char.isDigit s
  rw [hc] at this
  exact ⟨by simpa using this, fun hm => h t c hm ht⟩

/-- Only digits make an integer, and all of them are read. -/
theorem readNumber_integer {negative : Bool} {i : Int} {s r : List Char}
    (h : readNumber negative s = .ok (.integer i, r)) :
    s.dropWhile Char.isDigit = r ∧ Stops r := by
  revert h
  fun_cases readNumber negative s
  case case7 d s hd _ n kept hk raised _ point small large =>
    have all : kept.dropWhile Char.isDigit = s.dropWhile Char.isDigit := by
      simpa [hk] using readDigits_dropWhile largestSignificand (digit d) s
    intro h
    obtain ⟨-, rfl⟩ : _ ∧ kept.dropWhile Char.isDigit = r := by simpa using h
    refine ⟨by simp_all, stops_dropWhile fun r c hc => ?_⟩
    simp only [List.mem_cons, List.not_mem_nil, or_false] at hc
    rcases hc with rfl | rfl | rfl
    exacts [point r, small r, large r]
  all_goals
    simp_all [failAt, failPast, ofParts_ne_integer, readExponent_ne_integer, readPlaces_ne_integer]

/-- An integer has neither places nor an exponent. -/
theorem readNumber_parts {negative : Bool} {n : Nat} {i : Int} {places power s r : List Char}
    (hf : Fraction places) (he : Exponent power) (hs : Stops s)
    (h : readNumber negative (Nat.toDigits 10 n ++ (places ++ (power ++ s))) =
      .ok (.integer i, r)) : r = s := by
  obtain ⟨rest, hr⟩ := readNumber_integer h
  rw [List.dropWhile_append_of_pos fun c => Nat.isDigit_of_mem_toDigits (by decide) (by decide)]
    at rest
  cases hf with
  | places =>
    rw [List.cons_append, List.dropWhile_cons_of_neg (by decide)] at rest
    subst rest
    simpa using (hr _ rfl).2
  | none =>
    cases he with
    | none => simpa [hs.dropWhile] using rest.symm
    | @power e sign ds he _ _ =>
      have letter : ¬ e.isDigit := by
        simp only [List.mem_cons, List.not_mem_nil, or_false] at he
        rcases he with rfl | rfl <;> decide
      rw [List.nil_append, List.cons_append, List.dropWhile_cons_of_neg letter] at rest
      subst rest
      exact absurd (.tail _ he) (hr _ rfl).2

/-! ## Values -/

theorem refuse_ne_ok {α : Type} {wanted : Wanted} {s : List Char} {a : α} :
    refuse wanted s ≠ .ok a := by
  cases h : readFound s with
  | error => simp [refuse, h, bind, Except.bind]
  | ok p => simp [refuse, h, bind, Except.bind, failAt]

theorem not_blank_of_isDigit {c : Char} (h : c.isDigit) : isBlank c = false := by
  by_contra hb
  rcases isBlank_iff.mp (by simpa using hb) with rfl | rfl | rfl | rfl <;> simp at h

theorem readWhole_toDigits {wanted : Wanted} {limit n : Nat} {s : List Char} (h : n ≤ limit)
    (hl : limit ≤ largestSignificand) (hs : Stops s) :
    readWhole wanted limit (Nat.toDigits 10 n ++ s) = .ok (n, s) := by
  have number := readNumber_toDigits (Nat.le_trans h hl) hs
  obtain ⟨c, ds, hc, hd⟩ := toDigits_eq_cons n
  have minus : c ≠ '-' := by rintro rfl; simp at hd
  rw [hc] at number
  simp_all [readWhole, toValue_cons (not_blank_of_isDigit hd), bind, Except.bind]

theorem Numeral.head {v : List Char} (h : Numeral v) :
    ∃ c t, v = c :: t ∧ (c.isDigit ∨ c = '-') := by
  cases h with
  | @intro sign places power n hs =>
    simp only [List.mem_cons, List.not_mem_nil, or_false] at hs
    rcases hs with rfl | rfl
    · obtain ⟨c, ds, hc, hd⟩ := toDigits_eq_cons n
      exact ⟨c, _, by rw [hc]; rfl, .inl hd⟩
    · exact ⟨'-', _, rfl, .inr rfl⟩

theorem Value.toValue {v : List Char} (h : Value v) (s : List Char) :
    toValue (v ++ s) = .ok (v ++ s) := by
  cases h with
  | null | yes | no | list | object => exact toValue_cons (by decide) _
  | text h =>
    obtain ⟨w, rfl, -⟩ := h.readText
    exact toValue_cons (by decide) _
  | number h =>
    obtain ⟨c, t, rfl, hc | rfl⟩ := h.head
    · exact toValue_cons (not_blank_of_isDigit hc) _
    · exact toValue_cons (by decide) _

/-- Only an integer passes for a whole number. -/
theorem integer_of_whole {wanted : Wanted} {limit n : Nat} {r : List Char}
    {e : Except Fault (Number × List Char)}
    (h : (e.bind fun (m, s) => match m with
      | .integer i =>
        if 0 ≤ i ∧ i ≤ limit then .ok (i.toNat, s) else failAt (.outOfRange i wanted) s
      | .float _ => failAt (.wrongType (.number m) wanted) s) = .ok (n, r)) :
    ∃ i, e = .ok (.integer i, r) := by
  rcases e with _ | ⟨i | x, t⟩
  · simp [Except.bind] at h
  · simp only [Except.bind] at h
    split at h
    · exact ⟨i, by simp_all⟩
    · simp [failAt] at h
  · simp [Except.bind, failAt] at h

theorem readWhole_ok {wanted : Wanted} {limit n : Nat} {s r : List Char}
    (h : readWhole wanted limit s = .ok (n, r)) : ∃ negative t i,
      toValue s = .ok ((if negative then ['-'] else []) ++ t) ∧
        readNumber negative t = .ok (.integer i, r) := by
  unfold readWhole at h
  cases hv : toValue s with
  | error => simp [hv, bind, Except.bind] at h
  | ok t =>
    simp only [hv, bind, Except.bind] at h
    split at h
    · obtain ⟨i, hi⟩ := integer_of_whole h
      exact ⟨true, _, i, rfl, hi⟩
    · split at h
      · obtain ⟨i, hi⟩ := integer_of_whole h
        exact ⟨false, _, i, rfl, hi⟩
      · obtain ⟨i, hi⟩ := integer_of_whole h
        exact absurd hi refuse_ne_ok
    · obtain ⟨i, hi⟩ := @integer_of_whole wanted limit n r (refuse wanted []) h
      exact absurd hi refuse_ne_ok

theorem readNumber_ok {negative : Bool} {s : List Char} {p : Number × List Char}
    (h : readNumber negative s = .ok p) : ∃ c t, s = c :: t ∧ c.isDigit := by
  revert h
  fun_cases readNumber negative s <;> simp_all [failAt, failPast]

theorem Value.numeral {v s t : List Char} {c : Char} (h : Value v) (hv : v ++ s = c :: t)
    (hc : c.isDigit ∨ c = '-') : Numeral v := by
  cases h with
  | number h => exact h
  | null | yes | no | list | object =>
    obtain ⟨rfl, -⟩ := List.cons.inj hv
    simp at hc
  | text h =>
    obtain ⟨w, rfl, -⟩ := h.readText
    obtain ⟨rfl, -⟩ := List.cons.inj hv
    simp at hc

theorem Value.readWhole {wanted : Wanted} {limit n : Nat} {v s r : List Char} (h : Value v)
    (hs : Stops s) (hr : readWhole wanted limit (v ++ s) = .ok (n, r)) : r = s := by
  obtain ⟨negative, t, i, ht, hn⟩ := readWhole_ok hr
  obtain ⟨d, u, rfl, hd⟩ := readNumber_ok hn
  have ht : v ++ s = (if negative then ['-'] else []) ++ d :: u := by
    simpa [h.toValue] using ht
  have numeral : Numeral v := by
    cases negative with
    | false => exact h.numeral ht (.inl hd)
    | true => exact h.numeral ht (.inr rfl)
  cases numeral with
  | @intro sign places power m hsign hf he =>
    obtain ⟨c, ds, hc, hcd⟩ := toDigits_eq_cons m
    have minus : ∀ c : Char, c.isDigit → c ≠ '-' := by rintro _ h rfl; simp at h
    have digits : d :: u = Nat.toDigits 10 m ++ (places ++ (power ++ s)) := by
      simp only [List.mem_cons, List.not_mem_nil, or_false] at hsign
      rcases hsign with rfl | rfl <;> cases negative <;>
        simp_all [minus c hcd, (minus d hd).symm]
    exact readNumber_parts hf he hs (digits ▸ hn)

/-! ## Members -/

theorem stops_blanks {b s : List Char} (hb : Blanks b) (hs : Stops s) : Stops (b ++ s) := by
  cases b with
  | nil => exact hs
  | cons c b =>
    intro d hd
    obtain rfl : c = d := by simpa using hd
    rcases hb c (by simp) with rfl | rfl | rfl | rfl <;> decide

theorem Members.stops {ms : List (List Char × List Char)} {t : List Char}
    (h : Members false ms t) (s : List Char) : Stops (t ++ '\x7d' :: s) := by
  cases h with
  | nil hb => exact stops_blanks hb (by simp [Stops])
  | cons hg =>
    cases hg with
    | next ha => simpa using stops_blanks ha (by simp [Stops])

end WebTerminal.Json
