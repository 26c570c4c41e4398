import Mathlib.Data.List.Nodup
import WebTerminal.Config.Reader
import WebTerminal.Proofs.Json.Tokens

/-! # Configurations as objects

Any of the ways to write a configuration as an object reads back as that configuration: its fields
in any order, perhaps without some that have their default, with any spelling of their texts and any
white space. With one more member, for a field that is there already or for none, it does not
read. -/

namespace WebTerminal

open Json

def Mode.name : Mode → String
  | raw => "raw"
  | line => "line"

namespace Config

namespace Field

/-- The text of a field's value in a configuration. -/
def Writes (f : Field) (c : Config) (v : List Char) : Prop :=
  match f with
  | mode => Literal c.mode.name.toList v
  | maxAttempts => v = Nat.toDigits 10 c.maxAttempts.toNat
  | baseDelay => v = Nat.toDigits 10 c.baseDelay.toNat
  | maxDelay => v = Nat.toDigits 10 c.maxDelay.toNat
  | multiplier => v = Nat.toDigits 10 c.multiplier.toNat
  | endpointPath => Literal c.endpointPath.toList v
  | maxLineLength => v = Nat.toDigits 10 c.maxLineLength.toNat

/-- The texts of a field's name and of its value in a configuration. -/
def Member (c : Config) (f : Field) (m : List Char × List Char) : Prop :=
  Literal f.name.toList m.1 ∧ f.Writes c m.2

/-- A configuration with one field taken from another. -/
def copy (f : Field) (c d : Config) : Config :=
  match f with
  | mode => { d with mode := c.mode }
  | maxAttempts => { d with maxAttempts := c.maxAttempts }
  | baseDelay => { d with baseDelay := c.baseDelay }
  | maxDelay => { d with maxDelay := c.maxDelay }
  | multiplier => { d with multiplier := c.multiplier }
  | endpointPath => { d with endpointPath := c.endpointPath }
  | maxLineLength => { d with maxLineLength := c.maxLineLength }

/-- Two configurations have the same value for a field. -/
def Agrees (f : Field) (c d : Config) : Prop := f.copy c d = d

variable {f g : Field} {c d : Config}

theorem mem_all (f : Field) : f ∈ all := by cases f <;> decide

theorem nodup_all : all.Nodup := by decide

theorem ofName?_name (f : Field) : ofName? f.name = some f := by cases f <;> decide

theorem name_of_ofName? {key : String} (h : ofName? key = some f) : f.name = key := by
  simpa using List.find?_some h

theorem name_injective : Function.Injective name := by
  intro f g h
  have := congrArg ofName? h
  rwa [ofName?_name, ofName?_name, Option.some.injEq] at this

theorem agrees_copy (f : Field) (c d : Config) : f.Agrees c (f.copy c d) := by cases f <;> rfl

theorem Agrees.copy (h : f.Agrees c d) (g : Field) : f.Agrees c (g.copy c d) := by
  unfold Agrees at h ⊢
  have comm : f.copy c (g.copy c d) = g.copy c (f.copy c d) := by cases f <;> cases g <;> rfl
  rw [comm, h]

end Field

theorem eq_of_agrees {c d : Config} (h : ∀ f : Field, f.Agrees c d) : d = c := by
  have attempts := h .maxAttempts
  have base := h .baseDelay
  have cap := h .maxDelay
  have factor := h .multiplier
  have path := h .endpointPath
  have limit := h .maxLineLength
  have mode := h .mode
  cases c; cases d
  simp_all [Field.Agrees, Field.copy]

/-! ## One field -/

theorem readNull_value {b v s r : List Char} (hb : Blanks b) (h : Value v)
    (hr : readNull (b ++ (v ++ s)) = .ok r) : r = s := by
  simp only [readNull, toValue_append hb, h.toValue, ok_bind] at hr
  cases h with
  | null => simpa [readWord] using hr.symm
  | yes | no | list | object => exact absurd hr refuse_ne_ok
  | number h =>
    obtain ⟨c, t, rfl, hc⟩ := h.head
    split at hr
    · simp_all
    · exact absurd hr refuse_ne_ok
  | text h =>
    obtain ⟨w, rfl, -⟩ := h.readText
    exact absurd hr refuse_ne_ok

/-- A mode in an object is its only member. -/
theorem readMode_object {t s r : List Char} {ms : List (List Char × List Char)} {m : Mode}
    (h : Members true ms t) (hk : ∀ m ∈ ms, Quoted m.1) (hv : ∀ m ∈ ms, Value m.2)
    (hr : readMode ('\x7b' :: (t ++ '\x7d' :: s)) = .ok (m, r)) : r = s := by
  simp (disch := decide) only [readMode, toValue_cons, ok_bind] at hr
  cases h with
  | nil hb =>
    simp (disch := decide) only [skipBlanks_before hb] at hr
    simp [failPast] at hr
  | @cons _ g k a b v t ms hg ha hb hms =>
    cases hg with
    | first hg =>
      obtain ⟨w, rfl, hw⟩ := (hk _ (.head _)).readText
      simp (disch := decide) only [List.append_assoc, List.cons_append, skipBlanks_before hg,
        bind_eq_ok] at hr
      obtain ⟨⟨cs, u⟩, hu, m', -, u', hc, u'', hn, hr⟩ := hr
      obtain rfl := hw hu
      obtain rfl : _ = u' := by simpa [readColon_append ha] using hc
      obtain rfl := readNull_value hb (hv _ (.head _)) hn
      cases hms with
      | nil hb =>
        simp (disch := decide) only [skipBlanks_before hb] at hr
        obtain ⟨-, rfl⟩ : m' = m ∧ s = r := by simpa using hr
        rfl
      | cons hg =>
        cases hg with
        | next hg =>
          simp (disch := decide) only [List.append_assoc, List.cons_append,
            skipBlanks_before hg] at hr
          simp [failAt] at hr

theorem readMode_value {v s r : List Char} {m : Mode} (h : Value v)
    (hr : readMode (v ++ s) = .ok (m, r)) : r = s := by
  cases h with
  | object h hk hm => exact readMode_object h hk hm (by simpa using hr)
  | null | yes | no | list => simp [readMode, toValue, skipBlanks, isBlank, failPast] at hr
  | number h =>
    simp only [readMode, (Value.number h).toValue, ok_bind] at hr
    obtain ⟨c, t, rfl, hc⟩ := h.head
    split at hr
    · simp_all
    · simp_all
    · simp [failPast] at hr
  | text h =>
    simp only [readMode, (Value.text h).toValue, ok_bind] at hr
    obtain ⟨w, rfl, hw⟩ := h.readText
    simp only [List.cons_append, bind_eq_ok] at hr
    obtain ⟨⟨cs, u⟩, hu, m', -, hr⟩ := hr
    obtain rfl := hw hu
    obtain ⟨-, rfl⟩ : m' = m ∧ u = r := by simpa [pure, Except.pure] using hr
    rfl

theorem readPath_value {v s r : List Char} {path : String} (h : Value v)
    (hr : readPath (v ++ s) = .ok (path, r)) : r = s := by
  simp only [readPath, h.toValue, ok_bind] at hr
  cases h with
  | null | yes | no | list | object => exact absurd hr refuse_ne_ok
  | number h =>
    obtain ⟨c, t, rfl, hc⟩ := h.head
    split at hr
    · simp_all
    · exact absurd hr refuse_ne_ok
  | text h =>
    obtain ⟨w, rfl, hw⟩ := h.readText
    simp only [List.cons_append, bind_eq_ok] at hr
    obtain ⟨⟨cs, u⟩, hu, hr⟩ := hr
    obtain rfl := hw hu
    obtain ⟨-, rfl⟩ : _ ∧ u = r := by simpa [pure, Except.pure] using hr
    rfl

theorem readField_append {f : Field} {c : Config} {b s : List Char} (hb : Blanks b) :
    readField f c (b ++ s) = readField f c s := by
  cases f <;> simp only [readField, readMode, readPath, readWord32, readWord64, readWhole,
    toValue_append hb]

theorem readField_value {f : Field} {c d : Config} {v s r : List Char} (h : Value v) (hs : Stops s)
    (hr : readField f c (v ++ s) = .ok (d, r)) : r = s := by
  cases f with
  | mode =>
    obtain ⟨⟨m, u⟩, hu, ht⟩ := bind_eq_ok.mp hr
    obtain rfl := readMode_value h hu
    exact (Prod.mk.inj (Except.ok.inj ht)).2.symm
  | endpointPath =>
    obtain ⟨⟨path, u⟩, hu, ht⟩ := bind_eq_ok.mp hr
    obtain rfl := readPath_value h hu
    exact (Prod.mk.inj (Except.ok.inj ht)).2.symm
  | maxAttempts | baseDelay | maxDelay | multiplier | maxLineLength =>
    obtain ⟨⟨word, u⟩, hw, ht⟩ := bind_eq_ok.mp hr
    obtain ⟨⟨n, t⟩, hn, hu⟩ := bind_eq_ok.mp hw
    obtain rfl := h.readWhole hs hn
    obtain rfl := (Prod.mk.inj (Except.ok.inj hu)).2
    exact (Prod.mk.inj (Except.ok.inj ht)).2.symm

theorem readChoice_name (m : Mode) (s : List Char) : readChoice m.name s = .ok m := by
  cases m <;> rfl

theorem readWord32_toDigits {n : UInt32} {s : List Char} (hs : Stops s) :
    readWord32 (Nat.toDigits 10 n.toNat ++ s) = .ok (n, s) := by
  have := n.toNat_lt
  rw [readWord32, readWhole_toDigits (by omega) (by decide) hs]
  simp [pure, Except.pure]

theorem readWord64_toDigits {n : UInt64} {s : List Char} (hs : Stops s) :
    readWord64 (Nat.toDigits 10 n.toNat ++ s) = .ok (n, s) := by
  have := n.toNat_lt
  rw [readWord64, readWhole_toDigits (by omega) (by decide) hs]
  simp [pure, Except.pure]

theorem readField_writes {f : Field} {c : Config} {v s : List Char} (h : f.Writes c v)
    (hs : Stops s) (d : Config) : readField f d (v ++ s) = .ok (f.copy c d, s) := by
  cases f with
  | mode =>
    obtain ⟨w, rfl, hw⟩ := Literal.readText h
    simp (disch := decide) [readField, readMode, toValue_cons, hw, readChoice_name]
    rfl
  | endpointPath =>
    obtain ⟨w, rfl, hw⟩ := Literal.readText h
    simp (disch := decide) [readField, readPath, toValue_cons, hw]
    rfl
  | maxAttempts | baseDelay | maxDelay | multiplier =>
    obtain rfl := h
    simp [readField, readWord32_toDigits hs]
    rfl
  | maxLineLength =>
    obtain rfl := h
    simp [readField, readWord64_toDigits hs]
    rfl

/-! ## Members -/

variable {first : Bool} {missing : List Field}

theorem toKey_next {g s : List Char} {c : Char} (hg : Gap first g) (hb : isBlank c = false)
    (hc : c ≠ '\x7d') : toKey first (g ++ c :: s) = .ok (.next (c :: s)) := by
  cases hg with
  | first hg => simp [toKey, skipBlanks_before hg hb]
  | next ha hg =>
    simp (disch := decide) only [List.append_assoc, List.cons_append, toKey, skipBlanks_before ha,
      skipBlanks_before hg hb]
    simp [hc]

theorem toKey_stop {b : List Char} (hb : Blanks b) (s : List Char) :
    toKey first (b ++ '\x7d' :: s) = .ok (.stop s) := by
  simp (disch := decide) only [toKey, skipBlanks_before hb]

/-- One member of an object, up to its value. -/
theorem readMembers_member {g k a b s : List Char} {key : String} (hg : Gap first g)
    (hk : Literal key.toList k) (ha : Blanks a) (hb : Blanks b) (d : Config) :
    readMembers missing first d (g ++ (k ++ (a ++ ':' :: (b ++ s)))) =
      readName missing key (a ++ ':' :: (b ++ s)) >>= fun f =>
        readField f.1 d s >>= fun (d, s) => readMembers (missing.erase f.1) false d s := by
  obtain ⟨w, rfl, hw⟩ := hk.readText
  rw [readMembers, List.cons_append, toKey_next hg (by decide) (by decide)]
  simp only [ok_bind, readKey, hw, Except.map, String.ofList_toList, readColon_append ha,
    readField_append hb]

theorem readName_name {f : Field} (h : f ∈ missing) (s : List Char) :
    readName missing f.name s = .ok ⟨f, h⟩ := by
  unfold readName
  split
  · simp_all [Field.ofName?_name]
  · rename_i g hg
    obtain rfl : f = g := by simpa [Field.ofName?_name] using hg
    exact dif_pos h

theorem refuseKey_ne_ok {α : Type} {cause : Cause} {s : List Char} {a : α} :
    refuseKey cause s ≠ .ok a := by
  unfold refuseKey
  split <;> simp [failAt]

theorem name_of_readName {key : String} {s : List Char} {f : { f // f ∈ missing }}
    (h : readName missing key s = .ok f) : f.1.name = key := by
  unfold readName at h
  split at h
  · exact absurd h refuseKey_ne_ok
  · rename_i g hg
    split at h
    · obtain rfl := Except.ok.inj h
      exact Field.name_of_ofName? hg
    · exact absurd h refuseKey_ne_ok

/-- The members of a configuration leave it, over what agrees with it in all other fields. -/
theorem readMembers_written {c d : Config} {fs : List Field} {ms : List (List Char × List Char)}
    {t : List Char} (hw : List.Forall₂ (Field.Member c) fs ms) (h : Members first ms t)
    (hn : fs.Nodup) (hm : ∀ f ∈ fs, f ∈ missing) (hd : ∀ f ∉ fs, f.Agrees c d) (s : List Char) :
    readMembers missing first d (t ++ '\x7d' :: s) = .ok (c, s) := by
  induction hw generalizing first missing d t with
  | nil =>
    cases h with
    | nil hb =>
      obtain rfl := eq_of_agrees fun f => hd f (by simp)
      rw [readMembers, toKey_stop hb]
      rfl
  | @cons f m fs ms hfm _ ih =>
    obtain ⟨hf, hn⟩ := List.nodup_cons.mp hn
    cases h with
    | cons hg ha hb hms =>
      -- what is read agrees with the configuration in one field more after each member
      have kept : ∀ g ∈ fs, g ∈ missing.erase f := fun g hg =>
        (List.mem_erase_of_ne (by rintro rfl; exact hf hg)).mpr (hm g (by simp [hg]))
      have agree : ∀ g ∉ fs, g.Agrees c (f.copy c d) := by
        intro g hg
        by_cases hgf : g = f
        · exact hgf ▸ Field.agrees_copy g c d
        · exact (hd g (by simp [hg, hgf])).copy f
      simp only [List.append_assoc, List.cons_append, readMembers_member hg hfm.1 ha hb]
      simp only [readName_name (hm f (by simp)), ok_bind, readField_writes hfm.2 (hms.stops s)]
      exact ih hms hn kept agree

/-- The keys of an object that reads are names of fields, each there at most once. -/
theorem keys_of_readMembers {c : Config} {p : Config × List Char} {keys : List String}
    {ms : List (List Char × List Char)} {s t : List Char} (hk : List.Forall₂ Keyed keys ms)
    (h : Members first ms t) (hm : missing.Nodup)
    (hr : readMembers missing first c (t ++ '\x7d' :: s) = .ok p) :
    ∃ fs : List Field, keys = fs.map Field.name ∧ fs.Nodup ∧ ∀ f ∈ fs, f ∈ missing := by
  induction hk generalizing first missing c t with
  | nil => exact ⟨[], rfl, List.nodup_nil, by simp⟩
  | cons hkm _ ih =>
    cases h with
    | cons hg ha hb hms =>
      simp only [List.append_assoc, List.cons_append, readMembers_member hg hkm.1 ha hb,
        bind_eq_ok] at hr
      obtain ⟨f, hf, ⟨d, r⟩, hd, hr⟩ := hr
      obtain rfl := name_of_readName hf
      obtain rfl := readField_value hkm.2 (hms.stops s) hd
      obtain ⟨fs, rfl, hn, hfs⟩ := ih hms (hm.erase f.1) hr
      -- a field is missing no longer once its key is read
      have fresh : f.1 ∉ fs := fun h => hm.not_mem_erase (hfs _ h)
      refine ⟨f.1 :: fs, rfl, List.nodup_cons.mpr ⟨fresh, hn⟩, ?_⟩
      simpa [f.2] using fun g hg => List.mem_of_mem_erase (hfs g hg)

theorem read_object {ms : List (List Char × List Char)} {t : List Char} (h : Object ms t) :
    ∃ s b, Members true ms s ∧ Blanks b ∧
      read t = readMembers Field.all true {} (s ++ '\x7d' :: b) >>= fun (c, r) =>
        match skipBlanks r with
        | [] => pure c
        | r => failPast .trailingCharacters r := by
  cases h with
  | @intro a b s ms ha hs hb =>
    have value : readValue (a ++ '\x7b' :: (s ++ '\x7d' :: b)) =
        readMembers Field.all true {} (s ++ '\x7d' :: b) := by
      simp (disch := decide) only [readValue, toValue_append ha, toValue_cons, ok_bind]
    exact ⟨s, b, hs, hb, congrArg (· >>= _) value⟩

theorem ofJson_eq {c : Config} {text : String} (h : read text.toList = .ok c) :
    ofJson text = match c.invalid? with
      | none => .ok c
      | some i => .error (.invalid i) := by
  simp only [ofJson, h]
  cases c.invalid? <;> rfl

/-! ## Whole texts -/

theorem Field.Writes.value {f : Field} {c : Config} {v : List Char} (h : f.Writes c v) :
    Value v := by
  cases f with
  | mode | endpointPath => exact .text (Literal.quoted h)
  | maxAttempts | baseDelay | maxDelay | multiplier | maxLineLength =>
    obtain rfl := h
    simpa using Value.number (@Numeral.intro [] [] [] _ (by simp) .none .none)

theorem Field.Member.keyed {f : Field} {c : Config} {m : List Char × List Char}
    (h : f.Member c m) : Keyed f.name m := ⟨h.1, h.2.value⟩

theorem keyed_insert {c : Config} {fs : List Field} {before after : List (List Char × List Char)}
    {key : String} {m : List Char × List Char}
    (hw : List.Forall₂ (Field.Member c) fs (before ++ after)) (hm : Keyed key m) :
    List.Forall₂ Keyed
      ((fs.take before.length).map Field.name ++ key :: (fs.drop before.length).map Field.name)
      (before ++ m :: after) := by
  have keyed {fs : List Field} {ms : List (List Char × List Char)}
      (h : List.Forall₂ (Field.Member c) fs ms) : List.Forall₂ Keyed (fs.map Field.name) ms :=
    List.forall₂_map_left_iff.mpr (h.imp fun _ _ => Field.Member.keyed)
  exact List.rel_append (keyed (List.forall₂_take_append fs before after hw))
    (.cons hm (keyed (List.forall₂_drop_append fs before after hw)))

/-- However a configuration is written as an object of fields, each once and none left out that
differs from its default, the text reads as that configuration and is then checked. With another
member put anywhere, whose key is that of a field that is there or of none, the text is
malformed. -/
theorem ofJson_written {c : Config} {fs : List Field} {ms : List (List Char × List Char)}
    (hn : fs.Nodup) (hd : ∀ f ∉ fs, f.Agrees c {}) (hw : List.Forall₂ (Field.Member c) fs ms) :
    (∀ text : String, Object ms text.toList → ofJson text = match c.invalid? with
      | none => .ok c
      | some i => .error (.invalid i)) ∧
    ∀ (before after : List (List Char × List Char)) (key : String) (m : List Char × List Char)
      (text : String), ms = before ++ after → Keyed key m →
      key ∈ fs.map Field.name ∨ key ∉ Field.all.map Field.name →
      Object (before ++ m :: after) text.toList →
      ∃ f, ofJson text = .error (.malformed f text) := by
  constructor
  · intro text h
    obtain ⟨s, b, hs, hb, hr⟩ := read_object h
    apply ofJson_eq
    simp only [hr, readMembers_written hw hs hn (fun f _ => f.mem_all) hd b, ok_bind,
      skipBlanks_blanks hb]
    rfl
  · rintro before after key m text rfl hm hkey h
    obtain ⟨s, b, hs, -, hr⟩ := read_object h
    cases ht : read text.toList with
    | error f => exact ⟨f, by simp only [ofJson, ht]⟩
    | ok d =>
      exfalso
      obtain ⟨p, hp, -⟩ := bind_eq_ok.mp (hr ▸ ht)
      -- what reads has names of fields for keys and none of them twice
      obtain ⟨gs, hgs, hgn, -⟩ := keys_of_readMembers (keyed_insert hw hm) hs Field.nodup_all hp
      have nodup : (gs.map Field.name).Nodup := hgn.map Field.name_injective
      have fresh : key ∉ fs.map Field.name := by
        rw [← hgs, List.nodup_middle, List.nodup_cons] at nodup
        rw [← List.take_append_drop before.length fs, List.map_append]
        exact nodup.1
      have known : key ∈ Field.all.map Field.name := by
        have mem : key ∈ gs.map Field.name := by rw [← hgs]; simp
        obtain ⟨g, -, rfl⟩ := List.mem_map.mp mem
        exact List.mem_map_of_mem g.mem_all
      exact hkey.elim fresh fun h => h known

/-- A path with two escapes comes before the mode. Then the mode is there twice. -/
theorem ofJson_written_line :
    ofJson "\x7b \"endpointPath\":\"\\/\\u000a\" ,\n\"mode\" : \"line\"\x7d" =
        .ok { mode := .line, endpointPath := "/\n" } ∧
      ∃ f, ofJson "\x7b \"endpointPath\":\"\\/\\u000a\" ,\n\"mode\" : \"line\",\"mode\":0\x7d" =
        .error (.malformed f
          "\x7b \"endpointPath\":\"\\/\\u000a\" ,\n\"mode\" : \"line\",\"mode\":0\x7d") := by
  have path : Literal "endpointPath".toList "\"endpointPath\"".toList :=
    literal_of_plain (by decide)
  have mode : Literal "mode".toList "\"mode\"".toList := literal_of_plain (by decide)
  have line : Literal "line".toList "\"line\"".toList := literal_of_plain (by decide)
  have newline : Unit16 "000a".toList 10 := by
    refine .intro (i := 0) (j := 0) (k := 0) (l := 10) ?_ ?_ ?_ ?_ <;> simp [HexDigit] <;> decide
  have escaped : Literal "/\n".toList "\"\\/\\u000a\"".toList :=
    ⟨["\\/".toList, "\\u000a".toList], .cons (.short (by decide)) (.cons (.code newline) .nil), rfl⟩
  have zero : Value ['0'] := .number (@Numeral.intro [] [] [] 0 (by simp) .none .none)
  have members {t : List Char} {ms : List (List Char × List Char)} (h : Members false ms t) :
      Members true (("\"endpointPath\"".toList, "\"\\/\\u000a\"".toList) ::
        ("\"mode\"".toList, "\"line\"".toList) :: ms) _ :=
    .cons (g := [' ']) (a := []) (b := []) (.first (by decide)) (by decide) (by decide)
      (.cons (g := " ,\n".toList) (a := [' ']) (b := [' '])
        (.next (a := [' ']) (b := ['\n']) (by decide) (by decide)) (by decide) (by decide) h)
  have again : Members false [("\"mode\"".toList, ['0'])] _ :=
    .cons (g := [',']) (a := []) (b := []) (.next (a := []) (b := []) (by decide) (by decide))
      (by decide) (by decide) (.nil (b := []) (by decide))
  have object {t : List Char} {ms : List (List Char × List Char)} (h : Members true ms t) :
      Object ms ('\x7b' :: (t ++ ['\x7d'])) :=
    .intro (a := []) (b := []) (by decide) h (by decide)
  have fields : List.Forall₂ (Field.Member { mode := .line, endpointPath := "/\n" })
      [.endpointPath, .mode] [("\"endpointPath\"".toList, "\"\\/\\u000a\"".toList),
        ("\"mode\"".toList, "\"line\"".toList)] :=
    .cons ⟨path, escaped⟩ (.cons ⟨mode, line⟩ .nil)
  have others : ∀ f ∉ [Field.endpointPath, Field.mode],
      f.Agrees { mode := .line, endpointPath := "/\n" } {} := by
    intro f hf
    cases f with
    | mode | endpointPath => simp at hf
    | _ => rfl
  obtain ⟨once, twice⟩ := ofJson_written (by decide) others fields
  exact ⟨once _ (object (members (.nil (b := []) (by decide)))),
    twice _ [] "mode" ("\"mode\"".toList, ['0']) _ (List.append_nil _).symm ⟨mode, zero⟩
      (.inl (by decide)) (object (members again))⟩

end Config

end WebTerminal
