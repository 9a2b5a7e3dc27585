import ScriptHost.Proofs.Text.Utf8
import ScriptHost.Text.Quoted

/-!
# Quoted texts are read back

A quoted text is read from left to right, one sign at a time: a character that stands for itself,
or a backslash with what belongs to it. A sign can be told from what follows it, so the bytes of
what was quoted are found again, for texts as for byte sequences, well-formed or not.

- `readSign`, `readEscape`: the first sign, as the bytes that it stands for, and what follows it.
- `unquote`: the bytes of a quoted text.
- `hexNumber_toDigits`: hexadecimal digits are read back.
- `Plain`, `Visible`: characters that need no escape, and such as quoting need not hide.
- `Sign`: the signs, with the bytes that each stands for.
- `sign_escapeChar`, `sign_escapeByte`: what is written for a character or a byte is a sign.
- `Spells`: characters that stand for bytes, whatever follows them. All signs do.
- `unquote_quote`, `ByteText.unquote_quote`: what was quoted is read back.
- `visible_quote`, `ByteText.visible_quote`: nothing in a quoted text is hidden.
-/

namespace ScriptHost.Text

/-! ## Reading signs -/

/-- The number that hexadecimal digits write. -/
def hexNumber (digits : List Char) : Nat :=
  digits.foldl (fun n c => n * 16 + (hexValue? c).getD 0) 0

/-- The byte that a character behind a backslash stands for. -/
def shorthand? : Char → Option UInt8
  | '0' => some 0x00
  | 't' => some 0x09
  | 'n' => some 0x0A
  | 'r' => some 0x0D
  | '"' => some 0x22
  | '\'' => some 0x27
  | '\\' => some 0x5C
  | _ => none

/-- Reads what belongs to a backslash before `l`: a code point in braces, a byte in two digits, or
one character. -/
def readEscape : List Char → Option (List UInt8 × List Char)
  | 'u' :: '\x7b' :: l =>
    some (String.utf8EncodeChar (.ofNat (hexNumber (l.takeWhile (· != '\x7d')))),
      (l.dropWhile (· != '\x7d')).tail)
  | 'x' :: high :: low :: l => some ([.ofNat (hexNumber [high, low])], l)
  | c :: l => (shorthand? c).map fun b => ([b], l)
  | [] => none

/-- Reads one sign. A quote is none. -/
def readSign : List Char → Option (List UInt8 × List Char)
  | [] => none
  | c :: l =>
    if c = '\\' then readEscape l
    else if c = '"' then none
    else some (String.utf8EncodeChar c, l)

theorem readEscape_length_lt {l rest : List Char} {bytes : List UInt8}
    (h : readEscape l = some (bytes, rest)) : rest.length < l.length := by
  unfold readEscape at h
  split at h
  · next l =>
    cases h
    have hle := (List.dropWhile_suffix (l := l) (· != '\x7d')).length_le
    simp only [List.length_tail, List.length_cons]
    omega
  · next high low l =>
    cases h
    simp only [List.length_cons]
    omega
  · next c l _ _ =>
    obtain ⟨b, -, hb⟩ := Option.map_eq_some_iff.mp h
    cases hb
    exact Nat.lt_succ_self rest.length
  · cases h

theorem readSign_length_lt {l rest : List Char} {bytes : List UInt8}
    (h : readSign l = some (bytes, rest)) : rest.length < l.length := by
  cases l with
  | nil => cases h
  | cons c l =>
    rw [readSign] at h
    split_ifs at h
    · exact Nat.lt_succ_of_lt (readEscape_length_lt h)
    · cases h
      exact Nat.lt_succ_self rest.length

/-- Reads signs up to a quote, which must be the end. -/
def readSigns (l : List Char) : Option (List UInt8) :=
  if l = ['"'] then some []
  else
    match _h : readSign l with
    | some (bytes, rest) => (readSigns rest).map (bytes ++ ·)
    | none => none
termination_by l.length
decreasing_by exact readSign_length_lt _h

/-- The bytes of what was quoted. -/
def unquote (text : String) : Option (List UInt8) :=
  match text.toList with
  | '"' :: l => readSigns l
  | _ => none

/-! ## Hexadecimal digits -/

theorem hexValue?_digitChar : ∀ n < 16, hexValue? (Nat.digitChar n) = some n := by decide

theorem hexNumber_append_digitChar {n : Nat} (hn : n < 16) (digits : List Char) :
    hexNumber (digits ++ [Nat.digitChar n]) = hexNumber digits * 16 + n := by
  rw [hexNumber, List.foldl_append, List.foldl_cons, List.foldl_nil, hexValue?_digitChar n hn]
  rfl

/-- Hexadecimal digits are read back, by induction on the number that is left after the last. -/
theorem hexNumber_toDigits (n : Nat) : hexNumber (Nat.toDigits 16 n) = n := by
  induction n using Nat.strongRecOn with
  | ind n ih =>
    rw [Nat.toDigits_eq_if (by decide)]
    split
    · next hn => exact (hexNumber_append_digitChar hn []).trans (Nat.zero_add n)
    · rw [hexNumber_append_digitChar (Nat.mod_lt n (by decide)), ih (n / 16) (by omega)]
      omega

theorem digitChar_of_mem_toDigits {n : Nat} {c : Char} (hc : c ∈ Nat.toDigits 16 n) :
    ∃ d < 16, c = Nat.digitChar d := by
  induction n using Nat.strongRecOn with
  | ind n ih =>
    rw [Nat.toDigits_eq_if (by decide)] at hc
    split at hc
    · next hn => exact ⟨n, hn, List.mem_singleton.mp hc⟩
    · rcases List.mem_append.mp hc with hc | hc
      · exact ih (n / 16) (by omega) hc
      · exact ⟨n % 16, Nat.mod_lt n (by decide), List.mem_singleton.mp hc⟩

/-- Digits end where the brace behind them stands. -/
theorem ne_brace_of_mem_toDigits {n : Nat} {c : Char} (hc : c ∈ Nat.toDigits 16 n) :
    (c != '\x7d') = true := by
  obtain ⟨d, hd, rfl⟩ := digitChar_of_mem_toDigits hc
  clear hc
  revert d
  decide

/-! ## Visible characters -/

/-- None of the characters is one that quoting has to hide. -/
def Visible (l : List Char) : Prop := ∀ c ∈ l, isHidden c = false

/-- All of the characters are ASCII, and none is a control. -/
def Plain (l : List Char) : Prop := ∀ c ∈ l, 0x20 ≤ c.toNat ∧ c.toNat < 0x7F

instance (l : List Char) : Decidable (Plain l) :=
  List.decidableBAll (fun c : Char => 0x20 ≤ c.toNat ∧ c.toNat < 0x7F) l

theorem Visible.append {l l' : List Char} (h : Visible l) (h' : Visible l') : Visible (l ++ l') :=
  List.forall_mem_append.mpr ⟨h, h'⟩

theorem Visible.flatMap {α : Type} {write : α → List Char} {l : List α}
    (each : ∀ a ∈ l, Visible (write a)) : Visible (l.flatMap write) := by
  intro c hc
  obtain ⟨a, ha, hmem⟩ := List.mem_flatMap.mp hc
  exact each a ha c hmem

theorem CharClass.contains_eq_false {k : CharClass} {c : Char}
    (apart : ∀ p ∈ k.ranges, c.toNat < p.1 ∨ p.2 < c.toNat) : k.contains c = false := by
  rw [contains, List.any_eq_false]
  intro p hp
  have hout := apart p hp
  simp only [Bool.and_eq_true, decide_eq_true_eq]
  omega

/-- The classes leave out ASCII but for its controls. -/
theorem ranges_apart_from_plain :
    ∀ p ∈ unprintable.ranges ++ fillers.ranges ++ extending.ranges, p.2 < 0x20 ∨ 0x7F ≤ p.1 := by
  decide +kernel

theorem Plain.visible {l : List Char} (h : Plain l) : Visible l := by
  intro c hc
  obtain ⟨hlow, hhigh⟩ := h c hc
  have hclass (k : CharClass)
      (hk : k.ranges ⊆ unprintable.ranges ++ fillers.ranges ++ extending.ranges) :
      k.contains c = false := by
    refine CharClass.contains_eq_false fun p hp => ?_
    have hapart := ranges_apart_from_plain p (hk hp)
    omega
  rw [isHidden, hclass unprintable, hclass fillers, hclass extending]
  · rfl
  · exact List.subset_append_right _ _
  · exact List.subset_append_of_subset_left _ (List.subset_append_right _ _)
  · exact List.subset_append_of_subset_left _ (List.subset_append_left _ _)

theorem plain_of_digits {l : List Char} (h : ∀ c ∈ l, ∃ d < 16, c = Nat.digitChar d) :
    Plain l := by
  intro c hc
  obtain ⟨d, hd, rfl⟩ := h c hc
  clear hc
  revert d
  decide

/-! ## Signs -/

/-- A sign of a quoted text and the bytes that it stands for. -/
inductive Sign : List Char → List UInt8 → Prop
  /-- A character that stands for itself: it can be seen, and neither ends nor escapes anything. -/
  | literal {c : Char} (hslash : c ≠ '\\') (hquote : c ≠ '"') (hvisible : isHidden c = false) :
      Sign [c] (String.utf8EncodeChar c)
  | shorthand {c : Char} {b : UInt8} (h : shorthand? c = some b) : Sign ['\\', c] [b]
  /-- A character by its code point. -/
  | code (c : Char) : Sign (escapeCode c).toList (String.utf8EncodeChar c)
  /-- A byte by its value. -/
  | byte (b : UInt8) : Sign (escapeCodeByte b).toList [b]

theorem toList_escapeCode (c : Char) :
    (escapeCode c).toList = '\\' :: 'u' :: '\x7b' :: (Nat.toDigits 16 c.toNat ++ ['\x7d']) := by
  simp [escapeCode, hexText]

theorem toList_escapeCodeByte (b : UInt8) :
    (escapeCodeByte b).toList
      = ['\\', 'x', Nat.digitChar (b.toNat / 16), Nat.digitChar (b.toNat % 16)] := by
  simp [escapeCodeByte]

/-- What is written for a character in a quoted text is a sign for its bytes. -/
theorem sign_escapeChar (c : Char) : Sign (escapeChar c).toList (String.utf8EncodeChar c) := by
  unfold escapeChar
  simp only [beq_iff_eq]
  split_ifs with h0 ht hr hn hquote hslash hhidden
  · rw [h0]
    exact .shorthand rfl
  · rw [ht]
    exact .shorthand rfl
  · rw [hr]
    exact .shorthand rfl
  · rw [hn]
    exact .shorthand rfl
  · rw [hquote]
    exact .shorthand rfl
  · rw [hslash]
    exact .shorthand rfl
  · exact .code c
  · rw [Char.toString, String.toList_singleton]
    exact .literal hslash hquote (Bool.eq_false_iff.mpr hhidden)

theorem toNat_charOf_byte (b : UInt8) : (Char.ofNat b.toNat).toNat = b.toNat := by
  have hvalid : b.toNat.isValidChar := .inl (Nat.lt_trans b.toNat_lt (by decide))
  rw [Char.ofNat, dif_pos hvalid]
  rfl

theorem charOf_byte_ne {b d : UInt8} (h : b ≠ d) : Char.ofNat b.toNat ≠ .ofNat d.toNat := by
  intro heq
  have hnat := congrArg Char.toNat heq
  rw [toNat_charOf_byte, toNat_charOf_byte] at hnat
  exact h (UInt8.toNat_inj.mp hnat)

/-- What is written for a byte in a quoted byte sequence is a sign for that byte. -/
theorem sign_escapeByte (b : UInt8) : Sign (escapeByte b).toList [b] := by
  unfold escapeByte
  simp only [beq_iff_eq]
  split_ifs with ht hr hn hsingle hdouble hslash hprintable
  · rw [ht]
    exact .shorthand rfl
  · rw [hr]
    exact .shorthand rfl
  · rw [hn]
    exact .shorthand rfl
  · rw [hsingle]
    exact .shorthand rfl
  · rw [hdouble]
    exact .shorthand rfl
  · rw [hslash]
    exact .shorthand rfl
  · -- all of these are ASCII, so the character is the byte
    simp only [Bool.and_eq_true, decide_eq_true_eq, UInt8.le_iff_toNat_le,
      UInt8.lt_iff_toNat_lt] at hprintable
    have hascii : b < 0x80 := UInt8.lt_iff_toNat_lt.mpr (Nat.lt_succ_of_lt hprintable.2)
    have hplain : Plain [Char.ofNat b.toNat] := by
      intro c hc
      rw [List.mem_singleton.mp hc, toNat_charOf_byte]
      exact hprintable
    have hsign := Sign.literal (charOf_byte_ne (d := 0x5C) hslash)
      (charOf_byte_ne (d := 0x22) hdouble) (hplain.visible _ (List.mem_singleton_self _))
    rw [utf8EncodeChar_ascii hascii] at hsign
    rw [Char.toString, String.toList_singleton]
    exact hsign
  · exact .byte b

/-- Nothing in a sign is hidden. -/
theorem Sign.visible {l : List Char} {bytes : List UInt8} (h : Sign l bytes) : Visible l := by
  cases h with
  | literal _ _ hvisible =>
    intro x hx
    rw [List.mem_singleton.mp hx]
    exact hvisible
  | @shorthand c b h =>
    refine Plain.visible ?_
    unfold shorthand? at h
    split at h <;> cases h <;> decide
  | code c =>
    have hdigits : Plain (Nat.toDigits 16 c.toNat) :=
      plain_of_digits fun x hx => digitChar_of_mem_toDigits hx
    have hopen : Plain ['\\', 'u', '\x7b'] := by decide
    have hclose : Plain ['\x7d'] := by decide
    rw [toList_escapeCode]
    exact hopen.visible.append (hdigits.visible.append hclose.visible)
  | byte b =>
    have hlt : b.toNat < 256 := b.toNat_lt
    have hdigits : Plain [Nat.digitChar (b.toNat / 16), Nat.digitChar (b.toNat % 16)] := by
      refine plain_of_digits fun x hx => ?_
      rcases List.mem_pair.mp hx with rfl | rfl
      · exact ⟨_, by omega, rfl⟩
      · exact ⟨_, Nat.mod_lt _ (by decide), rfl⟩
    have hopen : Plain ['\\', 'x'] := by decide
    rw [toList_escapeCodeByte]
    exact hopen.visible.append hdigits.visible

/-- A sign is read back, whatever follows it. -/
theorem Sign.readSign_append {l : List Char} {bytes : List UInt8} (h : Sign l bytes)
    (rest : List Char) : readSign (l ++ rest) = some (bytes, rest) := by
  cases h with
  | literal hslash hquote _ =>
    rw [List.singleton_append, readSign, if_neg hslash, if_neg hquote]
  | @shorthand c b h =>
    unfold shorthand? at h
    split at h <;> cases h <;> rfl
  | code c =>
    -- the digits end where the brace behind them stands
    have hdigits : ∀ x ∈ Nat.toDigits 16 c.toNat, (x != '\x7d') = true :=
      fun x hx => ne_brace_of_mem_toDigits hx
    have htake : (Nat.toDigits 16 c.toNat ++ '\x7d' :: rest).takeWhile (· != '\x7d')
        = Nat.toDigits 16 c.toNat := by
      rw [List.takeWhile_append_of_pos hdigits]
      exact List.append_nil _
    have hdrop : (Nat.toDigits 16 c.toNat ++ '\x7d' :: rest).dropWhile (· != '\x7d')
        = '\x7d' :: rest := List.dropWhile_append_of_pos hdigits
    have hread : readEscape ('u' :: '\x7b' :: (Nat.toDigits 16 c.toNat ++ '\x7d' :: rest))
        = some (String.utf8EncodeChar c, rest) := by
      rw [readEscape, htake, hdrop, hexNumber_toDigits, Char.ofNat_toNat]
      rfl
    rw [toList_escapeCode, ← hread]
    simp only [List.cons_append, List.append_assoc, List.nil_append]
    rfl
  | byte b =>
    have hlt : b.toNat < 256 := b.toNat_lt
    have hnumber : hexNumber [Nat.digitChar (b.toNat / 16), Nat.digitChar (b.toNat % 16)]
        = b.toNat := by
      rw [← List.singleton_append, hexNumber_append_digitChar (Nat.mod_lt _ (by decide)),
        ← List.nil_append [_], hexNumber_append_digitChar (by omega)]
      show (0 * 16 + b.toNat / 16) * 16 + b.toNat % 16 = b.toNat
      omega
    have hread : readEscape ('x' :: Nat.digitChar (b.toNat / 16) :: Nat.digitChar (b.toNat % 16)
        :: rest) = some ([b], rest) := by
      rw [readEscape, hnumber, UInt8.ofNat_toNat]
    rw [toList_escapeCodeByte, ← hread]
    rfl

/-! ## Sequences of signs -/

/-- The characters stand for the bytes, whatever follows them. -/
def Spells (text : List Char) (bytes : List UInt8) : Prop :=
  ∀ rest, readSigns (text ++ rest) = (readSigns rest).map (bytes ++ ·)

theorem Spells.nil : Spells [] [] := by
  intro rest
  simp

theorem Spells.append {text text' : List Char} {bytes bytes' : List UInt8}
    (h : Spells text bytes) (h' : Spells text' bytes') :
    Spells (text ++ text') (bytes ++ bytes') := by
  intro rest
  rw [List.append_assoc, h, h', Option.map_map]
  congr 1
  funext more
  exact (List.append_assoc bytes bytes' more).symm

/-- What is written for each of several things, one after another. -/
theorem Spells.flatMap {α : Type} {write : α → List Char} {bytes : α → List UInt8} {l : List α}
    (each : ∀ a ∈ l, Spells (write a) (bytes a)) : Spells (l.flatMap write) (l.flatMap bytes) := by
  induction l with
  | nil => exact .nil
  | cons a l ih =>
    rw [List.forall_mem_cons] at each
    rw [List.flatMap_cons, List.flatMap_cons]
    exact each.1.append (ih each.2)

theorem Sign.spells {l : List Char} {bytes : List UInt8} (h : Sign l bytes) : Spells l bytes := by
  intro rest
  have hsign := h.readSign_append rest
  have hne : l ++ rest ≠ ['"'] := by
    intro heq
    rw [heq] at hsign
    cases hsign
  rw [readSigns, if_neg hne]
  split
  · next hsome =>
    cases hsign.symm.trans hsome
    rfl
  · next hnone => cases hsign.symm.trans hnone

/-- The faulty bytes of a segment are written one by one. -/
theorem toList_join_escapeByte (m : List UInt8) :
    (String.join (m.map escapeByte)).toList = m.flatMap fun b => (escapeByte b).toList := by
  rw [String.toList_join, List.flatMap_map]

theorem utf8EncodeChar_of_ascii {c : Char} (h : c.toNat < 0x80) :
    String.utf8EncodeChar c = [c.toUInt8] := by
  have hbyte : c.toUInt8.toNat = c.toNat := by
    rw [← Char.toUInt8_val, UInt32.toNat_toUInt8]
    exact Nat.mod_eq_of_lt (Nat.lt_trans h (by decide))
  have hlt : c.toUInt8 < 0x80 := UInt8.lt_iff_toNat_lt.mpr (hbyte ▸ h)
  rw [← utf8EncodeChar_ascii hlt, hbyte, Char.ofNat_toNat]

/-- What is written for a segment stands for its bytes. -/
theorem Segment.spells_escaped (s : Segment) : Spells s.escaped.toList s.bytes := by
  have hfault (m : List UInt8) : Spells (String.join (m.map escapeByte)).toList m := by
    have hspells := Spells.flatMap (l := m) fun b _ => (sign_escapeByte b).spells
    rwa [List.flatMap_singleton', ← toList_join_escapeByte] at hspells
  cases s with
  | scalar c =>
    rw [Segment.escaped, Segment.bytes]
    split
    · next hascii =>
      rw [utf8EncodeChar_of_ascii hascii]
      exact (sign_escapeByte c.toUInt8).spells
    · exact (sign_escapeChar c).spells
  | invalid m => exact hfault m
  | incomplete m => exact hfault m

theorem Segment.visible_escaped (s : Segment) : Visible s.escaped.toList := by
  have hfault (m : List UInt8) : Visible (String.join (m.map escapeByte)).toList := by
    rw [toList_join_escapeByte]
    exact .flatMap fun b _ => (sign_escapeByte b).visible
  cases s with
  | scalar c =>
    rw [Segment.escaped]
    split
    · exact (sign_escapeByte c.toUInt8).visible
    · exact (sign_escapeChar c).visible
  | invalid m => exact hfault m
  | incomplete m => exact hfault m

/-! ## Quoted texts -/

theorem toList_between_quotes (text : String) :
    ("\"" ++ text ++ "\"").toList = '"' :: (text.toList ++ ['"']) := by
  simp

/-- Characters between quotes are read as the bytes that they stand for. -/
theorem unquote_of_spells {text : String} {bytes : List UInt8} (h : Spells text.toList bytes) :
    unquote ("\"" ++ text ++ "\"") = some bytes := by
  rw [unquote, toList_between_quotes]
  show readSigns (text.toList ++ ['"']) = _
  rw [h, readSigns, if_pos rfl, Option.map_some, List.append_nil]

theorem visible_between_quotes {text : String} (h : Visible text.toList) :
    Visible ("\"" ++ text ++ "\"").toList := by
  have hquote : Plain ['"'] := by decide
  rw [toList_between_quotes]
  exact hquote.visible.append (h.append hquote.visible)

/-- A quoted text is read back. -/
theorem unquote_quote (s : String) : unquote (quote s) = some (encode s) := by
  refine unquote_of_spells ?_
  rw [String.toList_join, List.flatMap_map]
  exact .flatMap fun c _ => (sign_escapeChar c).spells

theorem visible_quote (s : String) : Visible (quote s).toList := by
  refine visible_between_quotes ?_
  rw [String.toList_join, List.flatMap_map]
  exact .flatMap fun c _ => (sign_escapeChar c).visible

/-- A quoted byte sequence is read back, whether it is well-formed or not. -/
theorem ByteText.unquote_quote (t : ByteText) : unquote t.quote = some t.bytes := by
  refine unquote_of_spells ?_
  rw [String.toList_join, List.flatMap_map]
  have hspells := Spells.flatMap (l := segments t.bytes) fun s _ => s.spells_escaped
  rwa [flatMap_segments] at hspells

/-- A literal backslash and a letter, a control character, and a byte that belongs to nothing. -/
example : unquote (ByteText.quote ⟨[0x5C, 0x6E, 0x0A, 0x01, 0xFF]⟩)
    = some [0x5C, 0x6E, 0x0A, 0x01, 0xFF] := by
  cbv

theorem ByteText.visible_quote (t : ByteText) : Visible t.quote.toList := by
  refine visible_between_quotes ?_
  rw [String.toList_join, List.flatMap_map]
  exact .flatMap fun s _ => s.visible_escaped

end ScriptHost.Text
