import Mathlib.Data.List.Basic
import ScriptHost.Text.Utf8

/-!
# Well-formed and faulty bytes

The segments of a byte sequence are found byte by byte, from a table of first bytes. Here they are
what they ought to be, in terms of the encodings of characters alone: a segment is a character
that stands there, and where none does, the longest stretch that some character begins with, or
else one byte. From this it follows that strict decoding succeeds for the encodings of texts and
for nothing else, and that lossy decoding replaces each faulty stretch and nothing else.

- `Opens`, `charOf`: the first two bytes of a longer character, and the character of its bytes.
- `utf8EncodeChar_charOf`, `utf8EncodeChar_cases`: encodings of characters, byte by byte.
- `Begins`: bytes with which a character begins.
- `Faulty`, `Segment.Fits`: what a segment is.
- `firstSegment_append`, `firstSegment_spec`: the first segment.
- `segments_induction`: induction on the segments of a byte sequence.
- `Repairs`: a text with faulty stretches replaced.
- `decodeStrict_eq_ok_iff`, `repairs_iff`: the two ways to decode.
-/

namespace ScriptHost

theorem exceptMap_eq_ok_iff {ε α β : Type} {f : α → β} {x : Except ε α} {b : β} :
    x.map f = .ok b ↔ ∃ a, x = .ok a ∧ f a = b := by
  cases x <;> simp [Except.map]

namespace Text

/-! ## Characters of several bytes -/

/-- Whether two bytes may stand at the beginning of a character, with `n` bytes after the first. -/
def Opens (n : Nat) (b b₂ : UInt8) : Prop :=
  ∃ low high, leadOf? b = some (n, low, high) ∧ low ≤ b₂ ∧ b₂ ≤ high

theorem opens_iff {n : Nat} {b b₂ : UInt8} :
    Opens n b b₂ ↔ 0x80 ≤ b₂.toNat ∧ b₂.toNat ≤ 0xBF ∧
      (n = 1 ∧ 0xC2 ≤ b.toNat ∧ b.toNat ≤ 0xDF
      ∨ n = 2 ∧ 0xE0 ≤ b.toNat ∧ b.toNat ≤ 0xEF
        ∧ (b.toNat = 0xE0 → 0xA0 ≤ b₂.toNat) ∧ (b.toNat = 0xED → b₂.toNat ≤ 0x9F)
      ∨ n = 3 ∧ 0xF0 ≤ b.toNat ∧ b.toNat ≤ 0xF4
        ∧ (b.toNat = 0xF0 → 0x90 ≤ b₂.toNat) ∧ (b.toNat = 0xF4 → b₂.toNat ≤ 0x8F)) := by
  -- The six bounds of the table, as numbers.
  have h80 : (0x80 : UInt8).toNat = 0x80 := rfl
  have h8F : (0x8F : UInt8).toNat = 0x8F := rfl
  have h90 : (0x90 : UInt8).toNat = 0x90 := rfl
  have h9F : (0x9F : UInt8).toNat = 0x9F := rfl
  have hA0 : (0xA0 : UInt8).toNat = 0xA0 := rfl
  have hBF : (0xBF : UInt8).toNat = 0xBF := rfl
  simp only [Opens, leadOf?, Bool.and_eq_true, decide_eq_true_eq, beq_iff_eq,
    UInt8.le_iff_toNat_le, ← UInt8.toNat_inj, UInt8.toNat_ofNat]
  constructor
  · rintro ⟨low, high, hlead, hlow, hhigh⟩
    split_ifs at hlead <;>
      · injection hlead with hlead
        injection hlead with hn hrange
        injection hrange with hl hh
        subst hn hl hh
        omega
  · rintro ⟨hlow, hhigh, ⟨rfl, h⟩ | ⟨rfl, h⟩ | ⟨rfl, h⟩⟩
    · exact ⟨0x80, 0xBF, if_pos h, by omega, by omega⟩
    · by_cases hE0 : b.toNat = 0xE0
      · refine ⟨0xA0, 0xBF, ?_, by omega, by omega⟩
        rw [if_neg (by omega), if_pos hE0]
      by_cases hED : b.toNat = 0xED
      · refine ⟨0x80, 0x9F, ?_, by omega, by omega⟩
        rw [if_neg (by omega), if_neg hE0, if_pos hED]
      · refine ⟨0x80, 0xBF, ?_, by omega, by omega⟩
        rw [if_neg (by omega), if_neg hE0, if_neg hED, if_pos (by omega)]
    · by_cases hF0 : b.toNat = 0xF0
      · refine ⟨0x90, 0xBF, ?_, by omega, by omega⟩
        rw [if_neg (by omega), if_neg (by omega), if_neg (by omega), if_neg (by omega), if_pos hF0]
      by_cases hF4 : b.toNat = 0xF4
      · refine ⟨0x80, 0x8F, ?_, by omega, by omega⟩
        rw [if_neg (by omega), if_neg (by omega), if_neg (by omega), if_neg (by omega),
          if_neg hF0, if_neg (by omega), if_pos hF4]
      · refine ⟨0x80, 0xBF, ?_, by omega, by omega⟩
        rw [if_neg (by omega), if_neg (by omega), if_neg (by omega), if_neg (by omega),
          if_neg hF0, if_pos (by omega)]

theorem Opens.unique {n n' : Nat} {b b₂ b₂' : UInt8} (h : Opens n b b₂) (h' : Opens n' b b₂') :
    n = n' := by
  obtain ⟨low, high, hlead, -⟩ := h
  obtain ⟨low', high', hlead', -⟩ := h'
  rw [hlead'] at hlead
  injection hlead with hlead
  injection hlead with hn
  exact hn.symm

theorem exists_opens_iff {b : UInt8} : (∃ n b₂, Opens n b b₂) ↔ leadOf? b ≠ none := by
  constructor
  · rintro ⟨n, b₂, low, high, hlead, -⟩ hnone
    rw [hnone] at hlead
    exact absurd hlead (Option.some_ne_none _).symm
  · intro hlead
    obtain ⟨⟨n, low, high⟩, hsome⟩ := Option.ne_none_iff_exists'.mp hlead
    refine ⟨n, low, low, high, hsome, UInt8.le_refl low, ?_⟩
    unfold leadOf? at hsome
    split_ifs at hsome <;> cases hsome <;> decide

theorem not_ascii_of_leadOf? {b : UInt8} (h : leadOf? b ≠ none) : ¬ b < 0x80 := by
  obtain ⟨n, b₂, hopens⟩ := exists_opens_iff.mpr h
  rw [opens_iff] at hopens
  rw [UInt8.lt_iff_toNat_lt]
  show ¬ b.toNat < 0x80
  omega

theorem isContinuation_iff {b : UInt8} :
    isContinuation b = true ↔ 0x80 ≤ b.toNat ∧ b.toNat ≤ 0xBF := by
  simp [isContinuation, UInt8.le_iff_toNat_le]

/-- The bits of a character so far, with those of one more byte. -/
def addBits (code : Nat) (b : UInt8) : Nat := code * 64 + payload b

/-- The character of its first two bytes and those after them. -/
def charOf (b b₂ : UInt8) (tail : List UInt8) : Char :=
  .ofNat (tail.foldl addBits (leadPayload (tail.length + 1) b * 64 + payload b₂))

theorem leadPayload_one (b : UInt8) : leadPayload 1 b = b.toNat % 32 := rfl

theorem leadPayload_two (b : UInt8) : leadPayload 2 b = b.toNat % 16 := rfl

theorem leadPayload_three (b : UInt8) : leadPayload 3 b = b.toNat % 8 := rfl

/-! ## Encodings of characters -/

theorem utf8EncodeChar_ofNat {v : Nat} (hv : v.isValidChar) :
    String.utf8EncodeChar (.ofNat v) =
      if v ≤ 0x7F then [.ofNat v]
      else if v ≤ 0x7FF then [.ofNat (v / 64 + 0xC0), .ofNat (v % 64 + 0x80)]
      else if v ≤ 0xFFFF then
        [.ofNat (v / 4096 + 0xE0), .ofNat (v / 64 % 64 + 0x80), .ofNat (v % 64 + 0x80)]
      else
        [.ofNat (v / 262144 + 0xF0), .ofNat (v / 4096 % 64 + 0x80), .ofNat (v / 64 % 64 + 0x80),
          .ofNat (v % 64 + 0x80)] := by
  have hval : (Char.ofNat v).val.toNat = v := by
    rw [Char.ofNat, dif_pos hv]
    rfl
  have hbound : v < 0x110000 := by
    unfold Nat.isValidChar at hv
    omega
  rw [String.utf8EncodeChar, hval]
  split_ifs with h₁ h₂ h₃
  · rfl
  · rw [Nat.mod_eq_of_lt (show v / 64 < 32 by omega)]
  · rw [Nat.mod_eq_of_lt (show v / 4096 < 16 by omega)]
  · rw [Nat.mod_eq_of_lt (show v / 262144 < 8 by omega)]

theorem utf8EncodeChar_ascii {b : UInt8} (h : b < 0x80) :
    String.utf8EncodeChar (.ofNat b.toNat) = [b] := by
  have hlt : b.toNat < 0x80 := UInt8.lt_iff_toNat_lt.mp h
  rw [utf8EncodeChar_ofNat (by unfold Nat.isValidChar; omega), if_pos (by omega),
    UInt8.ofNat_toNat]

theorem uint8_ofNat_eq {v : Nat} {b : UInt8} (h : v = b.toNat) : UInt8.ofNat v = b := by
  rw [h, UInt8.ofNat_toNat]

/-- Bytes that the table admits encode the character that is made of their bits: they are no
longer than need be, and the character is neither a surrogate nor too large. -/
theorem utf8EncodeChar_charOf {b b₂ : UInt8} {tail : List UInt8}
    (hopens : Opens (tail.length + 1) b b₂) (htail : ∀ x ∈ tail, isContinuation x = true) :
    String.utf8EncodeChar (charOf b b₂ tail) = b :: b₂ :: tail := by
  simp only [isContinuation_iff] at htail
  rw [opens_iff] at hopens
  obtain ⟨hlow, hhigh, h⟩ := hopens
  -- The number of bytes after the first tells which first bytes there can be, and so in which
  -- range the character is.
  match tail with
  | [] =>
    simp only [List.length_nil] at h
    simp only [charOf, List.foldl_nil, List.length_nil, Nat.zero_add, payload, leadPayload_one]
    rw [utf8EncodeChar_ofNat (by unfold Nat.isValidChar; omega), if_neg (by omega),
      if_pos (by omega), uint8_ofNat_eq (show _ = b.toNat by omega),
      uint8_ofNat_eq (show _ = b₂.toNat by omega)]
  | [b₃] =>
    simp only [List.length_cons, List.length_nil] at h
    have h₃ := htail b₃ (by simp)
    simp only [charOf, List.foldl_nil, List.foldl_cons, List.length_nil, List.length_cons,
      Nat.zero_add, Nat.reduceAdd, addBits, payload, leadPayload_two]
    rw [utf8EncodeChar_ofNat (by unfold Nat.isValidChar; omega), if_neg (by omega),
      if_neg (by omega), if_pos (by omega), uint8_ofNat_eq (show _ = b.toNat by omega),
      uint8_ofNat_eq (show _ = b₂.toNat by omega), uint8_ofNat_eq (show _ = b₃.toNat by omega)]
  | [b₃, b₄] =>
    simp only [List.length_cons, List.length_nil] at h
    have h₃ := htail b₃ (by simp)
    have h₄ := htail b₄ (by simp)
    simp only [charOf, List.foldl_nil, List.foldl_cons, List.length_nil, List.length_cons,
      Nat.zero_add, Nat.reduceAdd, addBits, payload, leadPayload_three]
    rw [utf8EncodeChar_ofNat (by unfold Nat.isValidChar; omega), if_neg (by omega),
      if_neg (by omega), if_neg (by omega), uint8_ofNat_eq (show _ = b.toNat by omega),
      uint8_ofNat_eq (show _ = b₂.toNat by omega), uint8_ofNat_eq (show _ = b₃.toNat by omega),
      uint8_ofNat_eq (show _ = b₄.toNat by omega)]
  | _ :: _ :: _ :: _ =>
    simp only [List.length_cons] at h
    omega

/-- A character is one byte, or bytes that the table admits. -/
theorem utf8EncodeChar_cases (c : Char) :
    (∃ b : UInt8, b < 0x80 ∧ c = .ofNat b.toNat ∧ String.utf8EncodeChar c = [b])
    ∨ ∃ b b₂ tail, Opens (tail.length + 1) b b₂ ∧ (∀ x ∈ tail, isContinuation x = true)
        ∧ c = charOf b b₂ tail ∧ String.utf8EncodeChar c = b :: b₂ :: tail := by
  obtain ⟨v, hv, rfl⟩ : ∃ v, v.isValidChar ∧ c = .ofNat v :=
    ⟨c.toNat, c.valid, (Char.ofNat_toNat c).symm⟩
  rw [utf8EncodeChar_ofNat hv]
  unfold Nat.isValidChar at hv
  split_ifs with h₁ h₂ h₃
  · have hmod : (UInt8.ofNat v).toNat = v := by
      rw [UInt8.toNat_ofNat', Nat.mod_eq_of_lt (by omega)]
    refine .inl ⟨.ofNat v, ?_, by rw [hmod], rfl⟩
    rw [UInt8.lt_iff_toNat_lt, hmod]
    exact Nat.lt_succ_of_le h₁
  · refine .inr ⟨_, _, [], ?_, by simp, ?_, rfl⟩
    · simp [opens_iff]
      omega
    · simp [charOf, leadPayload_one, payload]
      congr
      omega
  · refine .inr ⟨_, _, [_], ?_, ?_, ?_, rfl⟩
    · simp [opens_iff]
      omega
    · simp [isContinuation_iff]
      omega
    · simp [charOf, leadPayload_two, payload, addBits]
      congr
      omega
  · refine .inr ⟨_, _, [_, _], ?_, ?_, ?_, rfl⟩
    · simp [opens_iff]
      omega
    · simp [isContinuation_iff]
      omega
    · simp [charOf, leadPayload_three, payload, addBits]
      congr
      omega

/-! ## Beginnings of characters -/

/-- Whether some bytes are the first bytes of a character, or all of them. -/
def Begins (bytes : List UInt8) : Prop := ∃ c, bytes <+: String.utf8EncodeChar c

theorem Begins.of_prefix {p q : List UInt8} (hq : Begins q) (hpq : p <+: q) : Begins p := by
  obtain ⟨c, hc⟩ := hq
  exact ⟨c, hpq.trans hc⟩

theorem begins_cons_cons_iff {b b₂ : UInt8} {q : List UInt8} :
    Begins (b :: b₂ :: q) ↔
      ∃ n, Opens n b b₂ ∧ q.length < n ∧ ∀ x ∈ q, isContinuation x = true := by
  constructor
  · rintro ⟨c, hc⟩
    rcases utf8EncodeChar_cases c with
      ⟨b', -, -, henc⟩ | ⟨b', b₂', tail, hopens, htail, -, henc⟩
    · rw [henc, List.cons_prefix_cons] at hc
      exact absurd (List.prefix_nil.mp hc.2) (List.cons_ne_nil _ _)
    · rw [henc, List.cons_prefix_cons, List.cons_prefix_cons] at hc
      obtain ⟨rfl, rfl, hq⟩ := hc
      exact ⟨tail.length + 1, hopens, Nat.lt_succ_of_le hq.length_le,
        fun x hx => htail x (hq.subset hx)⟩
  · rintro ⟨n, hopens, hlt, hq⟩
    -- Any bytes will do for what is missing, as long as they can follow.
    let pad : List UInt8 := .replicate (n - 1 - q.length) 0x80
    have hlen : (q ++ pad).length + 1 = n := by
      rw [List.length_append, List.length_replicate]
      omega
    have hcont : ∀ x ∈ q ++ pad, isContinuation x = true := by
      intro x hx
      rcases List.mem_append.mp hx with hx | hx
      · exact hq x hx
      · rw [List.eq_of_mem_replicate hx]
        rfl
    refine ⟨charOf b b₂ (q ++ pad), ?_⟩
    rw [utf8EncodeChar_charOf (hlen ▸ hopens) hcont]
    exact ⟨pad, rfl⟩

theorem begins_singleton_iff {b : UInt8} : Begins [b] ↔ b < 0x80 ∨ leadOf? b ≠ none := by
  rw [← exists_opens_iff]
  constructor
  · rintro ⟨c, hc⟩
    rcases utf8EncodeChar_cases c with ⟨b', hb', -, henc⟩ | ⟨b', b₂, tail, hopens, -, -, henc⟩
    · rw [henc, List.cons_prefix_cons] at hc
      exact .inl (hc.1 ▸ hb')
    · rw [henc, List.cons_prefix_cons] at hc
      exact .inr ⟨_, b₂, hc.1 ▸ hopens⟩
  · rintro (hb | ⟨n, b₂, hopens⟩)
    · exact ⟨.ofNat b.toNat, (utf8EncodeChar_ascii hb).symm ▸ List.prefix_rfl⟩
    · have hn : 0 < n := by
        rw [opens_iff] at hopens
        omega
      have htwo : Begins [b, b₂] := begins_cons_cons_iff.mpr ⟨n, hopens, hn, by simp⟩
      exact htwo.of_prefix ⟨[b₂], rfl⟩

/-! ## Faulty stretches -/

/-- Whether `m` is a faulty stretch of bytes that go on with `rest`: no character stands there,
and `m` is all that agrees with the beginning of one, or else a single byte. -/
structure Faulty (m rest : List UInt8) : Prop where
  ne_nil : m ≠ []
  begins : Begins m ∨ m.length = 1
  no_char : ∀ c, ¬ String.utf8EncodeChar c <+: m ++ rest
  longest : ∀ p, p <+: m ++ rest → Begins p → p.length ≤ m.length

/-- It is enough that no character stands within the stretch. -/
theorem Faulty.of_longest {m rest : List UInt8} (hne : m ≠ []) (hbegins : Begins m ∨ m.length = 1)
    (hwhole : ∀ c, ¬ String.utf8EncodeChar c <+: m)
    (hlongest : ∀ p, p <+: m ++ rest → Begins p → p.length ≤ m.length) : Faulty m rest where
  ne_nil := hne
  begins := hbegins
  longest := hlongest
  no_char := by
    intro c hc
    have hle := hlongest _ hc ⟨c, List.prefix_rfl⟩
    exact hwhole c (List.prefix_of_prefix_length_le hc (List.prefix_append m rest) hle)

theorem Faulty.not_begins {m rest : List UInt8} (h : Faulty m rest) (hrest : rest ≠ []) :
    ¬ Begins (m ++ rest) := by
  intro hbegins
  have hle := h.longest _ List.prefix_rfl hbegins
  rw [List.length_append] at hle
  have hpos := List.length_pos_of_ne_nil hrest
  omega

theorem Faulty.length_le {m m' rest rest' : List UInt8} (h : Faulty m rest) (h' : Faulty m' rest')
    (heq : m ++ rest = m' ++ rest') : m'.length ≤ m.length := by
  rcases h'.begins with hbegins | hone
  · exact h.longest m' (heq ▸ List.prefix_append m' rest') hbegins
  · rw [hone]
    exact List.length_pos_of_ne_nil h.ne_nil

/-- Where a faulty stretch ends is not a matter of choice. -/
theorem Faulty.unique {m m' rest rest' : List UInt8} (h : Faulty m rest) (h' : Faulty m' rest')
    (heq : m ++ rest = m' ++ rest') : m = m' ∧ rest = rest' :=
  List.append_inj heq (Nat.le_antisymm (h'.length_le h heq.symm) (h.length_le h' heq))

/-- A byte that begins no character, or only such as go on with other bytes. -/
theorem faulty_singleton {b : UInt8} {rest : List UInt8} (hascii : ¬ b < 0x80)
    (hrest : ∀ b₂ l, rest = b₂ :: l → ¬ Begins [b, b₂]) : Faulty [b] rest := by
  refine .of_longest (List.cons_ne_nil b []) (.inr rfl) ?whole ?longest
  case whole =>
    intro c hc
    rcases utf8EncodeChar_cases c with ⟨b', hb', -, henc⟩ | ⟨b', b₂, tail, -, -, -, henc⟩
    · rw [henc, List.cons_prefix_cons] at hc
      exact hascii (hc.1 ▸ hb')
    · rw [henc] at hc
      have hle := hc.length_le
      simp at hle
  case longest =>
    intro p hp hbegins
    match p, rest with
    | [], _ => exact Nat.zero_le 1
    | [_], _ => exact Nat.le_refl 1
    | x :: y :: q, [] =>
      have hle := hp.length_le
      simp at hle
    | x :: y :: q, b₂ :: l =>
      rw [List.singleton_append, List.cons_prefix_cons, List.cons_prefix_cons] at hp
      obtain ⟨rfl, rfl, -⟩ := hp
      exact absurd (hbegins.of_prefix ⟨q, rfl⟩) (hrest y l rfl)

/-- The first bytes of a character, up to one that cannot follow or to the end. -/
theorem faulty_cons_cons {n : Nat} {b b₂ : UInt8} {tail rest : List UInt8} (hopens : Opens n b b₂)
    (htail : ∀ x ∈ tail, isContinuation x = true) (hlt : tail.length < n - 1)
    (hrest : ∀ x l, rest = x :: l → isContinuation x = false) :
    Faulty (b :: b₂ :: tail) rest := by
  have hm : Begins (b :: b₂ :: tail) := begins_cons_cons_iff.mpr ⟨n, hopens, by omega, htail⟩
  refine .of_longest (List.cons_ne_nil b _) (.inl hm) ?whole ?longest
  case whole =>
    intro c hc
    rcases utf8EncodeChar_cases c with ⟨b', hb', -, henc⟩ | ⟨b', b₂', t, hopens', -, -, henc⟩
    · rw [henc, List.cons_prefix_cons] at hc
      exact not_ascii_of_leadOf? (exists_opens_iff.mp ⟨n, b₂, hopens⟩) (hc.1 ▸ hb')
    · rw [henc, List.cons_prefix_cons, List.cons_prefix_cons] at hc
      obtain ⟨rfl, rfl, ht⟩ := hc
      have hn := hopens.unique hopens'
      have hle := ht.length_le
      omega
  case longest =>
    intro p hp hp'
    match p with
    | [] | [_] => simp
    | x :: y :: q =>
      rw [List.cons_append, List.cons_append, List.cons_prefix_cons, List.cons_prefix_cons] at hp
      obtain ⟨rfl, rfl, hq⟩ := hp
      obtain ⟨n', -, -, hcont⟩ := begins_cons_cons_iff.mp hp'
      have hle : q.length ≤ tail.length := by
        match rest with
        | [] => exact (List.append_nil tail ▸ hq).length_le
        | z :: l =>
          -- Were `q` longer than `tail`, it would hold the byte that stopped the tail.
          refine Nat.le_of_not_lt fun hgt => ?_
          have hsub : tail ++ [z] <+: q :=
            List.prefix_of_prefix_length_le ⟨l, by simp⟩ hq (by simpa using Nat.succ_le_of_lt hgt)
          have hz := hcont z (hsub.subset (by simp))
          exact absurd hz (Bool.eq_false_iff.mp (hrest z l rfl))
      simpa using hle

/-! ## The first segment -/

/-- The bytes of a segment. -/
def Segment.bytes : Segment → List UInt8
  | .scalar c => String.utf8EncodeChar c
  | .invalid bytes | .incomplete bytes => bytes

/-- Whether a segment is what it says it is, if its bytes are followed by `rest`. -/
def Segment.Fits : Segment → List UInt8 → Prop
  | .scalar _, _ => True
  | .invalid m, rest => Faulty m rest ∧ ¬ Begins (m ++ rest)
  | .incomplete m, rest => Faulty m rest ∧ Begins m ∧ rest = []

theorem continueScalar_append (seen : List UInt8) (code : Nat) (tail rest : List UInt8)
    (htail : ∀ x ∈ tail, isContinuation x = true) :
    continueScalar tail.length seen code (tail ++ rest)
      = (.scalar (.ofNat (tail.foldl addBits code)), rest) := by
  induction tail generalizing seen code with
  | nil => rfl
  | cons x tail ih =>
    rw [List.forall_mem_cons] at htail
    rw [List.length_cons, List.cons_append, continueScalar, if_pos htail.1, ih _ _ htail.2]
    rfl

/-- Reading on takes as many bytes as are needed, or stops at the end or at a byte that cannot
follow. -/
theorem continueScalar_cases (n : Nat) (seen : List UInt8) (code : Nat) (bytes : List UInt8) :
    ∃ tail rest, bytes = tail ++ rest ∧ (∀ x ∈ tail, isContinuation x = true) ∧
      (tail.length = n
      ∨ tail.length < n ∧ rest = []
        ∧ continueScalar n seen code bytes = (.incomplete (seen.reverse ++ tail), [])
      ∨ tail.length < n ∧ (∃ x l, rest = x :: l ∧ isContinuation x = false)
        ∧ continueScalar n seen code bytes = (.invalid (seen.reverse ++ tail), rest)) := by
  induction n generalizing seen code bytes with
  | zero => exact ⟨[], bytes, rfl, by simp, .inl rfl⟩
  | succ n ih =>
    match bytes with
    | [] =>
      refine ⟨[], [], rfl, by simp, .inr (.inl ⟨Nat.succ_pos n, rfl, ?_⟩)⟩
      rw [continueScalar, List.append_nil]
    | b :: bytes =>
      by_cases hb : isContinuation b = true
      · obtain ⟨tail, rest, rfl, htail, hcases⟩ := ih (b :: seen) (addBits code b) bytes
        refine ⟨b :: tail, rest, rfl, List.forall_mem_cons.mpr ⟨hb, htail⟩, ?_⟩
        have hstep : continueScalar (n + 1) seen code (b :: (tail ++ rest))
            = continueScalar n (b :: seen) (addBits code b) (tail ++ rest) := if_pos hb
        rw [hstep, List.length_cons]
        simpa only [Nat.add_lt_add_iff_right, Nat.add_right_cancel_iff, List.reverse_cons,
          List.append_assoc, List.singleton_append] using hcases
      · refine ⟨[], b :: bytes, rfl, by simp, .inr (.inr ⟨Nat.succ_pos n, ?_, ?_⟩)⟩
        · exact ⟨b, bytes, rfl, Bool.eq_false_iff.mpr hb⟩
        · rw [continueScalar, if_neg hb, List.append_nil]

theorem firstSegment_of_ascii {b : UInt8} (hb : b < 0x80) (rest : List UInt8) :
    firstSegment b rest = (.scalar (.ofNat b.toNat), rest) := if_pos hb

theorem firstSegment_of_opens {n : Nat} {b b₂ : UInt8} (h : Opens n b b₂) (rest : List UInt8) :
    firstSegment b (b₂ :: rest)
      = continueScalar (n - 1) [b₂, b] (leadPayload n b * 64 + payload b₂) rest := by
  obtain ⟨low, high, hlead, hlow, hhigh⟩ := h
  have hascii : ¬ b < 0x80 := not_ascii_of_leadOf? (by rw [hlead]; exact Option.some_ne_none _)
  simp only [firstSegment, hlead, if_neg hascii, decide_eq_true hlow, decide_eq_true hhigh,
    Bool.and_self, if_true]

/-- A character is read back from its bytes, whatever follows them. -/
theorem firstSegment_append {c : Char} {b : UInt8} {m : List UInt8}
    (henc : String.utf8EncodeChar c = b :: m) (rest : List UInt8) :
    firstSegment b (m ++ rest) = (.scalar c, rest) := by
  rcases utf8EncodeChar_cases c with
    ⟨b', hb', rfl, henc'⟩ | ⟨b', b₂, tail, hopens, htail, rfl, henc'⟩
  · obtain ⟨rfl, rfl⟩ := List.cons.inj (henc.symm.trans henc')
    exact firstSegment_of_ascii hb' rest
  · obtain ⟨rfl, rfl⟩ := List.cons.inj (henc.symm.trans henc')
    rw [List.cons_append, firstSegment_of_opens hopens]
    exact continueScalar_append [b₂, b] _ tail rest htail

theorem firstSegment_of_not_begins {b : UInt8} (hb : ¬ Begins [b]) (rest : List UInt8) :
    firstSegment b rest = (.invalid [b], rest) := by
  rw [begins_singleton_iff, not_or, not_not] at hb
  simp only [firstSegment, hb.2, if_neg hb.1]

theorem firstSegment_singleton {b : UInt8} (hascii : ¬ b < 0x80) (hb : Begins [b]) :
    firstSegment b [] = (.incomplete [b], []) := by
  have hlead : leadOf? b ≠ none := (begins_singleton_iff.mp hb).resolve_left hascii
  obtain ⟨lead, hsome⟩ := Option.ne_none_iff_exists'.mp hlead
  simp only [firstSegment, hsome, if_neg hascii]

theorem firstSegment_of_not_opens {b b₂ : UInt8} (hascii : ¬ b < 0x80) (hb : Begins [b])
    (h : ∀ n, ¬ Opens n b b₂) (rest : List UInt8) :
    firstSegment b (b₂ :: rest) = (.invalid [b], b₂ :: rest) := by
  have hlead : leadOf? b ≠ none := (begins_singleton_iff.mp hb).resolve_left hascii
  obtain ⟨⟨n, low, high⟩, hsome⟩ := Option.ne_none_iff_exists'.mp hlead
  have hrange : (decide (low ≤ b₂) && decide (b₂ ≤ high)) = false := by
    rw [Bool.and_eq_false_iff, decide_eq_false_iff_not, decide_eq_false_iff_not, ← not_and_or]
    exact fun hin => h n ⟨low, high, hsome, hin⟩
  simp only [firstSegment, hsome, if_neg hascii, hrange, Bool.false_eq_true, if_false]

/-- The first segment of bytes that begin a character of several. -/
theorem firstSegment_spec_of_opens {n : Nat} {b b₂ : UInt8} (hopens : Opens n b b₂)
    (bytes : List UInt8) :
    ∃ s rest, firstSegment b (b₂ :: bytes) = (s, rest) ∧ b :: b₂ :: bytes = s.bytes ++ rest
      ∧ s.Fits rest := by
  have hfirst := firstSegment_of_opens hopens bytes
  obtain ⟨tail, rest, rfl, htail, hlen | ⟨hlt, rfl, hres⟩ | ⟨hlt, ⟨x, l, rfl, hx⟩, hres⟩⟩ :=
    continueScalar_cases (n - 1) [b₂, b] (leadPayload n b * 64 + payload b₂) bytes
  · -- All bytes of a character are there.
    have hn : tail.length + 1 = n := by
      rw [opens_iff] at hopens
      omega
    have henc := utf8EncodeChar_charOf (hn ▸ hopens) htail
    refine ⟨_, _, firstSegment_append henc rest, ?_, trivial⟩
    rw [Segment.bytes, henc]
    rfl
  · -- The input ends before the character does.
    refine ⟨_, _, hfirst.trans hres, by simp [Segment.bytes], ?_, ?_, rfl⟩
    · exact faulty_cons_cons hopens htail hlt fun x l hnil =>
        absurd hnil (List.cons_ne_nil x l).symm
    · exact begins_cons_cons_iff.mpr ⟨n, hopens, Nat.lt_of_lt_pred hlt, htail⟩
  · -- A byte comes that the character cannot go on with.
    have hfaulty : Faulty (b :: b₂ :: tail) (x :: l) := by
      refine faulty_cons_cons hopens htail hlt fun x' l' hcons => ?_
      rw [← (List.cons.inj hcons).1]
      exact hx
    exact ⟨_, _, hfirst.trans hres, rfl, hfaulty, hfaulty.not_begins (List.cons_ne_nil x l)⟩

/-- The first segment is a character or else a faulty stretch, and the bytes after it are those
that are left. -/
theorem firstSegment_spec (b : UInt8) (bytes : List UInt8) :
    ∃ s rest, firstSegment b bytes = (s, rest) ∧ b :: bytes = s.bytes ++ rest ∧ s.Fits rest := by
  by_cases hascii : b < 0x80
  · refine ⟨_, _, firstSegment_of_ascii hascii bytes, ?_, trivial⟩
    rw [Segment.bytes, utf8EncodeChar_ascii hascii]
    rfl
  by_cases hb : Begins [b]
  · match bytes with
    | [] =>
      refine ⟨_, _, firstSegment_singleton hascii hb, rfl, faulty_singleton hascii ?_, hb, rfl⟩
      intro b₂ l hnil
      exact absurd hnil (List.cons_ne_nil b₂ l).symm
    | b₂ :: bytes =>
      by_cases hopens : ∃ n, Opens n b b₂
      · obtain ⟨n, hopens⟩ := hopens
        exact firstSegment_spec_of_opens hopens bytes
      · have htwo : ¬ Begins [b, b₂] := by
          rw [begins_cons_cons_iff]
          rintro ⟨n, hn, -⟩
          exact hopens ⟨n, hn⟩
        have hfirst := firstSegment_of_not_opens hascii hb (not_exists.mp hopens) bytes
        have hfaulty : Faulty [b] (b₂ :: bytes) := by
          refine faulty_singleton hascii fun b₂' l hcons => ?_
          rw [← (List.cons.inj hcons).1]
          exact htwo
        exact ⟨_, _, hfirst, rfl, hfaulty, hfaulty.not_begins (List.cons_ne_nil b₂ bytes)⟩
  · refine ⟨_, _, firstSegment_of_not_begins hb bytes, rfl, faulty_singleton hascii ?_, ?_⟩
    · intro b₂ l _ hbegins
      exact hb (hbegins.of_prefix ⟨[b₂], rfl⟩)
    · intro hbegins
      exact hb (hbegins.of_prefix ⟨bytes, rfl⟩)

/-! ## All segments -/

theorem segments_cons (b : UInt8) (bytes : List UInt8) :
    segments (b :: bytes) = (firstSegment b bytes).1 :: segments (firstSegment b bytes).2 := by
  rw [segments]

theorem segments_utf8EncodeChar_append (c : Char) (rest : List UInt8) :
    segments (String.utf8EncodeChar c ++ rest) = .scalar c :: segments rest := by
  obtain ⟨b, m, henc⟩ := List.exists_cons_of_ne_nil (String.utf8EncodeChar_ne_nil (c := c))
  rw [henc, List.cons_append, segments_cons, firstSegment_append henc]

/-- A faulty stretch is a segment of its own, for which a replacement character is read. -/
theorem segments_faulty_append {m rest : List UInt8} (h : Faulty m rest) :
    ∃ s : Segment, s.lossy = replacement ∧ segments (m ++ rest) = s :: segments rest := by
  obtain ⟨b, m', rfl⟩ := List.exists_cons_of_ne_nil h.ne_nil
  obtain ⟨s, rest', hfirst, hbytes, hfits⟩ := firstSegment_spec b (m' ++ rest)
  have hsegments : segments (b :: m' ++ rest) = s :: segments rest' := by
    rw [List.cons_append, segments_cons, hfirst]
  have hrest : Faulty s.bytes rest' → rest' = rest := fun hfaulty =>
    (hfaulty.unique h hbytes.symm).2
  cases s with
  | scalar c =>
    refine absurd ?_ (h.no_char c)
    rw [List.cons_append, hbytes]
    exact List.prefix_append _ rest'
  | invalid m'' => exact ⟨_, rfl, hrest hfits.1 ▸ hsegments⟩
  | incomplete m'' => exact ⟨_, rfl, hrest hfits.1 ▸ hsegments⟩

/-- Induction on the segments of a byte sequence. -/
theorem segments_induction {motive : List UInt8 → Prop} (nil : motive [])
    (segment : ∀ (s : Segment) (rest : List UInt8), s.Fits rest →
      segments (s.bytes ++ rest) = s :: segments rest → motive rest → motive (s.bytes ++ rest))
    (bytes : List UInt8) : motive bytes := by
  match bytes with
  | [] => exact nil
  | b :: bytes =>
    obtain ⟨s, rest, hfirst, hbytes, hfits⟩ := firstSegment_spec b bytes
    have hlt : rest.length < (b :: bytes).length := by
      have hle := firstSegment_length_le b bytes
      rw [hfirst] at hle
      exact Nat.lt_succ_of_le hle
    rw [hbytes]
    refine segment s rest hfits ?_ (segments_induction nil segment rest)
    rw [← hbytes, segments_cons, hfirst]
termination_by bytes.length
decreasing_by exact hlt

/-- The segments are all of the bytes, in order. -/
theorem flatMap_segments (bytes : List UInt8) : (segments bytes).flatMap Segment.bytes = bytes := by
  induction bytes using segments_induction with
  | nil =>
    rw [segments]
    rfl
  | segment s rest _ hsegments ih => rw [hsegments, List.flatMap_cons, ih]

theorem segments_flatMap (cs : List Char) :
    segments (cs.flatMap String.utf8EncodeChar) = cs.map .scalar := by
  induction cs with
  | nil =>
    rw [List.flatMap_nil, segments]
    rfl
  | cons c cs ih => rw [List.flatMap_cons, segments_utf8EncodeChar_append, ih, List.map_cons]

/-- The segments of the bytes of a text are its characters. -/
theorem segments_encode (t : String) : segments (encode t) = t.toList.map .scalar :=
  segments_flatMap t.toList

/-! ## Decoding -/

/-- Bytes as characters, if they need not be well-formed: each character as it stands, and a
replacement character for each faulty stretch. -/
inductive Repairs : List UInt8 → List Char → Prop where
  | nil : Repairs [] []
  | char (c : Char) {rest : List UInt8} {cs : List Char} (hrest : Repairs rest cs) :
      Repairs (String.utf8EncodeChar c ++ rest) (c :: cs)
  | fault {m rest : List UInt8} {cs : List Char} (hm : Faulty m rest) (hrest : Repairs rest cs) :
      Repairs (m ++ rest) (replacement :: cs)

theorem repairs_segments (bytes : List UInt8) :
    Repairs bytes ((segments bytes).map Segment.lossy) := by
  induction bytes using segments_induction with
  | nil =>
    rw [segments]
    exact .nil
  | segment s rest hfits hsegments ih =>
    rw [hsegments, List.map_cons]
    cases s with
    | scalar c => exact .char c ih
    | invalid m => exact .fault hfits.1 ih
    | incomplete m => exact .fault hfits.1 ih

theorem Repairs.eq_segments {bytes : List UInt8} {cs : List Char} (h : Repairs bytes cs) :
    cs = (segments bytes).map Segment.lossy := by
  induction h with
  | nil =>
    rw [segments]
    rfl
  | char c _ ih =>
    rw [segments_utf8EncodeChar_append, List.map_cons, ← ih]
    rfl
  | fault hm _ ih =>
    obtain ⟨s, hs, hsegments⟩ := segments_faulty_append hm
    rw [hsegments, List.map_cons, hs, ← ih]

/-- Lossy decoding replaces the faulty stretches and nothing else. -/
theorem repairs_iff {bytes : List UInt8} {t : String} :
    Repairs bytes t.toList ↔ decodeLossy bytes = t := by
  constructor
  · intro h
    rw [decodeLossy, ← h.eq_segments, String.ofList_toList]
  · rintro rfl
    rw [decodeLossy, String.toList_ofList]
    exact repairs_segments bytes

theorem decodeLossy_encode (t : String) : decodeLossy (encode t) = t := by
  rw [decodeLossy, segments_encode, List.map_map]
  show String.ofList (t.toList.map id) = t
  rw [List.map_id, String.ofList_toList]

theorem charactersFrom_scalars (i : Nat) (cs : List Char) :
    charactersFrom i (cs.map .scalar) = .ok cs := by
  induction cs generalizing i with
  | nil => rfl
  | cons c cs ih =>
    rw [List.map_cons, charactersFrom, ih]
    rfl

/-- Where strict decoding finds no fault, all segments are characters. -/
theorem eq_scalars_of_charactersFrom {i : Nat} {l : List Segment} {cs : List Char}
    (h : charactersFrom i l = .ok cs) : l = cs.map .scalar := by
  induction l generalizing i cs with
  | nil =>
    cases h
    rfl
  | cons s l ih =>
    cases s with
    | scalar c =>
      obtain ⟨cs', hl, rfl⟩ := exceptMap_eq_ok_iff.mp h
      rw [ih hl, List.map_cons]
    | invalid m => cases h
    | incomplete m => cases h

/-- Strict decoding gives the text with these bytes, if there is one. -/
theorem decodeStrict_eq_ok_iff {bytes : List UInt8} {t : String} :
    decodeStrict bytes = .ok t ↔ encode t = bytes := by
  constructor
  · intro h
    obtain ⟨cs, hcs, rfl⟩ := exceptMap_eq_ok_iff.mp h
    rw [← flatMap_segments bytes, eq_scalars_of_charactersFrom hcs, encode, String.toList_ofList,
      List.flatMap_map]
    rfl
  · rintro rfl
    rw [decodeStrict, segments_encode, charactersFrom_scalars]
    exact congrArg Except.ok String.ofList_toList

/-- The bytes of texts are those that are valid. -/
theorem isValidUTF8_iff {bytes : List UInt8} :
    bytes.toByteArray.IsValidUTF8 ↔ ∃ t, encode t = bytes := by
  constructor
  · rintro ⟨cs, hcs⟩
    refine ⟨String.ofList cs, ?_⟩
    rw [encode, String.toList_ofList]
    exact (List.toByteArray_inj.mp hcs).symm
  · rintro ⟨t, rfl⟩
    exact ⟨t.toList, rfl⟩

end Text

end ScriptHost
